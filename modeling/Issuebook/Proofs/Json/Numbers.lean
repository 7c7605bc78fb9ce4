import Issuebook.Proofs.Json.Words

/-!
# Numbers to the end

A text without a point that JSON reads as a number, and nothing behind it, is made up of whole
digits and an exponent, if it has one (`readNumber_to_end`). Digits of ASCII count the same as
digits of any script (`decimalNumber?_of_digits`), so whoever reads such a text by the rules for
those reads the same number.
-/

namespace Issuebook

namespace Text

variable {char : Char} {text : Text}

/-- Below the digits of other scripts only those of ASCII have a value. -/
theorem digitValue?_of_lt (low : char.val.toNat < 0x660) :
    digitValue? char = if char.isDigit then some (char.val.toNat - 48) else none := by
  have others : ∀ start ∈ digitZeros.tail, 0x660 ≤ start := by decide
  have noOther : digitZeros.tail.find?
      (fun start => start ≤ char.val.toNat && char.val.toNat ≤ start + 9) = none := by
    refine List.find?_eq_none.mpr fun start listed within => ?_
    have above := others start listed
    simp only [Bool.and_eq_true, decide_eq_true_eq] at within
    omega
  have isDigit_iff : char.isDigit = (48 ≤ char.val.toNat && char.val.toNat ≤ 48 + 9) := by
    simp [Char.isDigit, UInt32.le_iff_toNat_le]
  have shape : digitZeros = 48 :: digitZeros.tail := rfl
  rw [digitValue?, shape, List.find?_cons, noOther, isDigit_iff]
  cases 48 ≤ char.val.toNat && char.val.toNat ≤ 48 + 9 <;> rfl

/-- The number of a digit's character. -/
theorem toNat_of_isDigit (digit : char.isDigit) :
    48 ≤ char.val.toNat ∧ char.val.toNat ≤ 57 := by
  simpa [Char.isDigit, UInt32.le_iff_toNat_le] using digit

/-- The value of a digit. -/
theorem digitValue?_of_isDigit (digit : char.isDigit) :
    digitValue? char = some (char.val.toNat - 48) := by
  have low : char.val.toNat < 0x660 := by
    have bounds := toNat_of_isDigit digit
    omega
  rw [digitValue?_of_lt low, if_pos digit]

/-- Digits of ASCII write the same number as digits of any script. -/
theorem decimalNumber?_of_digits (present : text ≠ []) (digits : ∀ char ∈ text, char.isDigit) :
    decimalNumber? text = some (digitsNumber text) := by
  have values : text.mapM digitValue? = some (text.map fun char => char.val.toNat - 48) := by
    clear present
    induction text with
    | nil => rfl
    | cons char text inductionHypothesis =>
        obtain ⟨here, later⟩ := List.forall_mem_cons.mp digits
        rw [List.mapM_cons, digitValue?_of_isDigit here, inductionHypothesis later]
        rfl
  rw [decimalNumber?, if_neg (by simpa using present), values, Option.map_some, List.foldl_map]
  rfl

/-- A text with another character is no number. -/
theorem decimalNumber?_eq_none (listed : char ∈ text) (other : digitValue? char = none) :
    decimalNumber? text = none := by
  have values : text.mapM digitValue? = none := by
    induction text with
    | nil => cases listed
    | cons first text inductionHypothesis =>
        rw [List.mapM_cons]
        rcases List.mem_cons.mp listed with rfl | listed
        · rw [other]
          rfl
        · rw [inductionHypothesis listed]
          cases digitValue? first <;> rfl
  rw [decimalNumber?, values]
  exact ite_self _

/-- All digits are taken, up to another character. -/
theorem takeDigits_of_digits (digits : ∀ char ∈ text, char.isDigit) {after : Text}
    (stops : ∀ char ∈ after.head?, char.isDigit = false) :
    takeDigits (text ++ after) = (text, after) := by
  have front : text.takeWhile Char.isDigit = text := List.takeWhile_eq_self_iff.mpr digits
  have back : after.takeWhile Char.isDigit = [] ∧ after.dropWhile Char.isDigit = after := by
    cases after with
    | nil => exact ⟨rfl, rfl⟩
    | cons char after => simp [stops char rfl]
  rw [takeDigits, List.takeWhile_append_of_pos digits, List.dropWhile_append_of_pos digits, back.1,
    back.2, List.append_nil]

/-- Taking digits divides a text. -/
theorem takeDigits_append_self (text : Text) : (takeDigits text).1 ++ (takeDigits text).2 = text :=
  List.takeWhile_append_dropWhile

/-- What is taken are digits. -/
theorem isDigit_of_mem_takeDigits (listed : char ∈ (takeDigits text).1) : char.isDigit :=
  List.mem_takeWhile_imp listed

end Text

namespace Json

open Text

variable {char : Char} {text after : Text} {value : Value} {negative : Bool}

/-- The whole part of a number. -/
theorem eq_of_takeWhole? {whole : Text} (taken : takeWhole? text = some (whole, after)) :
    text = whole ++ after ∧ whole ≠ [] ∧ ∀ char ∈ whole, char.isDigit := by
  unfold takeWhole? at taken
  split at taken
  · obtain ⟨rfl, rfl⟩ := Prod.mk.inj (Option.some.inj taken)
    exact ⟨rfl, List.cons_ne_nil _ _, by decide⟩
  · dsimp only at taken
    split_ifs at taken with empty
    obtain ⟨rfl, rfl⟩ := Prod.mk.inj (Option.some.inj taken)
    exact ⟨(takeDigits_append_self text).symm, by simpa using empty,
      fun char listed => isDigit_of_mem_takeDigits listed⟩

/-- An exponent that leaves nothing of a text is the exponent of the whole text. -/
theorem exponent?_of_takeExponent {power : Int}
    (taken : takeExponent (char :: text) = (some power, [])) :
    (char = 'e' ∨ char = 'E') ∧ exponent? (char :: text) = some power := by
  by_cases mark : char = 'e' ∨ char = 'E'
  · refine ⟨mark, ?_⟩
    rw [takeExponent_of_mark mark] at taken
    by_cases empty : (takeDigits (takeSign text).2).1.isEmpty
    · rw [if_pos empty] at taken
      cases taken
    · rw [if_neg empty] at taken
      obtain ⟨size, ended⟩ := Prod.mk.inj taken
      have whole : (takeDigits (takeSign text).2).1 = (takeSign text).2 := by
        conv_rhs => rw [← takeDigits_append_self (takeSign text).2, ended, List.append_nil]
      have digits : (takeSign text).2.all Char.isDigit := by
        rw [← whole]
        exact List.all_eq_true.mpr fun char listed => isDigit_of_mem_takeDigits listed
      rw [whole] at empty size
      have present : (takeSign text).2 ≠ [] := by simpa using empty
      rw [exponent?, if_pos mark]
      exact (if_pos ⟨present, digits⟩).trans size
  · rw [takeExponent_of_other (not_or.mp mark)] at taken
    cases taken

/-- Where there is no exponent nothing is taken. -/
theorem eq_of_takeExponent_none (none : takeExponent text = (none, after)) : after = text := by
  cases text with
  | nil => exact (Prod.mk.inj none).2.symm
  | cons char text =>
      by_cases mark : char = 'e' ∨ char = 'E'
      · rw [takeExponent_of_mark mark] at none
        by_cases empty : (takeDigits (takeSign text).2).1.isEmpty
        · rw [if_pos empty] at none
          exact (Prod.mk.inj none).2.symm
        · rw [if_neg empty] at none
          cases none
      · rw [takeExponent_of_other (not_or.mp mark)] at none
        exact (Prod.mk.inj none).2.symm

/-- A number without a point is made up of whole digits and an exponent, if it has one. -/
theorem readNumber_to_end (read : readNumber negative text = some (value, []))
    (pointless : '.' ∉ text) :
    ∃ whole after, text = whole ++ after ∧ whole ≠ [] ∧ (∀ char ∈ whole, char.isDigit) ∧
      (after = [] ∧
        value = .int (if negative then -(digitsNumber whole : Int) else digitsNumber whole) ∨
      ∃ mark more power, after = mark :: more ∧ (mark = 'e' ∨ mark = 'E') ∧
        exponent? after = some power ∧ value = .float (Binary64.ofDecimal negative
          (digitsNumber (whole.dropWhile (· = '0')))
          (whole.dropWhile (· = '0')).length power)) := by
  obtain ⟨⟨whole, after⟩, taken, rest⟩ := Option.bind_eq_some_iff.mp read
  obtain ⟨shape, present, digits⟩ := eq_of_takeWhole? taken
  have noPoint : after.head? ≠ some '.' := fun point =>
    pointless (shape ▸ List.mem_append_right _ (List.mem_of_head? point))
  refine ⟨whole, after, shape, present, digits, ?_⟩
  cases exponent : takeExponent after with
  | mk power left =>
      simp only [takeFraction_of_pointless noPoint, exponent] at rest
      cases power with
      | none =>
          obtain ⟨same, rfl⟩ := Prod.mk.inj (Option.some.inj rest)
          exact .inl ⟨(eq_of_takeExponent_none exponent).symm, same.symm⟩
      | some power =>
          obtain ⟨same, rfl⟩ := Prod.mk.inj (Option.some.inj rest)
          obtain ⟨mark, more, rfl⟩ : ∃ mark more, after = mark :: more := by
            refine List.exists_cons_of_ne_nil ?_
            rintro rfl
            cases exponent
          obtain ⟨isMark, written⟩ := exponent?_of_takeExponent exponent
          refine .inr ⟨mark, more, power, rfl, isMark, written, ?_⟩
          simpa using same.symm

end Json

namespace Binary64

open Text

/-- Digits and an exponent without a point between them. -/
theorem ofDigits?_of_pointless {digits after : Text} (present : digits ≠ [])
    (each : ∀ char ∈ digits, char.isDigit)
    (stops : ∀ char ∈ after.head?, char.isDigit = false ∧ char ≠ '.') (negative : Bool) :
    ofDigits? negative (digits ++ after) = (exponent? after).map fun power =>
      ofDecimal negative (digitsNumber (digits.dropWhile (· = '0')))
        (digits.dropWhile (· = '0')).length power := by
  have front := takeDigits_of_digits each fun char first => (stops char first).1
  rw [ofDigits?, front]
  dsimp only
  split
  · exact absurd rfl (stops '.' rfl).2
  · simp [present]

end Binary64

namespace Json

open Text

/-- The digits of a word are plain. -/
theorem withPlainDigits_of_isWord {text : Text} (word : IsWord text) :
    withPlainDigits text = text := by
  refine (List.map_congr_left fun char listed => ?_).trans (List.map_id text)
  have low : char.val.toNat < 0x660 := by
    have bounds := toNat_of_isWordPart (word.2 char listed)
    omega
  rw [digitValue?_of_lt low]
  by_cases digit : char.isDigit
  · have above : 48 ≤ char.val.toNat := (toNat_of_isDigit digit).1
    rw [if_pos digit]
    dsimp only
    rw [Nat.add_sub_cancel' above]
    exact Char.ofNat_toNat char
  · rw [if_neg digit]
    rfl

end Json

end Issuebook
