import Issuebook.Number.Shortest
import Mathlib.Tactic.SplitIfs

/-!
# Characters of written numbers

A number is written with ASCII digits and a few more ASCII characters.
-/

namespace Issuebook

namespace Text

variable {char : Char} {first second : Text}

/-- A digit, or another character of a written number. -/
def IsNumberChar (char : Char) : Prop :=
  char.isDigit ∨ char ∈ ("+-.aefin" : Text)

instance (char : Char) : Decidable (IsNumberChar char) :=
  inferInstanceAs (Decidable (_ ∨ _))

/-- A text of such characters. -/
def IsNumberText (text : Text) : Prop :=
  ∀ char ∈ text, IsNumberChar char

instance (text : Text) : Decidable (IsNumberText text) :=
  List.decidableBAll _ _

/-- Two texts of number characters are one together. -/
theorem IsNumberText.append (front : IsNumberText first) (back : IsNumberText second) :
    IsNumberText (first ++ second) :=
  List.forall_mem_append.mpr ⟨front, back⟩

/-- So is such a character with such a text. -/
theorem IsNumberText.cons (front : IsNumberChar char) (back : IsNumberText second) :
    IsNumberText (char :: second) :=
  List.forall_mem_cons.mpr ⟨front, back⟩

/-- Zeros are number characters. -/
theorem isNumberText_zeros (count : Nat) : IsNumberText (List.replicate count '0') := by
  intro char present
  rw [List.eq_of_mem_replicate present]
  decide

/-- So are the digits of a natural number. -/
theorem isNumberText_ofNat (number : Nat) : IsNumberText (ofNat number) :=
  fun _ present => .inl (Nat.isDigit_of_mem_toDigits (by decide) (by decide) present)

/-- So is a whole number with its sign. -/
theorem isNumberText_ofInt (number : Int) : IsNumberText (ofInt number) := by
  cases number with
  | ofNat number => exact isNumberText_ofNat number
  | negSucc number => exact .cons (by decide) (isNumberText_ofNat (number + 1))

end Text

namespace Binary64

open Text

/-- So are significant digits. -/
theorem isNumberText_significant (digits : Nat) : IsNumberText (significant digits) := by
  intro char present
  have kept := (List.dropWhile_suffix fun char => decide (char = '0')).subset
    (List.mem_reverse.mp present)
  exact isNumberText_ofNat digits char (List.mem_reverse.mp kept)

variable {digits : Text}

/-- So are digits with a point between them. -/
theorem isNumberText_positional (plain : IsNumberText digits) (point : Int) :
    IsNumberText (positional digits point) := by
  unfold positional
  dsimp only
  split_ifs
  · exact ((by decide : IsNumberText "0.").append (isNumberText_zeros _)).append plain
  · exact (plain.append (isNumberText_zeros _)).append (by decide)
  · refine IsNumberText.append (fun char present => ?_) (.cons (by decide) fun char present => ?_)
    · exact plain char (List.mem_of_mem_take present)
    · exact plain char (List.mem_of_mem_drop present)

/-- So are digits with an exponent. -/
theorem isNumberText_scientific (style : Style) (plain : IsNumberText digits) (point : Int) :
    IsNumberText (scientific style digits point) := by
  have power : IsNumberText (padded style.exponentWidth (point - 1).natAbs) :=
    (isNumberText_zeros _).append (isNumberText_ofNat _)
  have sign : IsNumberChar (if point - 1 < 0 then '-' else '+') := by
    split_ifs <;> decide
  unfold scientific
  refine IsNumberText.append ?_ (.cons (by decide) (.cons sign power))
  split
  · exact plain
  · exact plain
  · obtain ⟨first, rest⟩ := List.forall_mem_cons.mp plain
    exact .cons first (.cons (by decide) rest)

/-- A floating-point number is written in the characters of numbers. -/
theorem isNumberText_toText (number : Binary64) : IsNumberText number.toText := by
  have sign (negative : Bool) : IsNumberText (if negative then ['-'] else []) := by
    cases negative <;> decide
  unfold toText write
  split
  · decide
  · exact (sign _).append (by decide)
  · refine (sign _).append ?_
    split_ifs
    · decide
    · dsimp only
      split_ifs
      · exact isNumberText_positional (isNumberText_significant _) _
      · exact isNumberText_scientific _ (isNumberText_significant _) _

end Binary64

end Issuebook
