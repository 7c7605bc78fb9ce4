import Issuebook.Proofs.Json.Literals
import Issuebook.Proofs.Text.Lines
import Issuebook.Proofs.Text.Trimming

/-!
# Escaped text

Text in which every backslash opens one of the escapes that literals are written with. It can be
cut at any blank, colon, comma or closing bracket, and at the ends of its lines, without an
escape coming apart: `Escaped.cut` and `Escaped.mem_lines`.
-/

namespace Issuebook.Json

open Text

variable {allowed : Char → Prop} {char mark : Char} {text first second unit : Text}

/-- A character that is allowed to stand by itself, or one escape: a letter behind a backslash, or
four digits of a control character. -/
inductive EscapeUnit (allowed : Char → Prop) : Text → Prop where
  /-- A character other than the backslash. -/
  | plain {char : Char} (other : char ≠ '\\') (stands : allowed char) : EscapeUnit allowed [char]
  /-- A short escape. -/
  | letter {letter char : Char} (escape : unescape? letter = some char) :
      EscapeUnit allowed ['\\', letter]
  /-- The escape of a control character. -/
  | code {first second third fourth : Char} {number : Nat}
      (digits : unit? first second third fourth = some number) (control : number < 32) :
      EscapeUnit allowed ['\\', 'u', first, second, third, fourth]

/-- Text that consists of allowed characters and escapes. -/
inductive Escaped (allowed : Char → Prop) : Text → Prop where
  /-- The empty text. -/
  | nil : Escaped allowed []
  /-- A text with one more character or escape in front. -/
  | cons {unit rest : Text} (front : EscapeUnit allowed unit) (later : Escaped allowed rest) :
      Escaped allowed (unit ++ rest)

/-- The characters at which metadata is cut; none is part of an escape. -/
def isSplitter (char : Char) : Bool :=
  isBlank char || char == ':' || char == ',' || char == ']'

/-- A line break splits a text. -/
theorem isSplitter_of_isLineBreak (ends : isLineBreak char) : isSplitter char := by
  simp [isSplitter, isBlank_of_isLineBreak ends]

/-- A letter of an escape does not. -/
theorem not_isSplitter_of_unescape? {letter : Char} (escape : unescape? letter = some char) :
    ¬ isSplitter letter := by
  unfold unescape? at escape
  split_ifs at escape with same
  · rcases same with rfl | rfl | rfl <;> decide
  all_goals subst letter; decide

/-- Neither does a hexadecimal digit. -/
theorem not_isSplitter_of_hexDigitValue? {value : Nat} (digit : hexDigitValue? char = some value) :
    ¬ isSplitter char := by
  have range : (48 ≤ char.toNat ∧ char.toNat ≤ 57) ∨ (97 ≤ char.toNat ∧ char.toNat ≤ 102) ∨
      (65 ≤ char.toNat ∧ char.toNat ≤ 70) := by
    simp only [hexDigitValue?, Char.toNat_val] at digit
    split_ifs at digit with decimal small capital
    · exact .inl decimal
    · exact .inr (.inl small)
    · exact .inr (.inr capital)
  have apart (other : Char) (same : char = other) : char.toNat = other.toNat := by
    rw [same]
  intro splits
  simp only [isSplitter, isBlank, Char.toNat_val, Bool.or_eq_true, Bool.and_eq_true,
    decide_eq_true_eq, beq_iff_eq] at splits
  rcases splits with ((blank | colon) | comma) | bracket
  · omega
  · have := apart ':' colon
    simp at this
    omega
  · have := apart ',' comma
    simp at this
    omega
  · have := apart ']' bracket
    simp at this
    omega

/-- Neither do the four digits of a unit. -/
theorem not_isSplitter_of_unit? {first second third fourth : Char} {number : Nat}
    (digits : unit? first second third fourth = some number) :
    ∀ char ∈ [first, second, third, fourth], ¬ isSplitter char := by
  obtain ⟨_, firstDigit, _, secondDigit, _, thirdDigit, _, fourthDigit, -⟩ :
      ∃ a, hexDigitValue? first = some a ∧ ∃ b, hexDigitValue? second = some b ∧
        ∃ c, hexDigitValue? third = some c ∧ ∃ d, hexDigitValue? fourth = some d ∧
          some (((a * 16 + b) * 16 + c) * 16 + d) = some number := by
    simpa [unit?, Option.bind_eq_some_iff] using digits
  simp only [List.forall_mem_cons]
  exact ⟨not_isSplitter_of_hexDigitValue? firstDigit, not_isSplitter_of_hexDigitValue? secondDigit,
    not_isSplitter_of_hexDigitValue? thirdDigit, not_isSplitter_of_hexDigitValue? fourthDigit,
    by simp⟩

/-- A unit is one character, or begins with a backslash and is never cut. -/
theorem EscapeUnit.shape (front : EscapeUnit allowed unit) :
    (∃ char, unit = [char] ∧ char ≠ '\\' ∧ allowed char) ∨
      ((∃ rest, unit = '\\' :: rest) ∧ ∀ char ∈ unit, ¬ isSplitter char) := by
  cases front with
  | plain other stands => exact .inl ⟨_, rfl, other, stands⟩
  | letter escape =>
      refine .inr ⟨⟨_, rfl⟩, ?_⟩
      simp only [List.forall_mem_cons]
      exact ⟨by decide, not_isSplitter_of_unescape? escape, by simp⟩
  | code digits =>
      refine .inr ⟨⟨_, rfl⟩, ?_⟩
      rw [List.forall_mem_cons, List.forall_mem_cons]
      exact ⟨by decide, by decide, not_isSplitter_of_unit? digits⟩

namespace Escaped

/-- Two escaped texts are escaped together. -/
theorem append (front : Escaped allowed first) (back : Escaped allowed second) :
    Escaped allowed (first ++ second) := by
  induction front with
  | nil => exact back
  | cons front later inductionHypothesis =>
      rw [List.append_assoc]
      exact .cons front inductionHypothesis

/-- A text without backslashes is escaped if its characters are allowed. -/
theorem of_plain (plain : ∀ char ∈ text, char ≠ '\\' ∧ allowed char) : Escaped allowed text := by
  induction text with
  | nil => exact .nil
  | cons char text inductionHypothesis =>
      obtain ⟨other, stands⟩ := plain char (by simp)
      exact .cons (.plain other stands)
        (inductionHypothesis fun later present => plain later (by simp [present]))

/-- It is escaped where all characters are. -/
theorem of_not_mem (absent : '\\' ∉ text) : Escaped (fun _ => True) text :=
  .of_plain fun _ present => ⟨fun same => absent (same ▸ present), trivial⟩

/-- Only a backslash binds the characters behind it. -/
theorem tail (escaped : Escaped allowed (char :: text)) (other : char ≠ '\\') :
    Escaped allowed text := by
  generalize whole : char :: text = written at escaped
  cases escaped with
  | nil => cases whole
  | cons front later =>
      rcases front.shape with ⟨char, rfl, -⟩ | ⟨⟨rest, rfl⟩, -⟩
      · obtain ⟨-, rfl⟩ := List.cons.inj whole
        exact later
      · exact absurd (List.cons.inj whole).1 other

/-- What remains of an escaped text is escaped, if no backslash is dropped. -/
theorem dropWhile (escaped : Escaped allowed text) {drop : Char → Bool}
    (other : drop '\\' = false) : Escaped allowed (text.dropWhile drop) := by
  induction text with
  | nil => exact escaped
  | cons char text inductionHypothesis =>
      by_cases dropped : drop char
      · rw [List.dropWhile_cons_of_pos dropped]
        refine inductionHypothesis (escaped.tail ?_)
        rintro rfl
        exact absurd dropped (by simp [other])
      · rw [List.dropWhile_cons_of_neg dropped]
        exact escaped

/-- Both sides of a splitter are escaped. -/
theorem cut (escaped : Escaped allowed text) (splits : isSplitter mark) {before after : Text}
    (whole : text = before ++ mark :: after) :
    Escaped allowed before ∧ Escaped allowed after := by
  induction escaped generalizing before with
  | nil => simp at whole
  | cons front later inductionHypothesis =>
      rcases front.shape with ⟨char, rfl, other, stands⟩ | ⟨-, uncut⟩
      · cases before with
        | nil =>
            obtain ⟨-, rfl⟩ := List.cons.inj whole
            exact ⟨.nil, later⟩
        | cons next before =>
            obtain ⟨rfl, rest⟩ := List.cons.inj whole
            obtain ⟨left, right⟩ := inductionHypothesis rest
            exact ⟨.cons (.plain other stands) left, right⟩
      · rcases List.append_eq_append_iff.mp whole with ⟨middle, rfl, rest⟩ | ⟨middle, unit, rest⟩
        · obtain ⟨left, right⟩ := inductionHypothesis rest
          exact ⟨.cons front left, right⟩
        · cases middle with
          | nil =>
              obtain rfl : _ = before := by simpa using unit
              obtain ⟨left, right⟩ := @inductionHypothesis [] rest.symm
              exact ⟨by simpa using Escaped.cons front left, right⟩
          | cons next middle =>
              obtain ⟨rfl, -⟩ := List.cons.inj rest
              exact absurd splits (uncut mark (by simp [unit]))

/-- An escaped text is escaped without the white space at its ends. -/
theorem trim (escaped : Escaped allowed text) : Escaped allowed (Text.trim text) := by
  have front : Escaped allowed (text.dropWhile isBlank) := escaped.dropWhile (by decide)
  have split : (text.dropWhile isBlank).rdropWhile isBlank ++
      (text.dropWhile isBlank).rtakeWhile isBlank = text.dropWhile isBlank :=
    List.rdropWhile_append_rtakeWhile
  rw [trim_eq]
  cases removed : (text.dropWhile isBlank).rtakeWhile isBlank with
  | nil =>
      rw [removed, List.append_nil] at split
      rwa [split]
  | cons mark after =>
      have blank : isBlank mark :=
        List.mem_rtakeWhile_imp (removed ▸ List.mem_cons_self)
      rw [removed] at split
      exact (front.cut (by simp [isSplitter, blank]) split.symm).1

/-- A piece between commas is escaped. -/
theorem mem_splitOn (escaped : Escaped allowed text) {piece : Text}
    (present : piece ∈ splitOn ',' text) : Escaped allowed piece := by
  induction size : text.length using Nat.strong_induction_on generalizing text with
  | _ size inductionHypothesis =>
      by_cases comma : ',' ∈ text
      · obtain ⟨before, after, rfl, absent⟩ := List.eq_append_cons_of_mem comma
        obtain ⟨left, right⟩ := escaped.cut (by decide) rfl
        rw [splitOn_append absent] at present
        rcases List.mem_cons.mp present with rfl | present
        · exact left
        · refine inductionHypothesis after.length ?_ right present rfl
          rw [← size, List.length_append, List.length_cons]
          omega
      · rw [splitOn_of_absent comma] at present
        obtain rfl := List.mem_singleton.mp present
        exact escaped

/-- A line of an escaped text is escaped, and holds no line boundary of its own. -/
theorem mem_lines (escaped : Escaped allowed text) {line : Text} (present : line ∈ lines text) :
    Escaped (fun char => ¬ isLineBreak char) line := by
  induction escaped generalizing line with
  | nil => simp at present
  | @cons unit rest front later inductionHypothesis =>
      have head : Escaped (fun char => ¬ isLineBreak char) ((lines rest).headD []) := by
        cases rests : lines rest with
        | nil => exact .nil
        | cons next others => exact inductionHypothesis (by simp [rests])
      have single (unitSingle : IsSingleLine unit) (nonempty : unit ≠ [])
          (inLine : EscapeUnit (fun char => ¬ isLineBreak char) unit) :
          Escaped (fun char => ¬ isLineBreak char) line := by
        rw [lines_append_of_single nonempty unitSingle] at present
        rcases List.mem_cons.mp present with rfl | present
        · exact .cons inLine head
        · exact inductionHypothesis (List.mem_of_mem_tail present)
      have uncut (whole : ∀ char ∈ unit, ¬ isSplitter char) : IsSingleLine unit :=
        fun char place ends => whole char place (isSplitter_of_isLineBreak ends)
      cases front with
      | @plain char other stands =>
          by_cases ends : isLineBreak char
          · rcases lines_cons_cases char rest with ⟨inLine, -⟩ | ⟨-, shape⟩ | ⟨-, shape⟩
            · exact absurd ends inLine
            · rw [List.singleton_append, shape] at present
              rcases List.mem_cons.mp present with rfl | present
              · exact .nil
              · exact inductionHypothesis present
            · rw [List.singleton_append, shape] at present
              exact inductionHypothesis present
          · exact single (by simpa [IsSingleLine] using ends) (by simp) (.plain other ends)
      | letter escape =>
          have whole : EscapeUnit allowed _ := .letter escape
          exact single (uncut (whole.shape.resolve_left (by simp)).2) (by simp) (.letter escape)
      | code digits control =>
          have whole : EscapeUnit allowed _ := .code digits control
          exact single (uncut (whole.shape.resolve_left (by simp)).2) (by simp)
            (.code digits control)

end Escaped

/-- What is written for a character is a unit of its own. -/
theorem escapeUnit_stringChar (char : Char) : EscapeUnit (fun _ => True) (stringChar char) := by
  unfold stringChar
  split
  · rename_i letter short
    exact .letter (unescape?_shortEscape short).2
  · rename_i long
    split_ifs with control
    · have bound : char.toNat < 32 := UInt32.lt_iff_toNat_lt.mp control
      obtain ⟨first, second, third, fourth, digits, unit⟩ :=
        unit?_hexDigits (show char.toNat < 65536 by omega)
      rw [unitEscape, Char.toNat_val, digits]
      exact .code unit bound
    · refine .plain ?_ trivial
      rintro rfl
      simp [shortEscape?] at long

/-- The literal of a text is escaped. -/
theorem escaped_string (text : Text) : Escaped (fun _ => True) (string text) := by
  have body : Escaped (fun _ => True) (text.flatMap stringChar) := by
    induction text with
    | nil => exact .nil
    | cons char text inductionHypothesis =>
        exact .cons (escapeUnit_stringChar char) inductionHypothesis
  have quote : EscapeUnit (fun _ => True) ['"'] := .plain (by decide) trivial
  exact .cons quote (body.append (.cons quote .nil))

/-- Escaped texts that are joined by one are escaped. -/
theorem escaped_join {separator : Text} (between : Escaped allowed separator) {pieces : List Text}
    (escaped : ∀ piece ∈ pieces, Escaped allowed piece) :
    Escaped allowed (join separator pieces) := by
  induction pieces with
  | nil => exact .nil
  | cons piece pieces inductionHypothesis =>
      cases pieces with
      | nil => exact escaped piece (by simp)
      | cons next pieces =>
          exact ((escaped piece (by simp)).append between).append
            (inductionHypothesis fun later present => escaped later (by simp [present]))

/-- The literal of a list of texts is escaped. -/
theorem escaped_stringList (texts : List Text) :
    Escaped (fun _ => True) (stringList texts) := by
  have items : Escaped (fun _ => True) (join ", " (texts.map string)) := by
    refine escaped_join (.of_not_mem (by decide)) fun piece present => ?_
    obtain ⟨text, -, rfl⟩ := List.mem_map.mp present
    exact escaped_string text
  have front : EscapeUnit (fun _ => True) ['['] := .plain (by decide) trivial
  exact .cons front (items.append (.of_not_mem (by decide)))

end Issuebook.Json
