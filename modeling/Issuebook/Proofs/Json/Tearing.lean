import Issuebook.Proofs.Json.Escapes

/-!
# Reading escaped text

The escapes that documents write stand for control characters only, so nothing that is read from
a line of escaped text holds a line boundary that was not escaped: `isUnbroken_of_read?`.
-/

namespace Issuebook

namespace Value

/-- A text without bare line boundaries, or no text at all. -/
def IsUnbrokenText : Value → Prop
  | .text written => Text.IsUnbroken written
  | _ => True

/-- A value whose text, or the texts of whose items, have no bare line boundary. -/
def IsUnbroken : Value → Prop
  | .list items => ∀ item ∈ items, item.IsUnbrokenText
  | value => value.IsUnbrokenText

/-- A value without bare line breaks has none as a text. -/
theorem IsUnbroken.isUnbrokenText {value : Value} (unbroken : value.IsUnbroken) :
    value.IsUnbrokenText := by
  cases value with
  | list items => trivial
  | _ => exact unbroken

end Value

namespace Json

open Text

variable {text rest : Text}

/-- A part of a line of escaped text. -/
abbrev EscapedLine (text : Text) : Prop :=
  Escaped (fun char => ¬ isLineBreak char) text

/-- A code point or unit that is no bare line boundary. -/
def IsPlainUnit (unit : Nat) : Prop :=
  unit ≠ 0x85 ∧ unit ≠ 0x2028 ∧ unit ≠ 0x2029

/-- A character is a bare line break exactly when its unit is not plain. -/
theorem isBareBreak_iff (char : Char) : isBareBreak char = true ↔ ¬ IsPlainUnit char.toNat := by
  simp only [isBareBreak, IsPlainUnit, Bool.or_eq_true, beq_iff_eq]
  omega

/-- A character of a line has a plain unit. -/
theorem isPlainUnit_of_not_isLineBreak {char : Char} (inLine : ¬ isLineBreak char) :
    IsPlainUnit char.toNat := by
  by_contra bare
  exact inLine (isLineBreak_of_isBareBreak ((isBareBreak_iff char).mpr bare))

/-- So has the character that an escape stands for. -/
theorem isPlainUnit_of_unescape? {letter char : Char} (escape : unescape? letter = some char) :
    IsPlainUnit char.toNat := by
  unfold unescape? at escape
  split_ifs at escape with same
  · obtain rfl := Option.some.inj escape
    rcases same with rfl | rfl | rfl <;> exact ⟨by decide, by decide, by decide⟩
  all_goals
    obtain rfl := Option.some.inj escape
    exact ⟨by decide, by decide, by decide⟩

/-- A control character ends a string without success. -/
theorem readUnits_control {char : Char} (quote : char ≠ '"') (backslash : char ≠ '\\')
    (control : char.val < 32) (rest : Text) : readUnits (char :: rest) = none := by
  rw [readUnits, if_pos (.inl control)]
  · exact fun same => absurd same quote
  · exact fun _ _ _ _ _ same => absurd same backslash
  · exact fun _ _ same => absurd same backslash

/-- The units of a literal in an escaped line are plain, and an escaped line is left. -/
theorem readUnits_escaped (escaped : EscapedLine text) {units : List Nat}
    (read : readUnits text = some (units, rest)) :
    (∀ unit ∈ units, IsPlainUnit unit) ∧ EscapedLine rest := by
  induction escaped generalizing units with
  | nil => simp [readUnits] at read
  | @cons front later unit escaped inductionHypothesis =>
      have more {number : Nat} (plain : IsPlainUnit number)
          (step : (readUnits later).map (fun read => (number :: read.1, read.2)) =
            some (units, rest)) :
          (∀ unit ∈ units, IsPlainUnit unit) ∧ EscapedLine rest := by
        obtain ⟨⟨others, after⟩, found, same⟩ := Option.map_eq_some_iff.mp step
        obtain ⟨rfl, rfl⟩ := Prod.mk.inj same
        obtain ⟨plains, escapedRest⟩ := inductionHypothesis found
        exact ⟨List.forall_mem_cons.mpr ⟨plain, plains⟩, escapedRest⟩
      cases unit with
      | @plain char other stands =>
          rw [List.singleton_append] at read
          by_cases quote : char = '"'
          · subst quote
            rw [readUnits] at read
            obtain ⟨rfl, rfl⟩ := Prod.mk.inj (Option.some.inj read)
            exact ⟨by simp, escaped⟩
          · by_cases control : char.val < 32
            · rw [readUnits_control quote other control] at read
              cases read
            · rw [readUnits_plain quote other control] at read
              exact more (isPlainUnit_of_not_isLineBreak stands) read
      | @letter letter char escape =>
          have notLong : letter ≠ 'u' := by
            rintro rfl
            cases (show unescape? 'u' = none from rfl).symm.trans escape
          rw [List.cons_append, List.singleton_append, readUnits_letter notLong escape] at read
          exact more (isPlainUnit_of_unescape? escape) read
      | code digits control =>
          rw [show ∀ a b c d : Char, ['\\', 'u', a, b, c, d] ++ later =
            '\\' :: 'u' :: a :: b :: c :: d :: later from fun _ _ _ _ => rfl,
            readUnits_unit digits] at read
          exact more (by unfold IsPlainUnit; omega) read

/-- A valid number is the number of its character. -/
theorem toNat_ofNat {code : Nat} (valid : code.isValidChar) : (Char.ofNat code).toNat = code := by
  rw [Char.ofNat, dif_pos valid]
  rfl

/-- A plain unit is no bare line break. -/
theorem not_isBareBreak_of_charOf? {code : Nat} {char : Char} (plain : IsPlainUnit code)
    (found : charOf? code = some char) : ¬ isBareBreak char := by
  unfold charOf? at found
  split_ifs at found with valid
  obtain rfl := Option.some.inj found
  rw [isBareBreak_iff, toNat_ofNat valid]
  exact not_not.mpr plain

/-- Plain units make a text without bare line boundaries. -/
theorem isUnbroken_of_joinUnits? {units : List Nat} {written : Text}
    (plain : ∀ unit ∈ units, IsPlainUnit unit) (joined : joinUnits? units = some written) :
    IsUnbroken written := by
  induction units using joinUnits?.induct generalizing written with
  | case1 =>
      obtain rfl := Option.some.inj joined
      exact List.forall_mem_nil _
  | case2 unit =>
      obtain ⟨char, found, rfl⟩ := Option.map_eq_some_iff.mp joined
      exact List.forall_mem_singleton.mpr
        (not_isBareBreak_of_charOf? (plain unit List.mem_cons_self) found)
  | case3 high low rest pair inductionHypothesis =>
      rw [joinUnits?, if_pos pair] at joined
      obtain ⟨others, found, rfl⟩ := Option.map_eq_some_iff.mp joined
      have later := inductionHypothesis (fun unit present => plain unit (by simp [present])) found
      refine List.forall_mem_cons.mpr ⟨?_, later⟩
      have valid : (0x10000 + (high - 0xD800) * 0x400 + (low - 0xDC00)).isValidChar := by
        refine .inr ⟨?_, ?_⟩ <;> omega
      rw [isBareBreak_iff, toNat_ofNat valid]
      unfold IsPlainUnit
      omega
  | case4 high low rest apart inductionHypothesis =>
      rw [joinUnits?, if_neg apart] at joined
      obtain ⟨char, foundChar, joined⟩ := Option.bind_eq_some_iff.mp joined
      obtain ⟨others, found, rfl⟩ := Option.map_eq_some_iff.mp joined
      obtain ⟨here, rest⟩ := List.forall_mem_cons.mp plain
      exact List.forall_mem_cons.mpr
        ⟨not_isBareBreak_of_charOf? here foundChar, inductionHypothesis rest found⟩

/-- A string of an escaped line has no bare line break, and leaves an escaped line. -/
theorem readString_escaped (escaped : EscapedLine text) {written : Text}
    (read : readString text = some (written, rest)) :
    IsUnbroken written ∧ EscapedLine rest := by
  obtain ⟨units, found, joined⟩ := readString_eq_some.mp read
  obtain ⟨plain, left⟩ := readUnits_escaped escaped found
  exact ⟨isUnbroken_of_joinUnits? plain joined, left⟩

/-- Skipping white space leaves an escaped line. -/
theorem Escaped.skipSpace (escaped : EscapedLine text) : EscapedLine (skipSpace text) :=
  escaped.dropWhile (by decide)

/-- So does taking digits. -/
theorem Escaped.takeDigits (escaped : EscapedLine text) : EscapedLine (takeDigits text).2 :=
  escaped.dropWhile (by decide)

/-- So does taking a sign. -/
theorem Escaped.takeSign (escaped : EscapedLine text) : EscapedLine (takeSign text).2 := by
  unfold Text.takeSign
  split
  · exact escaped.tail (by decide)
  · exact escaped.tail (by decide)
  · exact escaped

/-- So does taking a fraction. -/
theorem Escaped.takeFraction (escaped : EscapedLine text) : EscapedLine (takeFraction text).2 := by
  unfold Json.takeFraction
  split
  · rename_i rest
    have digits : EscapedLine (Text.takeDigits rest).2 := (escaped.tail (by decide)).takeDigits
    dsimp only
    split_ifs
    · exact escaped
    · exact digits
  · exact escaped

/-- So does taking an exponent. -/
theorem Escaped.takeExponent (escaped : EscapedLine text) : EscapedLine (takeExponent text).2 := by
  unfold Json.takeExponent
  split
  · rename_i mark rest
    by_cases exponent : mark = 'e' ∨ mark = 'E'
    · have other : mark ≠ '\\' := by
        rintro rfl
        exact absurd exponent (by decide)
      have digits : EscapedLine (Text.takeDigits (Text.takeSign rest).2).2 :=
        (escaped.tail other).takeSign.takeDigits
      dsimp only
      rw [if_pos exponent]
      split_ifs
      · exact escaped
      all_goals exact digits
    · rw [if_neg exponent]
      exact escaped
  · exact escaped

/-- So does taking the whole part of a number. -/
theorem Escaped.takeWhole? (escaped : EscapedLine text) {whole : Text}
    (read : takeWhole? text = some (whole, rest)) : EscapedLine rest := by
  unfold Json.takeWhole? at read
  split at read
  · obtain ⟨-, rfl⟩ := Prod.mk.inj (Option.some.inj read)
    exact escaped.tail (by decide)
  · dsimp only at read
    split_ifs at read
    obtain ⟨-, rfl⟩ := Prod.mk.inj (Option.some.inj read)
    exact escaped.takeDigits

/-- So does reading a number, which has no bare line break. -/
theorem readNumber_escaped (escaped : EscapedLine text) {negative : Bool} {value : Value}
    (read : readNumber negative text = some (value, rest)) :
    value.IsUnbroken ∧ EscapedLine rest := by
  simp only [readNumber, Option.bind_eq_bind, Option.bind_eq_some_iff, Prod.exists] at read
  obtain ⟨whole, after, found, read⟩ := read
  have left : EscapedLine (takeExponent (takeFraction after).2).2 :=
    (escaped.takeWhole? found).takeFraction.takeExponent
  split_ifs at read
  all_goals
    obtain ⟨rfl, rfl⟩ := Prod.mk.inj (Option.some.inj read)
    exact ⟨trivial, left⟩

/-- So does dropping a name without backslashes. -/
theorem Escaped.dropHead? (escaped : EscapedLine text) {head : Text} (plain : '\\' ∉ head)
    (read : dropHead? head text = some rest) : EscapedLine rest := by
  induction head generalizing text with
  | nil =>
      obtain rfl := Option.some.inj read
      exact escaped
  | cons expected head inductionHypothesis =>
      have parts : '\\' ≠ expected ∧ '\\' ∉ head := by
        simpa using plain
      cases text with
      | nil => cases read
      | cons found text =>
          rw [Text.dropHead?] at read
          split_ifs at read with same
          subst same
          exact inductionHypothesis (escaped.tail (Ne.symm parts.1)) parts.2 read

/-- So does reading a number or a fixed name. -/
theorem readAtom_escaped (escaped : EscapedLine text) {value : Value}
    (read : readAtom text = some (value, rest)) : value.IsUnbroken ∧ EscapedLine rest := by
  unfold readAtom at read
  split at read
  · rename_i found named
    obtain rfl := Option.some.inj read
    obtain ⟨⟨name, known⟩, present, taken⟩ := List.exists_of_findSome?_eq_some named
    obtain ⟨left, dropped, same⟩ := Option.map_eq_some_iff.mp taken
    obtain ⟨rfl, rfl⟩ := Prod.mk.inj same
    have plain : ∀ entry ∈ namedValues, '\\' ∉ entry.1 := by decide
    have simple : ∀ entry ∈ namedValues, entry.2.IsUnbroken := by
      simp only [namedValues, List.forall_mem_cons]
      exact ⟨trivial, trivial, trivial, trivial, trivial, trivial, by simp⟩
    exact ⟨simple _ present, escaped.dropHead? (plain _ present) dropped⟩
  · split at read
    · exact readNumber_escaped (escaped.tail (by decide)) read
    · exact readNumber_escaped escaped read

/-- The three readers with one amount of fuel hand over unbroken values and escaped lines. -/
structure ReadsUnbroken (fuel : Nat) : Prop where
  /-- A value. -/
  value : ∀ {text rest : Text} {value : Value}, EscapedLine text →
    readValue fuel text = some (value, rest) → value.IsUnbroken ∧ EscapedLine rest
  /-- The items of a list. -/
  items : ∀ {text rest : Text} {items : List Value}, EscapedLine text →
    readItems fuel text = some (items, rest) →
      (∀ item ∈ items, item.IsUnbrokenText) ∧ EscapedLine rest
  /-- The fields of an object. -/
  fields : ∀ {text rest : Text} {fields : List (Text × Value)}, EscapedLine text →
    readFields fuel text = some (fields, rest) → EscapedLine rest

/-- So does reading a value, if it does with less fuel. -/
theorem readValue_escaped {fuel : Nat} (inner : ReadsUnbroken fuel) {value : Value}
    (escaped : EscapedLine text) (read : readValue (fuel + 1) text = some (value, rest)) :
    value.IsUnbroken ∧ EscapedLine rest := by
  rw [readValue.eq_def] at read
  dsimp only at read
  split at read
  · obtain ⟨⟨written, after⟩, found, same⟩ := Option.map_eq_some_iff.mp read
    obtain ⟨rfl, rfl⟩ := Prod.mk.inj same
    exact readString_escaped (escaped.tail (by decide)) found
  · rename_i list
    have opened : EscapedLine (skipSpace list) := (escaped.tail (by decide)).skipSpace
    split at read
    · rename_i shape
      obtain ⟨rfl, rfl⟩ := Prod.mk.inj (Option.some.inj read)
      rw [shape] at opened
      exact ⟨by simp [Value.IsUnbroken], opened.tail (by decide)⟩
    · obtain ⟨⟨items, after⟩, found, same⟩ := Option.map_eq_some_iff.mp read
      obtain ⟨rfl, rfl⟩ := Prod.mk.inj same
      exact inner.items opened found
  · rename_i object
    have opened : EscapedLine (skipSpace object) := (escaped.tail (by decide)).skipSpace
    split at read
    · rename_i shape
      obtain ⟨rfl, rfl⟩ := Prod.mk.inj (Option.some.inj read)
      rw [shape] at opened
      exact ⟨trivial, opened.tail (by decide)⟩
    · obtain ⟨⟨fields, after⟩, found, same⟩ := Option.map_eq_some_iff.mp read
      obtain ⟨rfl, rfl⟩ := Prod.mk.inj same
      exact ⟨trivial, inner.fields opened found⟩
  · exact readAtom_escaped escaped read

/-- So does reading the items of a list, which are texts without bare line breaks. -/
theorem readItems_escaped {fuel : Nat} (inner : ReadsUnbroken fuel) {items : List Value}
    (escaped : EscapedLine text) (read : readItems (fuel + 1) text = some (items, rest)) :
    (∀ item ∈ items, item.IsUnbrokenText) ∧ EscapedLine rest := by
  simp only [readItems, Option.bind_eq_bind, Option.bind_eq_some_iff, Prod.exists] at read
  obtain ⟨item, after, found, read⟩ := read
  obtain ⟨unbroken, left⟩ := inner.value escaped found
  have next : EscapedLine (skipSpace after) := left.skipSpace
  split at read
  · rename_i shape
    obtain ⟨rfl, rfl⟩ := Prod.mk.inj (Option.some.inj read)
    rw [shape] at next
    exact ⟨by simpa using unbroken.isUnbrokenText, next.tail (by decide)⟩
  · rename_i more shape
    rw [shape] at next
    simp only [Option.bind_eq_some_iff, Prod.exists] at read
    obtain ⟨others, last, found, read⟩ := read
    obtain ⟨rfl, rfl⟩ := Prod.mk.inj (Option.some.inj read)
    obtain ⟨unbrokenOthers, closed⟩ := inner.items (next.tail (by decide)).skipSpace found
    exact ⟨List.forall_mem_cons.mpr ⟨unbroken.isUnbrokenText, unbrokenOthers⟩, closed⟩
  · cases read

/-- So does reading the fields of a record. -/
theorem readFields_escaped {fuel : Nat} (inner : ReadsUnbroken fuel)
    {fields : List (Text × Value)} (escaped : EscapedLine text)
    (read : readFields (fuel + 1) text = some (fields, rest)) : EscapedLine rest := by
  rw [readFields.eq_def] at read
  dsimp only at read
  split at read
  · simp only [Option.bind_eq_bind, Option.bind_eq_some_iff, Prod.exists] at read
    obtain ⟨key, after, found, read⟩ := read
    have next : EscapedLine (skipSpace after) :=
      (readString_escaped (escaped.tail (by decide)) found).2.skipSpace
    split at read
    · rename_i shape
      rw [shape] at next
      simp only [Option.bind_eq_some_iff, Prod.exists] at read
      obtain ⟨value, last, found, read⟩ := read
      have behind : EscapedLine (skipSpace last) :=
        (inner.value (next.tail (by decide)).skipSpace found).2.skipSpace
      split at read
      · rename_i shape
        obtain ⟨rfl, rfl⟩ := Prod.mk.inj (Option.some.inj read)
        rw [shape] at behind
        exact behind.tail (by decide)
      · rename_i shape
        rw [shape] at behind
        simp only [Option.bind_eq_some_iff, Prod.exists] at read
        obtain ⟨others, last, found, read⟩ := read
        obtain ⟨rfl, rfl⟩ := Prod.mk.inj (Option.some.inj read)
        exact inner.fields (behind.tail (by decide)).skipSpace found
      · cases read
    · cases read
  · cases read

/-- Every value that is read from an escaped line has no bare line break. -/
theorem readsUnbroken (fuel : Nat) : ReadsUnbroken fuel := by
  induction fuel with
  | zero =>
      refine ⟨fun _ read => ?_, fun _ read => ?_, fun _ read => ?_⟩
      · cases read
      · cases read
      · cases read
  | succ fuel inductionHypothesis =>
      exact ⟨readValue_escaped inductionHypothesis, readItems_escaped inductionHypothesis,
        readFields_escaped inductionHypothesis⟩

/-- A value that is read from a line of escaped text is unbroken. -/
theorem isUnbroken_of_read? (escaped : EscapedLine text) {value : Value}
    (read : read? text = some value) : value.IsUnbroken := by
  simp only [read?, Option.bind_eq_bind, Option.bind_eq_some_iff, Prod.exists] at read
  obtain ⟨found, after, read, same⟩ := read
  split_ifs at same
  obtain rfl := Option.some.inj same
  exact ((readsUnbroken _).value escaped.skipSpace read).1

end Json

end Issuebook
