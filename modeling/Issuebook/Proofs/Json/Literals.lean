import Issuebook.Json.Reader
import Issuebook.Json.Writer
import Issuebook.Proofs.Text.Lines
import Mathlib.Tactic.SplitIfs

/-!
# String literals

A literal that keeps every printable character is read back as the text it was written for:
`readString_string` for one literal with more text behind it, `read?_string` and
`read?_stringList` for whole texts.
-/

namespace Issuebook.Json

/-- A hexadecimal digit is read back. -/
theorem hexDigitValue?_hexDigit {value : Nat} (small : value < 16) :
    hexDigitValue? (Text.hexDigit value) = some value := by
  revert value
  decide

/-- Four hexadecimal digits hold every number of sixteen bits. -/
theorem unit?_hexDigits {number : Nat} (small : number < 65536) :
    ∃ first second third fourth, Text.hexDigits 4 number = [first, second, third, fourth] ∧
      unit? first second third fourth = some number := by
  refine ⟨_, _, _, _, rfl, ?_⟩
  rw [unit?, hexDigitValue?_hexDigit (by omega), hexDigitValue?_hexDigit (by omega),
    hexDigitValue?_hexDigit (by omega), hexDigitValue?_hexDigit (by omega)]
  change some _ = some _
  congr 1
  omega

/-- A short escape stands for the character it was written for, and none is the letter of
long escapes. -/
theorem unescape?_shortEscape {char letter : Char} (short : shortEscape? char = some letter) :
    letter ≠ 'u' ∧ unescape? letter = some char := by
  have ofCode (code : Nat) (same : char.val = code.toUInt32) (small : code < 32) :
      Char.ofNat code = char := by
    have number : char.toNat = code := by
      rw [Char.toNat, same]
      simp only [Nat.toUInt32_eq, UInt32.toNat_ofNat']
      omega
    rw [← number, Char.ofNat_toNat]
  unfold shortEscape? at short
  split_ifs at short with quote backslash feed carriage tab backspace page
  · obtain rfl := Option.some.inj short; subst quote; decide
  · obtain rfl := Option.some.inj short; subst backslash; decide
  · obtain rfl := Option.some.inj short; subst feed; decide
  · obtain rfl := Option.some.inj short; subst carriage; decide
  · obtain rfl := Option.some.inj short; subst tab; decide
  · obtain rfl := Option.some.inj short
    exact ⟨by decide, by rw [← ofCode 8 backspace (by decide)]; rfl⟩
  · obtain rfl := Option.some.inj short
    exact ⟨by decide, by rw [← ofCode 12 page (by decide)]; rfl⟩

/-- A backslash and a letter are read as the character they stand for. -/
theorem readUnits_letter {letter char : Char} (notLong : letter ≠ 'u')
    (escape : unescape? letter = some char) (rest : Text) :
    readUnits ('\\' :: letter :: rest) =
      (readUnits rest).map fun (units, rest) => (char.toNat :: units, rest) := by
  rw [readUnits, escape]
  · cases readUnits rest <;> rfl
  · rintro _ _ _ _ _ rfl
    exact absurd rfl notLong

/-- A backslash and four digits are read as their unit. -/
theorem readUnits_unit {first second third fourth : Char} {unit : Nat}
    (digits : unit? first second third fourth = some unit) (rest : Text) :
    readUnits ('\\' :: 'u' :: first :: second :: third :: fourth :: rest) =
      (readUnits rest).map fun (units, rest) => (unit :: units, rest) := by
  rw [readUnits, digits]
  cases readUnits rest <;> rfl

/-- Any other printable character is read as itself. -/
theorem readUnits_plain {char : Char} (quote : char ≠ '"') (backslash : char ≠ '\\')
    (printable : ¬ char.val < 32) (rest : Text) :
    readUnits (char :: rest) =
      (readUnits rest).map fun (units, rest) => (char.toNat :: units, rest) := by
  rw [readUnits, if_neg (by simp [backslash, printable])]
  · cases readUnits rest <;> rfl
  · exact fun same => absurd same quote
  · exact fun _ _ _ _ _ same => absurd same backslash
  · exact fun _ _ same => absurd same backslash

/-- What is written for a character is read as its code point. -/
theorem readUnits_stringChar (char : Char) (rest : Text) :
    readUnits (stringChar char ++ rest) =
      (readUnits rest).map fun (units, rest) => (char.toNat :: units, rest) := by
  unfold stringChar
  split
  · rename_i letter short
    obtain ⟨notLong, escape⟩ := unescape?_shortEscape short
    exact readUnits_letter notLong escape rest
  · rename_i long
    by_cases control : char.val < 32
    · have small : char.toNat < 65536 := by
        have bound : char.toNat < 32 := UInt32.lt_iff_toNat_lt.mp control
        omega
      obtain ⟨first, second, third, fourth, digits, unit⟩ := unit?_hexDigits small
      rw [if_pos control, unitEscape, Char.toNat_val, digits]
      exact readUnits_unit unit rest
    · rw [if_neg control]
      refine readUnits_plain ?_ ?_ control rest
      · rintro rfl
        simp [shortEscape?] at long
      · rintro rfl
        simp [shortEscape?] at long

/-- The characters of a text are read back from its literal. -/
theorem readUnits_string (text rest : Text) :
    readUnits (text.flatMap stringChar ++ '"' :: rest) =
      some (text.map Char.toNat, rest) := by
  induction text with
  | nil => simp [readUnits]
  | cons char text inductionHypothesis =>
      rw [List.flatMap_cons, List.append_assoc, readUnits_stringChar, inductionHypothesis]
      rfl

/-- The number of a character is read back as the character. -/
theorem charOf?_toNat (char : Char) : charOf? char.toNat = some char := by
  rw [charOf?, if_pos (show char.toNat.isValidChar from char.valid), Char.ofNat_toNat]

/-- A unit that is no first half of a pair is a character of its own. -/
theorem joinUnits?_cons {unit : Nat} (alone : ¬ (0xD800 ≤ unit ∧ unit < 0xDC00))
    (later : List Nat) : joinUnits? (unit :: later) =
      (charOf? unit).bind fun char => (joinUnits? later).map (char :: ·) := by
  cases later with
  | nil =>
      rw [joinUnits?, joinUnits?]
      cases charOf? unit <;> rfl
  | cons next later => exact if_neg fun pair => alone ⟨pair.1, pair.2.1⟩

/-- The code points of characters are no halves of pairs. -/
theorem joinUnits?_map (text : Text) : joinUnits? (text.map Char.toNat) = some text := by
  induction text with
  | nil => rfl
  | cons char text inductionHypothesis =>
      have valid : char.toNat < 0xD800 ∨ 0xDFFF < char.toNat ∧ char.toNat < 0x110000 := char.valid
      rw [List.map_cons, joinUnits?_cons (by omega), charOf?_toNat, inductionHypothesis]
      rfl

/-- A literal is read back as its text, and nothing behind it is touched. -/
theorem readString_string (text rest : Text) :
    readString (text.flatMap stringChar ++ '"' :: rest) = some (text, rest) := by
  rw [readString, readUnits_string]
  simp [joinUnits?_map]

/-- A literal that is read is one of units that make up a text. -/
theorem readString_eq_some {text written rest : Text} :
    readString text = some (written, rest) ↔
      ∃ units, readUnits text = some (units, rest) ∧ joinUnits? units = some written := by
  unfold readString
  rw [Option.bind_eq_some_iff]
  constructor
  · rintro ⟨⟨units, after⟩, found, joined⟩
    obtain ⟨text, made, same⟩ := Option.map_eq_some_iff.mp joined
    obtain ⟨rfl, rfl⟩ := Prod.mk.inj same
    exact ⟨units, found, made⟩
  · rintro ⟨units, found, made⟩
    exact ⟨(units, rest), found, congrArg (Option.map (·, rest)) made⟩

/-- The literal of a text is read as the text, with anything behind it. -/
theorem readValue_string (fuel : Nat) (text rest : Text) :
    readValue (fuel + 1) (string text ++ rest) = some (.text text, rest) := by
  simp [string, readValue, readString_string]

/-- Nothing is skipped in front of another character. -/
theorem skipSpace_of_not_space {char : Char} (solid : isSpace char = false) (text : Text) :
    skipSpace (char :: text) = char :: text := by
  simp [skipSpace, solid]

/-- A whole text that is a literal. -/
theorem read?_string (text : Text) : read? (string text) = some (.text text) := by
  have value := readValue_string (2 * (string text).length + 1) text []
  rw [List.append_nil] at value
  have front : skipSpace (string text) = string text := skipSpace_of_not_space rfl _
  rw [read?, front, value]
  rfl

/-- A value in front of the closing bracket is the last item. -/
theorem readItems_last {fuel : Nat} {text rest : Text} {item : Value}
    (value : readValue fuel text = some (item, ']' :: rest)) :
    readItems (fuel + 1) text = some ([item], rest) := by
  rw [readItems, value]
  simp [skipSpace_of_not_space (rfl : isSpace ']' = false)]

/-- Behind a comma there are more items. -/
theorem readItems_more {fuel : Nat} {text more : Text} {item : Value}
    (value : readValue fuel text = some (item, ',' :: more)) :
    readItems (fuel + 1) text =
      (readItems fuel (skipSpace more)).map fun (items, rest) => (item :: items, rest) := by
  rw [readItems, value]
  simp only [Option.bind_eq_bind, Option.bind_some,
    skipSpace_of_not_space (rfl : isSpace ',' = false)]
  cases readItems fuel (skipSpace more) <;> rfl

/-- The items of a written list up to its closing bracket, when no item needs more than one
level. -/
theorem readItems_strings (texts : List Text) (present : texts ≠ []) (rest : Text) (fuel : Nat) :
    readItems (texts.length + 1 + fuel) (Text.join ", " (texts.map string) ++ ']' :: rest) =
      some (texts.map .text, rest) := by
  induction texts with
  | nil => exact absurd rfl present
  | cons text texts inductionHypothesis =>
      cases texts with
      | nil =>
          have depth : [text].length + 1 + fuel = (fuel + 1) + 1 := by
            simp only [List.length_singleton]
            omega
          rw [depth]
          exact readItems_last (readValue_string fuel text (']' :: rest))
      | cons next texts =>
          let later := Text.join ", " ((next :: texts).map string) ++ ']' :: rest
          have depth : (text :: next :: texts).length + 1 + fuel =
              ((next :: texts).length + fuel + 1) + 1 := by
            simp only [List.length_cons]
            omega
          have joined : Text.join ", " ((text :: next :: texts).map string) ++ ']' :: rest =
              string text ++ ',' :: ' ' :: later := by
            simp [later, Text.join]
          have front : skipSpace (' ' :: later) = later := by
            cases texts <;> simp [later, Text.join, string, skipSpace, isSpace]
          have step := readItems_more (readValue_string ((next :: texts).length + fuel) text
            (',' :: ' ' :: later))
          have depth' : (next :: texts).length + fuel + 1 = (next :: texts).length + 1 + fuel := by
            omega
          rw [depth, joined, step, front, depth', inductionHypothesis (by simp)]
          rfl

/-- Joined literals are at least as long as they are many. -/
theorem length_le_length_join (separator : Text) (texts : List Text) :
    texts.length ≤ (Text.join separator (texts.map string)).length := by
  induction texts with
  | nil => simp
  | cons text texts inductionHypothesis =>
      cases texts with
      | nil => simp [Text.join, string]
      | cons next texts =>
          simp only [List.map_cons, Text.join, List.length_append, List.length_cons, string]
            at inductionHypothesis ⊢
          omega

/-- A list that begins with a text is read as its items. -/
theorem readValue_items {fuel : Nat} {rest after : Text} {items : List Value}
    (read : readItems fuel ('"' :: rest) = some (items, after)) :
    readValue (fuel + 1) ('[' :: '"' :: rest) = some (.list items, after) := by
  simp [readValue, skipSpace_of_not_space (rfl : isSpace '"' = false), read]

/-- A whole text that is a list of literals. -/
theorem read?_stringList (texts : List Text) :
    read? (stringList texts) = some (.ofTexts texts) := by
  have front : skipSpace (stringList texts) = stringList texts := skipSpace_of_not_space rfl _
  rw [read?, front]
  cases texts with
  | nil => rfl
  | cons text texts =>
      let joined := Text.join ", " ((text :: texts).map string)
      have bound : (text :: texts).length ≤ joined.length := length_le_length_join _ _
      have size : (stringList (text :: texts)).length = joined.length + 2 := by
        simp [stringList, joined]
      -- Every item takes a level of its own, and the brackets take the first one.
      obtain ⟨fuel, depth⟩ : ∃ fuel, 2 * (stringList (text :: texts)).length + 2 =
          (text :: texts).length + 1 + fuel + 1 :=
        ⟨2 * (stringList (text :: texts)).length - (text :: texts).length, by omega⟩
      have items := readItems_strings (text :: texts) (by simp) [] fuel
      have quoted : ∃ rest, joined ++ [']'] = '"' :: rest := by
        cases texts <;> simp [joined, Text.join, string]
      obtain ⟨rest, shape⟩ := quoted
      have value : readValue ((text :: texts).length + 1 + fuel + 1) (stringList (text :: texts)) =
          some (.ofTexts (text :: texts), []) := by
        change readValue _ ('[' :: (joined ++ [']'])) = _
        rw [shape]
        exact readValue_items (shape ▸ items)
      rw [depth, value]
      rfl

end Issuebook.Json

/-!
## Literals on one line

A literal escapes every control character, but three line boundaries beyond ASCII stand bare
in it. Texts without those have literals on one line.
-/

namespace Issuebook

namespace Text

variable {char : Char} {text first second : Text}

/-- The line boundaries that a literal does not escape. -/
def isBareBreak (char : Char) : Bool :=
  char.toNat == 0x85 || char.toNat == 0x2028 || char.toNat == 0x2029

/-- No character of a text is a line boundary that literals leave bare. -/
def IsUnbroken (text : Text) : Prop :=
  ∀ char ∈ text, ¬ isBareBreak char

instance (text : Text) : Decidable (IsUnbroken text) :=
  List.decidableBAll _ _

/-- A printable line break is one that literals leave as it is. -/
theorem isBareBreak_of_isLineBreak (ends : isLineBreak char) (printable : ¬ char.val < 32) :
    isBareBreak char := by
  have bound : ¬ char.toNat < 32 := fun less => printable (UInt32.lt_iff_toNat_lt.mpr less)
  simp only [isLineBreak, isBareBreak, Char.toNat_val, Bool.or_eq_true, Bool.and_eq_true,
    decide_eq_true_eq, beq_iff_eq] at ends ⊢
  omega

/-- A line break that literals leave as it is breaks lines. -/
theorem isLineBreak_of_isBareBreak (bare : isBareBreak char) : isLineBreak char := by
  simp only [isLineBreak, isBareBreak, Char.toNat_val, Bool.or_eq_true, Bool.and_eq_true,
    decide_eq_true_eq, beq_iff_eq] at bare ⊢
  omega

/-- The digits of a number are hexadecimal digits. -/
theorem mem_hexDigits {width number : Nat} (present : char ∈ hexDigits width number) :
    ∃ value < 16, char = hexDigit value := by
  induction width generalizing number with
  | zero => cases present
  | succ width inductionHypothesis =>
      rcases List.mem_append.mp present with place | place
      · exact inductionHypothesis place
      · exact ⟨number % 16, Nat.mod_lt _ (by decide), List.mem_singleton.mp place⟩

/-- A hexadecimal digit breaks no line. -/
theorem not_isLineBreak_hexDigit {value : Nat} (small : value < 16) :
    ¬ isLineBreak (hexDigit value) := by
  revert value
  decide

/-- Two parts of a line are a line. -/
theorem isSingleLine_append (firstSingle : IsSingleLine first)
    (secondSingle : IsSingleLine second) : IsSingleLine (first ++ second) := by
  intro char present
  rcases List.mem_append.mp present with place | place
  · exact firstSingle char place
  · exact secondSingle char place

/-- What has no line break has none that literals leave as it is. -/
theorem isUnbroken_of_isSingleLine (single : IsSingleLine text) : IsUnbroken text :=
  fun char present bare => single char present (isLineBreak_of_isBareBreak bare)

/-- Neither has a text of some of its characters. -/
theorem IsUnbroken.of_subset (unbroken : IsUnbroken text) (part : first ⊆ text) :
    IsUnbroken first :=
  fun char present => unbroken char (part present)

/-- Neither have two such texts together. -/
theorem IsUnbroken.append (front : IsUnbroken first) (back : IsUnbroken second) :
    IsUnbroken (first ++ second) :=
  List.forall_mem_append.mpr ⟨front, back⟩

/-- Neither has such a text without white space at its ends. -/
theorem IsUnbroken.trim (unbroken : IsUnbroken text) : IsUnbroken (Text.trim text) :=
  unbroken.of_subset fun _ => mem_of_mem_trim

/-- Neither have such texts that are joined by one. -/
theorem isUnbroken_join {separator : Text} (between : IsUnbroken separator)
    {pieces : List Text} (unbroken : ∀ piece ∈ pieces, IsUnbroken piece) :
    IsUnbroken (join separator pieces) :=
  forall_mem_join between unbroken

/-- Neither has such a text after parts were replaced by one. -/
theorem isUnbroken_replaceFrom {old new : Text} (newUnbroken : IsUnbroken new)
    (unbroken : IsUnbroken text) (skip : Nat) : IsUnbroken (replaceFrom old new skip text) := by
  induction text generalizing skip with
  | nil => cases skip <;> exact fun _ present => absurd present List.not_mem_nil
  | cons char text inductionHypothesis =>
      obtain ⟨front, back⟩ := List.forall_mem_cons.mp unbroken
      cases skip with
      | succ skip => exact inductionHypothesis back skip
      | zero =>
          rw [replaceFrom]
          split
          · exact newUnbroken.append (inductionHypothesis back _)
          · exact List.forall_mem_cons.mpr ⟨front, inductionHypothesis back 0⟩

end Text

namespace Json

open Text

variable {char written : Char} {text : Text}

/-- What is written for a character holds a line boundary only where it is that character. -/
theorem isBareBreak_of_mem_stringChar (present : written ∈ stringChar char)
    (ends : isLineBreak written) : written = char ∧ isBareBreak char := by
  unfold stringChar at present
  split at present
  · rename_i letter short
    have plain : ¬ isLineBreak letter := by
      unfold shortEscape? at short
      split_ifs at short <;> obtain rfl := Option.some.inj short <;> decide
    rcases List.mem_pair.mp present with rfl | rfl
    · exact absurd ends (by decide)
    · exact absurd ends plain
  · split_ifs at present with control
    · simp only [unitEscape, List.mem_cons] at present
      rcases present with rfl | rfl | present
      · exact absurd ends (by decide)
      · exact absurd ends (by decide)
      · obtain ⟨value, small, rfl⟩ := mem_hexDigits present
        exact absurd ends (not_isLineBreak_hexDigit small)
    · obtain rfl := List.mem_singleton.mp present
      exact ⟨rfl, isBareBreak_of_isLineBreak ends control⟩

/-- The literal of such a text is one line. -/
theorem isSingleLine_string (unbroken : IsUnbroken text) : IsSingleLine (string text) := by
  intro written present ends
  simp only [string, List.mem_cons, List.mem_append, List.mem_flatMap, List.not_mem_nil,
    or_false] at present
  rcases present with rfl | ⟨char, place, present⟩ | rfl
  · exact absurd ends (by decide)
  · exact unbroken char place (isBareBreak_of_mem_stringChar present ends).2
  · exact absurd ends (by decide)

/-- So is the literal of a list of them. -/
theorem isSingleLine_stringList {texts : List Text} (unbroken : ∀ text ∈ texts, IsUnbroken text) :
    IsSingleLine (stringList texts) := by
  have items : IsSingleLine (join ", " (texts.map string)) := by
    refine forall_mem_join (by decide : IsSingleLine ", ") fun piece present => ?_
    obtain ⟨text, place, rfl⟩ := List.mem_map.mp present
    exact isSingleLine_string (unbroken text place)
  exact isSingleLine_append (by decide : IsSingleLine ['['])
    (isSingleLine_append items (by decide))

end Json

end Issuebook
