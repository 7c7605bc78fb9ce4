import Issuebook.Proofs.Json.Numbers
import Issuebook.Proofs.Number.Writing

/-!
# Objects in ASCII

An object that is written in printable ASCII, with a field on each line, is read back as these
fields. A literal gives back the text it was written for, whatever characters that has
(`readString_ascii`): characters beyond the basic plane are written as two halves, and no two
characters of a text are read as the halves of one. Whole numbers, truth values and literals are
read to where they end (`IsWritten`), and so the fields are read one by one (`read?_lines`).
-/

namespace Issuebook.Json

open Text

variable {char : Char} {text rest written name line : Text} {unit : Nat} {value : Value}
  {fields : List (Text × Value)} {lines : List Text}

/-! ## Units of characters -/

/-- The units of a character are joined to the character again. -/
theorem joinUnits?_units (char : Char) (later : List Nat) :
    joinUnits? (units char.toNat ++ later) = (joinUnits? later).map (char :: ·) := by
  have valid : char.toNat < 0xD800 ∨ 0xDFFF < char.toNat ∧ char.toNat < 0x110000 := char.valid
  unfold units
  split_ifs with basic
  · rw [List.cons_append, List.nil_append, joinUnits?_cons (by omega), charOf?_toNat]
    rfl
  · have halves : 0x10000 + (0xD800 + (char.toNat - 0x10000) / 0x400 - 0xD800) * 0x400 +
        (0xDC00 + (char.toNat - 0x10000) % 0x400 - 0xDC00) = char.toNat := by
      omega
    rw [List.cons_append, List.cons_append, List.nil_append, joinUnits?, if_pos (by omega), halves,
      Char.ofNat_toNat]

/-- The units of a text are joined to its characters. -/
theorem joinUnits?_flatMap (text : Text) :
    joinUnits? (text.flatMap fun char => units char.toNat) = some text := by
  induction text with
  | nil => rfl
  | cons char text inductionHypothesis =>
      rw [List.flatMap_cons, joinUnits?_units, inductionHypothesis]
      rfl

/-- A unit has sixteen bits. -/
theorem lt_of_mem_units (listed : unit ∈ units char.toNat) : unit < 65536 := by
  have valid : char.toNat < 0xD800 ∨ 0xDFFF < char.toNat ∧ char.toNat < 0x110000 := char.valid
  unfold units at listed
  split_ifs at listed with basic
  · rwa [List.mem_singleton.mp listed]
  · rcases List.mem_pair.mp listed with same | same
    · omega
    · omega

/-! ## Reading them back -/

/-- Escaped units are read back. -/
theorem readUnits_unitEscapes {codes : List Nat} (small : ∀ unit ∈ codes, unit < 65536)
    (rest : Text) : readUnits (codes.flatMap unitEscape ++ rest) =
      (readUnits rest).map fun (later, rest) => (codes ++ later, rest) := by
  induction codes with
  | nil => exact Option.map_id'.symm
  | cons unit codes inductionHypothesis =>
      obtain ⟨here, later⟩ := List.forall_mem_cons.mp small
      obtain ⟨first, second, third, fourth, digits, value⟩ := unit?_hexDigits here
      rw [List.flatMap_cons, List.append_assoc, unitEscape, digits]
      refine (readUnits_unit value _).trans ?_
      rw [List.append_eq, List.nil_append, inductionHypothesis later]
      cases readUnits rest <;> rfl

/-- A plain character has one unit. -/
theorem units_of_lt (small : char.val < 128) : units char.toNat = [char.toNat] := by
  have bound : char.toNat < 128 := UInt32.lt_iff_toNat_lt.mp small
  exact if_pos (by omega)

/-- Only plain characters have short escapes. -/
theorem lt_of_shortEscape {letter : Char} (short : shortEscape? char = some letter) :
    char.val < 128 := by
  unfold shortEscape? at short
  split_ifs at short with quote backslash feed carriage tab backspace page
  · subst quote; decide
  · subst backslash; decide
  · subst feed; decide
  · subst carriage; decide
  · subst tab; decide
  · rw [backspace]; decide
  · rw [page]; decide

/-- What is written for a character is read as its units. -/
theorem readUnits_asciiChar (char : Char) (rest : Text) :
    readUnits (asciiChar char ++ rest) =
      (readUnits rest).map fun (later, rest) => (units char.toNat ++ later, rest) := by
  unfold asciiChar
  split
  · next letter short =>
      obtain ⟨notLong, escape⟩ := unescape?_shortEscape short
      rw [units_of_lt (lt_of_shortEscape short)]
      exact readUnits_letter notLong escape rest
  · next long =>
      split_ifs with printable
      · have small : char.val < 128 := Nat.lt_trans printable.2 (by decide : 127 < 128)
        rw [units_of_lt small]
        refine readUnits_plain ?_ ?_ (Nat.not_lt.mpr printable.1) rest
        · rintro rfl
          simp [shortEscape?] at long
        · rintro rfl
          simp [shortEscape?] at long
      · exact readUnits_unitEscapes (fun unit listed => lt_of_mem_units listed) rest

/-- A literal is read back as its text, and nothing behind it is touched. -/
theorem readString_ascii (text rest : Text) :
    readString (text.flatMap asciiChar ++ '"' :: rest) = some (text, rest) := by
  have read : readUnits (text.flatMap asciiChar ++ '"' :: rest) =
      some (text.flatMap fun char => units char.toNat, rest) := by
    induction text with
    | nil => simp [readUnits]
    | cons char text inductionHypothesis =>
        rw [List.flatMap_cons, List.append_assoc, readUnits_asciiChar, inductionHypothesis]
        rfl
  exact readString_eq_some.mpr ⟨_, read, joinUnits?_flatMap text⟩

/-! ## Characters of literals -/

/-- A character of ASCII that shows. -/
def IsPlainAscii (char : Char) : Prop :=
  32 ≤ char.val ∧ char.val < 127

instance (char : Char) : Decidable (IsPlainAscii char) :=
  inferInstanceAs (Decidable (_ ∧ _))

/-- The escape of a unit is written in plain characters. -/
theorem isPlainAscii_of_mem_unitEscape (listed : char ∈ unitEscape unit) : IsPlainAscii char := by
  simp only [unitEscape, List.mem_cons] at listed
  rcases listed with rfl | rfl | listed
  · decide
  · decide
  · obtain ⟨value, small, rfl⟩ := mem_hexDigits listed
    clear listed
    revert value
    decide

/-- A literal holds printable ASCII only. -/
theorem isPlainAscii_of_mem_asciiString (listed : char ∈ asciiString text) : IsPlainAscii char := by
  simp only [asciiString, List.mem_cons, List.mem_append, List.mem_flatMap, List.not_mem_nil,
    or_false] at listed
  rcases listed with rfl | ⟨source, -, listed⟩ | rfl
  · decide
  · unfold asciiChar at listed
    split at listed
    · next letter short =>
        have plain : IsPlainAscii letter := by
          unfold shortEscape? at short
          split_ifs at short <;> obtain rfl := Option.some.inj short <;> decide
        rcases List.mem_pair.mp listed with rfl | rfl
        · decide
        · exact plain
    · split_ifs at listed with printable
      · rwa [List.mem_singleton.mp listed]
      · obtain ⟨unit, -, listed⟩ := List.mem_flatMap.mp listed
        exact isPlainAscii_of_mem_unitEscape listed
  · decide

/-! ## Whole numbers -/

/-- A whole number does not go on in a text. -/
def EndsWhole (rest : Text) : Prop :=
  ∀ mark ∈ rest.head?, mark.isDigit = false ∧ mark ≠ '.' ∧ mark ≠ 'e' ∧ mark ≠ 'E'

/-- The digits of a number tell the number. -/
theorem digitsNumber_ofNat (number : Nat) : digitsNumber (ofNat number) = number := by
  have whole := Nat.ofDigitChars_toDigits (b := 10) (n := number) (by decide) (by decide)
  rw [Nat.ofDigitChars_eq_foldl] at whole
  refine Eq.trans (congrArg (List.foldl · 0 (ofNat number)) ?_) whole
  funext number digit
  exact congrArg (· + _) (Nat.mul_comm number 10)

/-- They are digits. -/
theorem isDigit_of_mem_ofNat {char : Char} {number : Nat} (listed : char ∈ ofNat number) :
    char.isDigit :=
  Nat.isDigit_of_mem_toDigits (by decide) (by decide) listed

/-- No number but zero is written with a zero in front. -/
theorem head?_ofNat {number : Nat} (present : number ≠ 0) : (ofNat number).head? ≠ some '0' := by
  induction number using Nat.strong_induction_on with
  | _ number inductionHypothesis =>
      by_cases small : number < 10
      · have single : ∀ digit < 10, digit ≠ 0 → [Nat.digitChar digit].head? ≠ some '0' := by
          decide
        rw [ofNat, Nat.toDigits_of_lt_base small]
        exact single number small present
      · have front : number / 10 ≠ 0 := by omega
        have more : Nat.toDigits 10 (number / 10) ≠ [] := Nat.toDigits_ne_nil
        rw [ofNat, Nat.toDigits_of_base_le (by decide) (by omega),
          List.head?_append_of_ne_nil _ more]
        exact inductionHypothesis _ (by omega) front

/-- A number is read as the whole part, up to its end. -/
theorem takeWhole?_ofNat (ends : EndsWhole rest) (number : Nat) :
    takeWhole? (ofNat number ++ rest) = some (ofNat number, rest) := by
  by_cases zero : number = 0
  · subst zero
    rfl
  · have present : ofNat number ≠ [] := Nat.toDigits_ne_nil
    have other : (ofNat number ++ rest).head? ≠ some '0' := by
      rw [List.head?_append_of_ne_nil _ present]
      exact head?_ofNat zero
    rw [takeWhole?_of_other other,
      takeDigits_of_digits (fun _ listed => isDigit_of_mem_ofNat listed)
        fun mark first => (ends mark first).1]
    exact if_neg (by simpa using present)

/-- What ends a whole number begins no exponent. -/
theorem takeExponent_of_endsWhole (ends : EndsWhole rest) : takeExponent rest = (none, rest) := by
  cases rest with
  | nil => rfl
  | cons mark rest => exact takeExponent_of_other (ends mark rfl).2.2 rest

/-- A number is read back with its sign. -/
theorem readNumber_ofNat (ends : EndsWhole rest) (negative : Bool) (number : Nat) :
    readNumber negative (ofNat number ++ rest) =
      some (.int (if negative then -(number : Int) else number), rest) := by
  have pointless : rest.head? ≠ some '.' := fun point => (ends '.' point).2.1 rfl
  rw [readNumber, takeWhole?_ofNat ends]
  simp only [Option.bind_eq_bind, Option.bind_some, takeFraction_of_pointless pointless,
    takeExponent_of_endsWhole ends, digitsNumber_ofNat]
  rfl

/-- No value with a name begins with a digit, and none with a digit behind a minus sign. -/
theorem readNamed_of_isDigit (digit : char.isDigit) (rest : Text) :
    readNamed (char :: rest) = none ∧ readNamed ('-' :: char :: rest) = none := by
  have apart {letter : Char} (other : letter.isDigit = false) : letter ≠ char := by
    rintro rfl
    exact Bool.false_ne_true (other.symm.trans digit)
  simp [readNamed, namedValues, dropHead?, apart (by decide : 'n'.isDigit = false),
    apart (by decide : 't'.isDigit = false), apart (by decide : 'f'.isDigit = false),
    apart (by decide : 'N'.isDigit = false), apart (by decide : 'I'.isDigit = false),
    apart (by decide : '-'.isDigit = false)]

/-- A number has a first digit. -/
theorem exists_ofNat_eq (number : Nat) :
    ∃ digit more, ofNat number = digit :: more ∧ digit.isDigit := by
  obtain ⟨digit, more, same⟩ := List.exists_cons_of_ne_nil
    (Nat.toDigits_ne_nil : Nat.toDigits 10 number ≠ [])
  exact ⟨digit, more, same, isDigit_of_mem_ofNat (same ▸ List.mem_cons_self)⟩

/-- A whole number is read back. -/
theorem readAtom_ofInt (ends : EndsWhole rest) (number : Int) :
    readAtom (ofInt number ++ rest) = some (.int number, rest) := by
  cases number with
  | ofNat number =>
      have whole := readNumber_ofNat ends false number
      obtain ⟨digit, more, same, isDigit⟩ := exists_ofNat_eq number
      have positive : digit ≠ '-' := by
        rintro rfl
        cases isDigit
      rw [ofInt, same, List.cons_append,
        readAtom_of_unnamed (readNamed_of_isDigit isDigit _).1, if_neg positive,
        ← List.cons_append, ← same, whole]
      rfl
  | negSucc number =>
      have whole := readNumber_ofNat ends true (number + 1)
      obtain ⟨digit, more, same, isDigit⟩ := exists_ofNat_eq (number + 1)
      rw [ofInt, same, List.cons_append, List.cons_append,
        readAtom_of_unnamed (readNamed_of_isDigit isDigit _).2, if_pos rfl,
        ← List.cons_append, ← same, whole]
      rfl

/-! ## Values on a line -/

/-- A text that begins with what ends the value of a field: a comma or a line feed. -/
def EndsField (rest : Text) : Prop :=
  rest.head? = some ',' ∨ rest.head? = some '\n'

/-- What ends a field ends a whole number in it. -/
theorem EndsField.endsWhole (ends : EndsField rest) : EndsWhole rest := by
  rintro mark first
  rcases ends with comma | feed
  · obtain rfl := Option.some.inj (first.symm.trans comma)
    decide
  · obtain rfl := Option.some.inj (first.symm.trans feed)
    decide

/-- A value is written as a text, and read from it whatever ends its field. -/
structure IsWritten (value : Value) (written : Text) : Prop where
  /-- It does not begin with white space. -/
  solid : ∀ first ∈ written.head?, isSpace first = false
  /-- There is something to be read. -/
  present : written ≠ []
  /-- It opens no list and no object. -/
  flat : ∀ first ∈ written.head?, first ≠ '[' ∧ first ≠ '{'
  /-- The value is read back. -/
  reads : ∀ {rest}, EndsField rest → ∀ fuel,
    readValue (fuel + 1) (written ++ rest) = some (value, rest)

/-- What is written for a value begins with no space. -/
theorem IsWritten.skipSpace_append (isWritten : IsWritten value written) (rest : Text) :
    skipSpace (written ++ rest) = written ++ rest := by
  obtain ⟨first, more, rfl⟩ := List.exists_cons_of_ne_nil isWritten.present
  exact skipSpace_of_not_space (isWritten.solid first rfl) _

/-- The word for truth is written for it. -/
theorem isWritten_true : IsWritten (.bool true) "true" where
  solid first same := by
    obtain rfl : 't' = first := Option.some.inj same
    rfl
  present := List.cons_ne_nil _ _
  flat first same := by
    obtain rfl : 't' = first := Option.some.inj same
    decide
  reads _ _ := rfl

/-- So is the word for untruth. -/
theorem isWritten_false : IsWritten (.bool false) "false" where
  solid first same := by
    obtain rfl : 'f' = first := Option.some.inj same
    rfl
  present := List.cons_ne_nil _ _
  flat first same := by
    obtain rfl : 'f' = first := Option.some.inj same
    decide
  reads _ _ := rfl

/-- A written whole number begins with a minus sign or a digit. -/
theorem exists_ofInt_eq (number : Int) : ∃ first more, ofInt number = first :: more ∧
    (first = '-' ∨ first.isDigit) := by
  cases number with
  | ofNat number =>
      obtain ⟨digit, more, same, isDigit⟩ := exists_ofNat_eq number
      exact ⟨digit, more, same, .inr isDigit⟩
  | negSucc number => exact ⟨'-', _, rfl, .inl rfl⟩

/-- The digits of a whole number are written for it. -/
theorem isWritten_ofInt (number : Int) : IsWritten (.int number) (ofInt number) := by
  obtain ⟨first, more, same, kind⟩ := exists_ofInt_eq number
  have part : isWordPart first := by
    rcases kind with rfl | digit
    · decide
    · exact isWordPart_of_isDigit digit
  have apart {mark : Char} (other : isWordPart mark = false) : first ≠ mark := by
    rintro rfl
    exact Bool.false_ne_true (other.symm.trans part)
  refine ⟨fun mark same' => ?_, by simp [same], fun mark same' => ?_, fun {rest} ends fuel => ?_⟩
  · rw [same] at same'
    obtain rfl := Option.some.inj same'
    exact isSpace_of_isWordPart part
  · rw [same] at same'
    obtain rfl := Option.some.inj same'
    exact ⟨apart (by decide), apart (by decide)⟩
  · rw [← readAtom_ofInt ends.endsWhole, same, List.cons_append]
    exact readValue_of_plain fuel (apart (by decide)) (apart (by decide)) (apart (by decide)) _

/-- The escaped literal of a text is written for it. -/
theorem isWritten_asciiString (text : Text) : IsWritten (.text text) (asciiString text) where
  solid first same := by
    obtain rfl := Option.some.inj same
    decide
  present := List.cons_ne_nil _ _
  flat first same := by
    obtain rfl := Option.some.inj same
    decide
  reads {rest} _ fuel := by
    rw [asciiString, List.cons_append, List.append_assoc, readValue]
    exact congrArg (Option.map _) (readString_ascii text rest)

/-! ## Fields -/

/-- A line of an object: a name and a written value. -/
def fieldLine (name written : Text) : Text :=
  ' ' :: ' ' :: (asciiString name ++ (": " : Text) ++ written)

/-- A line holds a field. -/
def IsLine (field : Text × Value) (line : Text) : Prop :=
  ∃ written, line = fieldLine field.1 written ∧ IsWritten field.2 written

/-- Behind its indentation, a line begins with the name of the field. -/
theorem skipSpace_line (name written rest : Text) : skipSpace (fieldLine name written ++ rest) =
    '"' :: (name.flatMap asciiChar ++ '"' :: ':' :: ' ' :: (written ++ rest)) := by
  simp [fieldLine, asciiString, skipSpace, isSpace]

/-- The field of a line is read, and then what ends it. -/
theorem readFields_line (isWritten : IsWritten value written) (ends : EndsField rest) (fuel : Nat) :
    readFields (fuel + 2) (skipSpace (fieldLine name written ++ rest)) =
      match skipSpace rest with
      | '}' :: rest => some ([(name, value)], rest)
      | ',' :: rest =>
        (readFields (fuel + 1) (skipSpace rest)).map fun (fields, rest) =>
          ((name, value) :: fields, rest)
      | _ => none := by
  have held : skipSpace (' ' :: (written ++ rest)) = written ++ rest :=
    isWritten.skipSpace_append rest
  rw [skipSpace_line, readFields, readString_ascii]
  simp only [Option.bind_eq_bind, Option.bind_some,
    skipSpace_of_not_space (rfl : isSpace ':' = false), held, isWritten.reads ends,
    Option.map_eq_bind]
  rfl

/-- A line is parted from the next ones by a comma at its end. -/
theorem join_lines (line next : Text) (lines : List Text) (rest : Text) :
    join [',', '\n'] (line :: next :: lines) ++ rest =
      line ++ ',' :: '\n' :: (join [',', '\n'] (next :: lines) ++ rest) := by
  simp [join]

/-- Lines are read one by one, up to the brace that closes the object. -/
theorem readFields_lines (each : List.Forall₂ IsLine fields lines) (present : fields ≠ [])
    (rest : Text) (fuel : Nat) :
    readFields (fields.length + 1 + fuel)
      (skipSpace (join [',', '\n'] lines ++ '\n' :: '}' :: rest)) = some (fields, rest) := by
  induction each with
  | nil => exact absurd rfl present
  | @cons field line fields lines isLine each inductionHypothesis =>
      obtain ⟨name, value⟩ := field
      obtain ⟨written, rfl, isWritten⟩ := isLine
      have depth : ((name, value) :: fields).length + 1 + fuel = fields.length + fuel + 2 := by
        rw [List.length_cons]
        omega
      cases each with
      | nil =>
          rw [depth, join, readFields_line isWritten (.inr rfl)]
          rfl
      | @cons next nextLine fields lines isNext each =>
          have depth' : (next :: fields).length + fuel + 1 =
              (next :: fields).length + 1 + fuel := by
            omega
          rw [depth, join_lines, readFields_line isWritten (.inl rfl),
            skipSpace_of_not_space (rfl : isSpace ',' = false)]
          change (readFields _ (skipSpace (join _ (nextLine :: lines) ++ _))).map _ = _
          rw [depth', inductionHypothesis (List.cons_ne_nil _ _)]
          rfl

/-- No line of fields is empty. -/
theorem ne_nil_of_lines (each : List.Forall₂ IsLine fields lines) : ∀ line ∈ lines, line ≠ [] := by
  induction each with
  | nil => exact List.forall_mem_nil _
  | cons isLine each inductionHypothesis =>
      obtain ⟨written, rfl, -⟩ := isLine
      exact List.forall_mem_cons.mpr ⟨List.cons_ne_nil _ _, inductionHypothesis⟩

/-- An opened record that is not empty is read as its fields. -/
theorem readValue_object {more : Text} (front : skipSpace text = '"' :: more) (fuel : Nat) :
    readValue (fuel + 1) ('{' :: text) =
      (readFields fuel (skipSpace text)).map fun (fields, rest) =>
        (.record (Entries.ofList fields), rest) := by
  rw [readValue, front]
  rfl

/-- The lines of an object, after the brace that opens it and up to its end. -/
def linesBody (lines : List Text) : Text :=
  join [',', '\n'] lines ++ ['\n', '}', '\n']

/-- Behind the brace that opens it, an object with lines begins with a name. -/
theorem exists_skipSpace_linesBody (each : List.Forall₂ IsLine fields lines)
    (present : fields ≠ []) : ∃ more, skipSpace ('\n' :: linesBody lines) = '"' :: more := by
  cases each with
  | nil => exact absurd rfl present
  | @cons field line fields lines isLine each =>
      obtain ⟨written, rfl, -⟩ := isLine
      obtain ⟨behind, same⟩ : ∃ behind, linesBody (fieldLine field.1 written :: lines) =
          fieldLine field.1 written ++ behind := by
        cases lines <;> exact ⟨_, by simp only [linesBody, join, List.append_assoc]; rfl⟩
      rw [same]
      exact ⟨_, skipSpace_line field.1 written behind⟩

/-- The length of the text is enough: every field takes a level of its own, and the braces take
the first one. -/
theorem exists_fuel_linesBody (each : List.Forall₂ IsLine fields lines) :
    ∃ fuel, 2 * ('{' :: '\n' :: linesBody lines).length + 2 = fields.length + 1 + fuel + 1 := by
  have bound : fields.length ≤ (join [',', '\n'] lines).length := by
    rw [each.length_eq]
    exact length_le_length_join_of_present _ (ne_nil_of_lines each)
  refine ⟨2 * ('{' :: '\n' :: linesBody lines).length - fields.length, ?_⟩
  simp only [linesBody, List.length_cons, List.length_append]
  omega

/-- A whole text that is an object with a field on each line. -/
theorem read?_lines (each : List.Forall₂ IsLine fields lines) (present : fields ≠ []) :
    read? ('{' :: '\n' :: linesBody lines) = some (.record (Entries.ofList fields)) := by
  obtain ⟨fuel, enough⟩ := exists_fuel_linesBody each
  obtain ⟨more, front⟩ := exists_skipSpace_linesBody each present
  have read : readFields (fields.length + 1 + fuel) (skipSpace ('\n' :: linesBody lines)) =
      some (fields, ['\n']) :=
    readFields_lines each present ['\n'] fuel
  rw [read?, skipSpace_of_not_space (rfl : isSpace '{' = false), enough, readValue_object front,
    read]
  rfl

/-! ## Nesting of lines -/

/-- A text that begins with neither a bracket nor a brace opens no level. -/
theorem valueDepth_of_flat (flat : ∀ first ∈ text.head?, first ≠ '[' ∧ first ≠ '{') (fuel : Nat) :
    valueDepth fuel text = 0 := by
  cases fuel with
  | zero => rfl
  | succ fuel =>
      rw [valueDepth]
      · rintro rest rfl
        exact (flat '[' rfl).1 rfl
      · rintro rest rfl
        exact (flat '{' rfl).2 rfl

/-- What is written for a value opens no level, whatever stands behind it. -/
theorem IsWritten.valueDepth_append (isWritten : IsWritten value written) (rest : Text)
    (fuel : Nat) : valueDepth fuel (written ++ rest) = 0 := by
  obtain ⟨first, more, rfl⟩ := List.exists_cons_of_ne_nil isWritten.present
  have flat : ∀ front ∈ (first :: more ++ rest).head?, front ≠ '[' ∧ front ≠ '{' := isWritten.flat
  exact valueDepth_of_flat flat fuel

/-- The levels of a line and of what stands behind it are those behind its comma. -/
theorem fieldsDepth_line (isWritten : IsWritten value written) (ends : EndsField rest)
    (fuel : Nat) : fieldsDepth (fuel + 2) (skipSpace (fieldLine name written ++ rest)) =
      match skipSpace rest with
      | ',' :: rest => fieldsDepth (fuel + 1) (skipSpace rest)
      | _ => 0 := by
  have held : skipSpace (' ' :: (written ++ rest)) = written ++ rest :=
    isWritten.skipSpace_append rest
  rw [skipSpace_line, fieldsDepth, readString_ascii]
  simp only [skipSpace_of_not_space (rfl : isSpace ':' = false), held, isWritten.reads ends,
    isWritten.valueDepth_append]
  exact Nat.zero_max _

/-- Lines with fields open no level. -/
theorem fieldsDepth_lines (each : List.Forall₂ IsLine fields lines) (present : fields ≠ [])
    (rest : Text) (fuel : Nat) :
    fieldsDepth (fields.length + 1 + fuel)
      (skipSpace (join [',', '\n'] lines ++ '\n' :: '}' :: rest)) = 0 := by
  -- The readers and the levels take the same steps, so the fuel is counted as for
  -- `readFields_lines`.
  induction each with
  | nil => exact absurd rfl present
  | @cons field line fields lines isLine each inductionHypothesis =>
      obtain ⟨name, value⟩ := field
      obtain ⟨written, rfl, isWritten⟩ := isLine
      have depth : ((name, value) :: fields).length + 1 + fuel = fields.length + fuel + 2 := by
        rw [List.length_cons]
        omega
      cases each with
      | nil =>
          rw [depth, join, fieldsDepth_line isWritten (.inr rfl)]
          rfl
      | @cons next nextLine fields lines isNext each =>
          have depth' : (next :: fields).length + fuel + 1 =
              (next :: fields).length + 1 + fuel := by
            omega
          rw [depth, join_lines, fieldsDepth_line isWritten (.inl rfl),
            skipSpace_of_not_space (rfl : isSpace ',' = false), depth']
          exact inductionHypothesis (List.cons_ne_nil _ _)

/-- An object with a field on each line is one level deep. -/
theorem depth_lines (each : List.Forall₂ IsLine fields lines) (present : fields ≠ []) :
    depth ('{' :: '\n' :: linesBody lines) = 1 := by
  obtain ⟨fuel, enough⟩ := exists_fuel_linesBody each
  obtain ⟨more, front⟩ := exists_skipSpace_linesBody each present
  have inner : fieldsDepth (fields.length + 1 + fuel) (skipSpace ('\n' :: linesBody lines)) = 0 :=
    fieldsDepth_lines each present ['\n'] fuel
  rw [depth, skipSpace_of_not_space (rfl : isSpace '{' = false), enough, valueDepth]
  rw [front] at inner ⊢
  exact congrArg (· + 1) inner

end Issuebook.Json
