import Issuebook.Proofs.Json.Enclosure
import Issuebook.Proofs.Json.Literals

/-!
# Words in lists

How the reader of lists meets an item that is a word of letters, digits, underscores and hyphens,
or a text in quotes. What stands behind the comma or the bracket that ends such an item makes no
difference to it (`readAtom_append`, `exists_of_readUnits`), so the reader goes on behind the item
exactly when the item is JSON by itself (`IsListItem`), and a list of such items is read exactly
when every item is (`read?_items`).
-/

namespace Issuebook.Json

open Text

variable {char : Char} {text word rest after name : Text} {value : Value}

/-- A character of words. -/
def isWordPart (char : Char) : Bool :=
  char.isAlphanum || char == '_' || char == '-'

/-- A word: one or more letters or digits of ASCII, underscores and hyphens. -/
def IsWord (text : Text) : Prop :=
  text ≠ [] ∧ ∀ char ∈ text, isWordPart char

instance (text : Text) : Decidable (IsWord text) :=
  inferInstanceAs (Decidable (_ ∧ _))

/-- A text that is JSON. -/
def IsJson (text : Text) : Prop :=
  (read? text).isSome

instance (text : Text) : Decidable (IsJson text) :=
  inferInstanceAs (Decidable (_ = true))

/-- A text that begins with what ends an item: a comma or a closing bracket. -/
def EndsItem (rest : Text) : Prop :=
  rest.head? = some ',' ∨ rest.head? = some ']'

/-- What ends an item is a comma or a closing bracket, and more. -/
theorem EndsItem.exists_mark (ends : EndsItem rest) :
    ∃ mark more, rest = mark :: more ∧ (mark = ',' ∨ mark = ']') := by
  rcases ends with comma | bracket
  · obtain ⟨more, rfl⟩ := List.head?_eq_some_iff.mp comma
    exact ⟨',', more, rfl, .inl rfl⟩
  · obtain ⟨more, rfl⟩ := List.head?_eq_some_iff.mp bracket
    exact ⟨']', more, rfl, .inr rfl⟩

/-- A digit is part of a word. -/
theorem isWordPart_of_isDigit (digit : char.isDigit) : isWordPart char := by
  simp [isWordPart, Char.isAlphanum, digit]

/-- The characters of words stand together, from the hyphen to the last letter. -/
theorem toNat_of_isWordPart (part : isWordPart char) :
    45 ≤ char.val.toNat ∧ char.val.toNat ≤ 122 := by
  by_contra outside
  have others : char ≠ '_' ∧ char ≠ '-' := by
    constructor <;> rintro rfl <;> exact outside (by decide)
  have letters : char.isAlphanum = false := by
    have ends : (Char.val 'A').toNat = 65 ∧ (Char.val 'Z').toNat = 90 ∧ (Char.val 'a').toNat = 97 ∧
        (Char.val 'z').toNat = 122 ∧ (Char.val '0').toNat = 48 ∧ (Char.val '9').toNat = 57 := by
      decide
    delta Char.isAlphanum Char.isAlpha Char.isUpper Char.isLower Char.isDigit
    simp only [Bool.or_eq_false_iff, Bool.and_eq_false_iff, decide_eq_false_iff_not, ge_iff_le,
      UInt32.le_iff_toNat_le]
    omega
  simp [isWordPart, letters, others] at part

/-- White space is not. -/
theorem not_isBlank_of_isWordPart (part : isWordPart char) : ¬ isBlank char := by
  have bounds := toNat_of_isWordPart part
  simp only [isBlank, Bool.or_eq_true, Bool.and_eq_true, decide_eq_true_eq, beq_iff_eq]
  omega

/-! ## What stands behind an item -/

/-- What ends an item ends the digits in front of it. -/
theorem takeDigits_append (ends : EndsItem rest) (text : Text) :
    takeDigits (text ++ rest) = ((takeDigits text).1, (takeDigits text).2 ++ rest) := by
  obtain ⟨mark, more, rfl, kind⟩ := ends.exists_mark
  have noDigit : mark.isDigit = false := by
    rcases kind with rfl | rfl <;> decide
  induction text with
  | nil => simp [takeDigits, noDigit]
  | cons char text inductionHypothesis =>
      obtain ⟨front, back⟩ := Prod.mk.inj inductionHypothesis
      by_cases digit : char.isDigit
      · simp [takeDigits, digit, front, back]
      · simp [takeDigits, digit]

/-- The sign of a number does not depend on what ends the item. -/
theorem takeSign_append (ends : EndsItem rest) (text : Text) :
    takeSign (text ++ rest) = ((takeSign text).1, (takeSign text).2 ++ rest) := by
  obtain ⟨mark, more, rfl, kind⟩ := ends.exists_mark
  cases text with
  | nil => rcases kind with rfl | rfl <;> rfl
  | cons char text =>
      by_cases minus : char = '-'
      · subst minus
        rfl
      · by_cases plus : char = '+'
        · subst plus
          rfl
        · have plain (text : Text) : takeSign (char :: text) = (false, char :: text) := by
            rw [takeSign]
            · exact fun _ same => absurd (List.cons.inj same).1 minus
            · exact fun _ same => absurd (List.cons.inj same).1 plus
          rw [List.cons_append, plain, plain]
          rfl

/-- Without a point there is no fraction. -/
theorem takeFraction_of_pointless (pointless : text.head? ≠ some '.') :
    takeFraction text = (none, text) := by
  unfold takeFraction
  split
  · exact absurd rfl pointless
  · rfl

/-- Without its letter there is no exponent. -/
theorem takeExponent_of_other (mark : char ≠ 'e' ∧ char ≠ 'E') (text : Text) :
    takeExponent (char :: text) = (none, char :: text) :=
  if_neg (not_or.mpr mark)

/-- An exponent: its mark, a sign and digits, one at least. -/
theorem takeExponent_of_mark (mark : char = 'e' ∨ char = 'E') (text : Text) :
    takeExponent (char :: text) =
      if (takeDigits (takeSign text).2).1.isEmpty then (none, char :: text)
      else
        (some (if (takeSign text).1 then -(digitsNumber (takeDigits (takeSign text).2).1 : Int)
          else digitsNumber (takeDigits (takeSign text).2).1), (takeDigits (takeSign text).2).2) :=
  if_pos mark

/-- What ends an item ends the exponent in front of it. -/
theorem takeExponent_append (ends : EndsItem rest) (text : Text) :
    takeExponent (text ++ rest) = ((takeExponent text).1, (takeExponent text).2 ++ rest) := by
  cases text with
  | nil =>
      obtain ⟨mark, more, rfl, kind⟩ := ends.exists_mark
      rcases kind with rfl | rfl <;> rfl
  | cons char text =>
      rw [List.cons_append]
      by_cases mark : char = 'e' ∨ char = 'E'
      · rw [takeExponent_of_mark mark, takeExponent_of_mark mark, takeSign_append ends,
          takeDigits_append ends]
        split_ifs <;> rfl
      · rw [takeExponent_of_other (not_or.mp mark), takeExponent_of_other (not_or.mp mark)]
        rfl

/-- A whole part that does not begin with zero is a run of digits. -/
theorem takeWhole?_of_other (other : text.head? ≠ some '0') : takeWhole? text =
    if (takeDigits text).1.isEmpty then none else some (takeDigits text) := by
  rw [takeWhole?]
  rintro after rfl
  exact other rfl

/-- What ends an item ends the whole part in front of it. -/
theorem takeWhole?_append (ends : EndsItem rest) (text : Text) : takeWhole? (text ++ rest) =
    (takeWhole? text).map fun (whole, after) => (whole, after ++ rest) := by
  by_cases zero : text.head? = some '0'
  · obtain ⟨text, rfl⟩ := List.head?_eq_some_iff.mp zero
    rfl
  · have zeroBehind : (text ++ rest).head? ≠ some '0' := by
      obtain ⟨mark, more, rfl, kind⟩ := ends.exists_mark
      cases text with
      | nil => rcases kind with rfl | rfl <;> simp
      | cons char text => exact zero
    rw [takeWhole?_of_other zero, takeWhole?_of_other zeroBehind, takeDigits_append ends]
    split_ifs <;> rfl

/-- A number without a point is read the same with an item's end behind it. -/
theorem readNumber_append (ends : EndsItem rest) (negative : Bool) (pointless : '.' ∉ text) :
    readNumber negative (text ++ rest) =
      (readNumber negative text).map fun (value, after) => (value, after ++ rest) := by
  rw [readNumber, readNumber, takeWhole?_append ends]
  cases found : takeWhole? text with
  | none => rfl
  | some parts =>
      obtain ⟨whole, after⟩ := parts
      have within : after ⊆ text := (Crosses.takeWhole? found).subset
      have noPoint : after.head? ≠ some '.' := fun point =>
        pointless (within (List.mem_of_head? point))
      have noPointBehind : (after ++ rest).head? ≠ some '.' := by
        obtain ⟨mark, more, rfl, kind⟩ := ends.exists_mark
        cases after with
        | nil => rcases kind with rfl | rfl <;> simp
        | cons char after => exact noPoint
      simp only [Option.map_some, Option.bind_eq_bind, Option.bind_some,
        takeFraction_of_pointless noPoint, takeFraction_of_pointless noPointBehind,
        takeExponent_append ends]
      split_ifs <;> rfl

/-- A name without the marks of a list is found in front of an item's end as it is alone. -/
theorem dropHead?_append_of_endsItem (ends : EndsItem rest) {name : Text}
    (plain : ',' ∉ name ∧ ']' ∉ name) (text : Text) :
    dropHead? name (text ++ rest) = (dropHead? name text).map (· ++ rest) := by
  induction name generalizing text with
  | nil => rfl
  | cons expected name inductionHypothesis =>
      obtain ⟨noComma, noBracket⟩ := plain
      cases text with
      | nil =>
          obtain ⟨mark, more, rfl, kind⟩ := ends.exists_mark
          have other : expected ≠ mark := by
            rintro rfl
            rcases kind with rfl | rfl
            · exact noComma List.mem_cons_self
            · exact noBracket List.mem_cons_self
          simp [dropHead?, other]
      | cons char text =>
          rw [List.cons_append, dropHead?, dropHead?]
          split_ifs
          · exact inductionHypothesis ⟨fun comma => noComma (List.mem_cons_of_mem _ comma),
              fun bracket => noBracket (List.mem_cons_of_mem _ bracket)⟩ text
          · rfl

/-- A fixed name is read the same with an item's end behind it. -/
theorem readNamed_append (ends : EndsItem rest) (text : Text) :
    readNamed (text ++ rest) =
      (readNamed text).map fun (value, after) => (value, after ++ rest) := by
  have plain : ∀ entry ∈ namedValues, ',' ∉ entry.1 ∧ ']' ∉ entry.1 := by
    decide
  rw [readNamed, readNamed]
  revert plain
  generalize namedValues = entries
  intro plain
  induction entries with
  | nil => rfl
  | cons entry entries inductionHypothesis =>
      obtain ⟨here, later⟩ := List.forall_mem_cons.mp plain
      simp only [List.findSome?_cons, dropHead?_append_of_endsItem ends here,
        inductionHypothesis later]
      cases dropHead? entry.1 text <;> rfl

/-- What is no fixed name is read as a number. -/
theorem readAtom_of_unnamed (unnamed : readNamed (char :: text) = none) :
    readAtom (char :: text) =
      if char = '-' then readNumber true text else readNumber false (char :: text) := by
  unfold readAtom
  rw [unnamed]
  dsimp only
  split
  · rename_i same
    obtain ⟨rfl, rfl⟩ := List.cons.inj same
    rfl
  · rename_i other
    exact (if_neg fun minus => other text (by rw [minus])).symm

/-- What is read of a word or of a part of one does not depend on what ends the item. -/
theorem readAtom_append (ends : EndsItem rest) (present : text ≠ []) (pointless : '.' ∉ text) :
    readAtom (text ++ rest) =
      (readAtom text).map fun (value, after) => (value, after ++ rest) := by
  have behind := readNamed_append ends text
  cases named : readNamed text with
  | some found =>
      rw [named] at behind
      simp only [readAtom, behind, named, Option.map_some]
  | none =>
      obtain ⟨first, text, rfl⟩ := List.exists_cons_of_ne_nil present
      rw [named, Option.map_none, List.cons_append] at behind
      rw [List.cons_append, readAtom_of_unnamed behind, readAtom_of_unnamed named]
      split_ifs
      · exact readNumber_append ends true fun point => pointless (List.mem_cons_of_mem _ point)
      · exact readNumber_append ends false pointless

/-- A literal is read up to its quote, whatever stands behind. -/
theorem exists_of_readUnits {units : List Nat} (read : readUnits text = some (units, after)) :
    ∃ front, text = front ++ '"' :: after ∧
      ∀ rest, readUnits (front ++ '"' :: rest) = some (units, rest) := by
  -- Whatever stands behind the quote is left as it is: the induction is on the reading.
  induction text using Json.readUnits.induct generalizing units with
  | case1 => cases read
  | case2 text =>
      rw [Json.readUnits] at read
      obtain ⟨rfl, rfl⟩ := Prod.mk.inj (Option.some.inj read)
      exact ⟨[], rfl, fun rest => by rw [List.nil_append, Json.readUnits]⟩
  | case3 first second third fourth text inductionHypothesis =>
      simp only [Json.readUnits, Option.bind_eq_bind, Option.bind_eq_some_iff, Prod.exists] at read
      obtain ⟨unit, written, others, left, found, same⟩ := read
      obtain ⟨rfl, rfl⟩ := Prod.mk.inj (Option.some.inj same)
      obtain ⟨front, rfl, whatever⟩ := inductionHypothesis found
      refine ⟨'\\' :: 'u' :: first :: second :: third :: fourth :: front, rfl, fun rest => ?_⟩
      simp only [List.cons_append]
      rw [readUnits_unit written, whatever]
      rfl
  | case4 letter text notLong inductionHypothesis =>
      rw [Json.readUnits] at read
      · simp only [Option.bind_eq_bind, Option.bind_eq_some_iff, Prod.exists] at read
        obtain ⟨char, written, others, left, found, same⟩ := read
        obtain ⟨rfl, rfl⟩ := Prod.mk.inj (Option.some.inj same)
        have short : letter ≠ 'u' := by
          rintro rfl
          cases written
        obtain ⟨front, rfl, whatever⟩ := inductionHypothesis found
        refine ⟨'\\' :: letter :: front, rfl, fun rest => ?_⟩
        simp only [List.cons_append]
        rw [readUnits_letter short written, whatever]
        rfl
      · exact notLong
  | case5 char text quote noUnit noLetter excluded =>
      rw [Json.readUnits, if_pos excluded] at read
      · cases read
      all_goals assumption
  | case6 char text quote noUnit noLetter allowed inductionHypothesis =>
      rw [Json.readUnits, if_neg allowed] at read
      · simp only [Option.bind_eq_bind, Option.bind_eq_some_iff, Prod.exists] at read
        obtain ⟨others, left, found, same⟩ := read
        obtain ⟨rfl, rfl⟩ := Prod.mk.inj (Option.some.inj same)
        obtain ⟨printable, backslash⟩ := not_or.mp allowed
        obtain ⟨front, rfl, whatever⟩ := inductionHypothesis found
        refine ⟨char :: front, rfl, fun rest => ?_⟩
        rw [List.cons_append, readUnits_plain quote backslash printable, whatever]
        rfl
      all_goals assumption

/-- A literal that is read to its end closes with its quote. -/
theorem exists_of_readString {written content : Text}
    (literal : readString written = some (content, [])) :
    ∃ front, written = front ++ ['"'] ∧
      ∀ rest, readString (written ++ rest) = some (content, rest) := by
  obtain ⟨units, found, joined⟩ := readString_eq_some.mp literal
  obtain ⟨front, rfl, whatever⟩ := exists_of_readUnits found
  refine ⟨front, rfl, fun rest => readString_eq_some.mpr ⟨units, ?_, joined⟩⟩
  rw [List.append_assoc, List.singleton_append, whatever]

/-! ## Items -/

/-- A text that the reader of lists meets as it meets the text alone, whatever ends the item: it
reads the value and stops right behind the text where that is JSON, and otherwise stops nowhere
that a list could go on. -/
structure IsListItem (text : Text) : Prop where
  /-- The first character is no white space and does not close a list. -/
  front : ∃ first more, text = first :: more ∧ isSpace first = false ∧ first ≠ ']'
  /-- The value is read and nothing behind it. -/
  value : ∀ {value : Value}, read? text = some value → ∀ {rest : Text}, EndsItem rest →
    ∀ fuel, readValue (fuel + 1) (text ++ rest) = some (value, rest)
  /-- No list goes on behind what is no JSON. -/
  stuck : read? text = none → ∀ {rest : Text}, EndsItem rest → ∀ {fuel value after},
    readValue fuel (text ++ rest) = some (value, after) →
    ∀ mark ∈ (skipSpace after).head?, mark ≠ ',' ∧ mark ≠ ']'

/-- An item is not empty. -/
theorem IsListItem.ne_nil (item : IsListItem text) : text ≠ [] := by
  obtain ⟨first, more, rfl, -⟩ := item.front
  exact List.cons_ne_nil _ _

/-- It begins with no white space. -/
theorem IsListItem.skipSpace_append (item : IsListItem text) (rest : Text) :
    skipSpace (text ++ rest) = text ++ rest := by
  obtain ⟨first, more, rfl, solid, -⟩ := item.front
  exact skipSpace_of_not_space solid _

/-- A part of a word is no space. -/
theorem isSpace_of_isWordPart (part : isWordPart char) : isSpace char = false := by
  by_contra space
  simp only [isSpace, Bool.or_eq_true, beq_iff_eq, Bool.not_eq_false] at space
  rcases space with ((rfl | rfl) | rfl) | rfl <;> exact absurd part (by decide)

/-- A text of such parts begins with no space. -/
theorem skipSpace_of_parts (parts : ∀ char ∈ text, isWordPart char) : skipSpace text = text := by
  cases text with
  | nil => rfl
  | cons first text =>
      exact skipSpace_of_not_space (isSpace_of_isWordPart (parts first List.mem_cons_self)) text

/-- It has no character of another kind. -/
theorem not_mem_of_parts (parts : ∀ char ∈ text, isWordPart char) {mark : Char}
    (other : isWordPart mark = false) : mark ∉ text := by
  intro present
  rw [parts mark present] at other
  cases other

/-- A value that begins with none of the marks of strings, lists and objects is an atom. -/
theorem readValue_of_plain (fuel : Nat) (quote : char ≠ '"') (bracket : char ≠ '[')
    (brace : char ≠ '{') (text : Text) :
    readValue (fuel + 1) (char :: text) = readAtom (char :: text) := by
  rw [readValue]
  · exact fun _ same => absurd (List.cons.inj same).1 quote
  · exact fun _ same => absurd (List.cons.inj same).1 bracket
  · exact fun _ same => absurd (List.cons.inj same).1 brace

/-- A word is read as a number or a fixed name. -/
theorem readValue_of_isWord (word : IsWord text) (fuel : Nat) (rest : Text) :
    readValue (fuel + 1) (text ++ rest) = readAtom (text ++ rest) := by
  obtain ⟨present, parts⟩ := word
  have apart {mark : Char} (other : isWordPart mark = false) : text.head? ≠ some mark :=
    fun first => not_mem_of_parts parts other (List.mem_of_head? first)
  obtain ⟨first, text, rfl⟩ := List.exists_cons_of_ne_nil present
  refine readValue_of_plain fuel ?_ ?_ ?_ _
  · exact fun same => apart (by decide : isWordPart '"' = false) (congrArg some same)
  · exact fun same => apart (by decide : isWordPart '[' = false) (congrArg some same)
  · exact fun same => apart (by decide : isWordPart '{' = false) (congrArg some same)

/-- A word is JSON when it is an atom to its end. -/
theorem read?_of_isWord (word : IsWord text) : read? text =
    (readAtom text).bind fun (value, after) => if after.isEmpty then some value else none := by
  have atom := readValue_of_isWord word (2 * text.length + 1) []
  rw [List.append_nil] at atom
  rw [read?, skipSpace_of_parts word.2, atom]
  cases read : readAtom text with
  | none => rfl
  | some found =>
      obtain ⟨value, after⟩ := found
      have parts : ∀ char ∈ after, isWordPart char := fun char place =>
        word.2 char ((Crosses.readAtom read).subset place)
      simp only [Option.bind_eq_bind, Option.bind_some, skipSpace_of_parts parts]
      rfl

/-- A word is an item. -/
theorem isListItem_of_isWord (word : IsWord text) : IsListItem text := by
  have pointless : '.' ∉ text := not_mem_of_parts word.2 (by decide)
  obtain ⟨first, more, shape⟩ := List.exists_cons_of_ne_nil word.1
  have part : isWordPart first := word.2 first (by simp [shape])
  refine ⟨⟨first, more, shape, isSpace_of_isWordPart part, ?_⟩, fun json rest ends fuel => ?_,
    fun noJson rest ends fuel value after read => ?_⟩
  · rintro rfl
    exact absurd part (by decide)
  · rw [read?_of_isWord word] at json
    obtain ⟨⟨value, after⟩, read, whole⟩ := Option.bind_eq_some_iff.mp json
    dsimp only at whole
    split_ifs at whole with ended
    obtain rfl := Option.some.inj whole
    obtain rfl := List.isEmpty_iff.mp ended
    rw [readValue_of_isWord word, readAtom_append ends word.1 pointless, read]
    rfl
  · cases fuel with
    | zero => cases read
    | succ fuel =>
        rw [readValue_of_isWord word, readAtom_append ends word.1 pointless] at read
        obtain ⟨⟨found, left⟩, atom, same⟩ := Option.map_eq_some_iff.mp read
        obtain ⟨-, rfl⟩ := Prod.mk.inj same
        rw [read?_of_isWord word, atom] at noJson
        have present : left ≠ [] := by
          rintro rfl
          cases noJson
        obtain ⟨mark, left, rfl⟩ := List.exists_cons_of_ne_nil present
        have inWord : isWordPart mark :=
          word.2 mark ((Crosses.readAtom atom).subset List.mem_cons_self)
        rw [List.cons_append, skipSpace_of_not_space (isSpace_of_isWordPart inWord)]
        rintro _ ⟨⟩
        constructor
        · rintro rfl
          exact absurd inWord (by decide)
        · rintro rfl
          exact absurd inWord (by decide)

/-- A literal to its end is the JSON of its text. -/
theorem read?_of_readString {written content : Text}
    (literal : readString written = some (content, [])) :
    read? ('"' :: written) = some (.text content) := by
  rw [read?, skipSpace_of_not_space (by decide : isSpace '"' = false), readValue, literal]
  rfl

/-- A quoted text is an item. -/
theorem isListItem_of_readString {written content : Text}
    (literal : readString written = some (content, [])) : IsListItem ('"' :: written) := by
  have json := read?_of_readString literal
  refine ⟨⟨'"', written, rfl, by decide, by decide⟩, fun read rest ends fuel => ?_,
    fun noJson => ?_⟩
  · rw [json] at read
    obtain rfl := Option.some.inj read
    obtain ⟨front, -, whatever⟩ := exists_of_readString literal
    rw [List.cons_append, readValue, whatever]
    rfl
  · rw [json] at noJson
    cases noJson

/-- No value begins with a single quote. -/
theorem readValue_singleQuote (fuel : Nat) (text : Text) :
    readValue fuel ('\'' :: text) = none := by
  cases fuel with
  | zero => rfl
  | succ fuel =>
      have unnamed : readNamed ('\'' :: text) = none := by
        simp [readNamed, namedValues, dropHead?]
      rw [readValue_of_plain fuel (by decide) (by decide) (by decide),
        readAtom_of_unnamed unnamed]
      rfl

/-- What begins with a single quotation mark is no value. -/
theorem read?_singleQuote (text : Text) : read? ('\'' :: text) = none := by
  rw [read?, skipSpace_of_not_space (by decide : isSpace '\'' = false), readValue_singleQuote]
  rfl

/-- It is an item all the same, which nobody reads. -/
theorem isListItem_singleQuote (text : Text) : IsListItem ('\'' :: text) := by
  refine ⟨⟨'\'', text, rfl, by decide, by decide⟩, fun json => ?_, fun _ rest _ fuel _ _ read => ?_⟩
  · rw [read?_singleQuote] at json
    cases json
  · rw [List.cons_append, readValue_singleQuote] at read
    cases read

/-! ## Lists of items -/

/-- Items are not read when no mark of a list stands behind the first. -/
theorem readItems_eq_none {fuel : Nat}
    (stuck : ∀ {value after}, readValue fuel text = some (value, after) →
      ∀ mark ∈ (skipSpace after).head?, mark ≠ ',' ∧ mark ≠ ']') :
    readItems (fuel + 1) text = none := by
  rw [readItems]
  cases read : readValue fuel text with
  | none => rfl
  | some found =>
      obtain ⟨value, after⟩ := found
      have marks := stuck read
      simp only [Option.bind_eq_bind, Option.bind_some]
      split
      · rename_i bracket
        exact absurd rfl (marks ']' (by rw [bracket]; rfl)).2
      · rename_i comma
        exact absurd rfl (marks ',' (by rw [comma]; rfl)).1
      · rfl

/-- The items of a list are read when every one of them is JSON by itself. -/
theorem readItems_join {items : List Text} (present : items ≠ [])
    (each : ∀ item ∈ items, IsListItem item) (rest : Text) (fuel : Nat) :
    readItems (items.length + 1 + fuel) (join ", " items ++ ']' :: rest) =
      (items.mapM read?).map fun values => (values, rest) := by
  induction items with
  | nil => exact absurd rfl present
  | cons item items inductionHypothesis =>
      obtain ⟨here, later⟩ := List.forall_mem_cons.mp each
      cases items with
      | nil =>
          have depth : [item].length + 1 + fuel = (fuel + 1) + 1 := by
            simp only [List.length_singleton]
            omega
          have ends : EndsItem (']' :: rest) := .inr rfl
          rw [depth]
          cases json : read? item with
          | none => exact (readItems_eq_none (here.stuck json ends)).trans (by simp [json])
          | some value => exact (readItems_last (here.value json ends fuel)).trans (by simp [json])
      | cons next items =>
          have depth : (item :: next :: items).length + 1 + fuel =
              ((next :: items).length + fuel + 1) + 1 := by
            simp only [List.length_cons]
            omega
          have depth' : (next :: items).length + fuel + 1 = (next :: items).length + 1 + fuel := by
            omega
          have joined : join ", " (item :: next :: items) ++ ']' :: rest =
              item ++ ',' :: ' ' :: (join ", " (next :: items) ++ ']' :: rest) := by
            simp [join]
          have front : skipSpace (' ' :: (join ", " (next :: items) ++ ']' :: rest)) =
              join ", " (next :: items) ++ ']' :: rest := by
            obtain ⟨behind, shape⟩ : ∃ behind,
                join ", " (next :: items) ++ ']' :: rest = next ++ behind := by
              cases items <;> exact ⟨_, by simp only [join, List.append_assoc]; rfl⟩
            rw [shape]
            exact (later next List.mem_cons_self).skipSpace_append behind
          have ends :
              EndsItem (',' :: ' ' :: (join ", " (next :: items) ++ ']' :: rest)) := .inl rfl
          rw [depth, joined]
          cases json : read? item with
          | none => exact (readItems_eq_none (here.stuck json ends)).trans (by simp [json])
          | some value =>
              rw [readItems_more (here.value json ends _), front, depth',
                inductionHypothesis (List.cons_ne_nil _ _) later,
                List.mapM_cons (l := next :: items),
                json]
              cases (next :: items).mapM read? <;> rfl

/-- Joined texts that are not empty are at least as long as they are many. -/
theorem length_le_length_join_of_present (separator : Text) {items : List Text}
    (present : ∀ item ∈ items, item ≠ []) : items.length ≤ (join separator items).length := by
  induction items with
  | nil => simp
  | cons item items inductionHypothesis =>
      obtain ⟨here, later⟩ := List.forall_mem_cons.mp present
      have some_char : 0 < item.length := List.length_pos_iff.mpr here
      have rest := inductionHypothesis later
      cases items with
      | nil => exact some_char
      | cons next items =>
          simp only [join, List.length_append, List.length_cons] at rest ⊢
          omega

/-- An opened list that is not empty is read as its items. -/
theorem readValue_list (fuel : Nat) (front : skipSpace text = text)
    (open_ : text.head? ≠ some ']') : readValue (fuel + 1) ('[' :: text) =
      (readItems fuel text).map fun (items, rest) => (.list items, rest) := by
  rw [readValue, front]
  split
  · exact absurd rfl open_
  · rfl

/-- Items between brackets are a JSON list when every one of them is JSON by itself. -/
theorem read?_items {items : List Text} (present : items ≠ [])
    (each : ∀ item ∈ items, IsListItem item) :
    read? ('[' :: (join ", " items ++ [']'])) = (items.mapM read?).map .list := by
  have bound : items.length ≤ (join ", " items).length :=
    length_le_length_join_of_present _ fun item listed => (each item listed).ne_nil
  -- Every item takes a level of its own, and the brackets take the first one.
  obtain ⟨fuel, depth⟩ : ∃ fuel, 2 * ('[' :: (join ", " items ++ [']'])).length + 2 =
      items.length + 1 + fuel + 1 := by
    refine ⟨2 * ('[' :: (join ", " items ++ [']'])).length - items.length, ?_⟩
    simp only [List.length_cons, List.length_append]
    omega
  obtain ⟨item, more, rfl⟩ := List.exists_cons_of_ne_nil present
  obtain ⟨behind, shape⟩ : ∃ behind, join ", " (item :: more) ++ [']'] = item ++ behind := by
    cases more <;> exact ⟨_, by simp only [join, List.append_assoc]; rfl⟩
  have first := each item List.mem_cons_self
  have open_ : (item ++ behind).head? ≠ some ']' := by
    obtain ⟨char, text, rfl, -, other⟩ := first.front
    simpa using other
  have list := readItems_join (List.cons_ne_nil item more) each [] fuel
  rw [read?, skipSpace_of_not_space (by decide : isSpace '[' = false), depth, shape,
    readValue_list _ (first.skipSpace_append behind) open_, ← shape, list]
  cases (item :: more).mapM read? <;> rfl

end Issuebook.Json
