import Issuebook.Proofs.Entries
import Issuebook.Proofs.Json.Tearing
import Issuebook.Proofs.Text.Characters
import Issuebook.Proofs.Text.Lines

/-!
# Inside and outside of literals

Every character of a JSON text stands inside or outside of a literal, and outside only a few
characters can stand. A line boundary that is neither a line feed nor a carriage return stands
inside. So a text that is torn at such boundaries comes apart into pieces that leave a literal open
or begin within one, and none of them is an object with a field of a usual name:
`absent_of_torn`.
-/

namespace Issuebook.Json

open Text

/-- Where a character of a JSON text can stand. -/
inductive Standing where
  /-- Outside of literals. -/
  | outside
  /-- Inside of a literal. -/
  | inside
  /-- Inside of a literal, behind a backslash. -/
  | escaped
  deriving DecidableEq

variable {before after last : Standing} {char letter : Char} {front text middle rest : Text}

/-- The characters that can stand outside of literals: white space, digits, the marks between
values, and the letters of exponents and of named values. -/
def isOutside (char : Char) : Bool :=
  isSpace char || char.isDigit || ("{}[]:,+-.eEnultrfasNIiy" : Text).contains char

/-- Where the character behind one stands, unless that one cannot stand where it does. -/
def Standing.step : Standing → Char → Option Standing
  | .outside, char =>
    if char = '"' then some .inside else if isOutside char then some .outside else none
  | .inside, char =>
    if char = '"' then some .outside else if char = '\\' then some .escaped else some .inside
  | .escaped, char => if isLineBreak char then none else some .inside

/-- Where a text leaves off. -/
def cross (before : Standing) (text : Text) : Option Standing :=
  text.foldlM Standing.step before

/-- White space between values stands outside of strings. -/
theorem isOutside_of_isSpace (space : isSpace char) : isOutside char := by
  rw [isOutside, space, Bool.true_or, Bool.true_or]

/-- So do digits. -/
theorem isOutside_of_isDigit (digit : char.isDigit) : isOutside char := by
  rw [isOutside, digit, Bool.or_true, Bool.true_or]

/-- What may stand outside of strings is no quotation mark. -/
theorem ne_quote_of_isOutside (stands : isOutside char) : char ≠ '"' := by
  rintro rfl
  revert stands
  decide

/-- It is no backslash either. -/
theorem ne_backslash_of_isOutside (stands : isOutside char) : char ≠ '\\' := by
  rintro rfl
  revert stands
  decide

/-- Of the blanks only white space can stand outside of literals. -/
theorem isSpace_of_isOutside_of_isBlank (stands : isOutside char) (blank : isBlank char) :
    isSpace char := by
  unfold isOutside at stands
  rcases Bool.or_eq_true _ _ ▸ stands with spaceOrDigit | mark
  · rcases Bool.or_eq_true _ _ ▸ spaceOrDigit with space | digit
    · exact space
    · simp only [Char.isDigit, Bool.and_eq_true, decide_eq_true_eq, ge_iff_le,
        UInt32.le_iff_toNat_le] at digit
      simp only [isBlank, Bool.or_eq_true, Bool.and_eq_true, decide_eq_true_eq,
        beq_iff_eq] at blank
      have low : 48 ≤ char.val.toNat := digit.1
      have high : char.val.toNat ≤ 57 := digit.2
      omega
  · have solid : ∀ mark ∈ ("{}[]:,+-.eEnultrfasNIiy" : Text), isBlank mark = false := by
      decide
    rw [solid char (List.contains_iff_mem.mp mark)] at blank
    cases blank

/-- Of the line boundaries only the two oldest can. -/
theorem eq_of_isOutside_of_isLineBreak (stands : isOutside char) (ends : isLineBreak char) :
    char = '\n' ∨ char = '\r' := by
  have space := isSpace_of_isOutside_of_isBlank stands (isBlank_of_isLineBreak ends)
  simp only [isSpace, Bool.or_eq_true, beq_iff_eq] at space
  rcases space with ((rfl | rfl) | feed) | carriage
  · exact absurd ends (by decide)
  · exact absurd ends (by decide)
  · exact .inl feed
  · exact .inr carriage

/-! ## Crossing a text -/

/-- Outside of strings, a character that may stand there leaves the reader outside. -/
theorem step_outside (stands : isOutside char) : Standing.outside.step char = some .outside :=
  (if_neg (ne_quote_of_isOutside stands)).trans (if_pos stands)

/-- Inside a string, every character but two leaves the reader inside. -/
theorem step_inside (quote : char ≠ '"') (backslash : char ≠ '\\') :
    Standing.inside.step char = some .inside :=
  (if_neg quote).trans (if_neg backslash)

/-- Behind a backslash, one character of the line leads back into the string. -/
theorem step_escaped (inLine : ¬ isLineBreak char) : Standing.escaped.step char = some .inside :=
  if_neg inLine

/-- Outside of strings there is a quotation mark, or a character that leaves the reader outside. -/
theorem isOutside_of_step (step : Standing.outside.step char = some after) :
    char = '"' ∨ isOutside char ∧ after = .outside := by
  by_cases quote : char = '"'
  · exact .inl quote
  · rw [Standing.step, if_neg quote] at step
    split_ifs at step with stands
    exact .inr ⟨stands, (Option.some.inj step).symm⟩

/-- A line boundary other than the two oldest stands inside of a literal. -/
theorem eq_inside_of_step (step : before.step char = some after) (ends : isLineBreak char)
    (noFeed : char ≠ '\n') (noReturn : char ≠ '\r') : before = .inside ∧ after = .inside := by
  have quote : char ≠ '"' := by
    rintro rfl
    exact absurd ends (by decide)
  have backslash : char ≠ '\\' := by
    rintro rfl
    exact absurd ends (by decide)
  cases before with
  | outside =>
      obtain ⟨stands, -⟩ := (isOutside_of_step step).resolve_left quote
      exact absurd (eq_of_isOutside_of_isLineBreak stands ends) (not_or.mpr ⟨noFeed, noReturn⟩)
  | inside =>
      rw [step_inside quote backslash] at step
      exact ⟨rfl, (Option.some.inj step).symm⟩
  | escaped =>
      rw [Standing.step, if_pos ends] at step
      cases step

/-- A text is crossed character by character. -/
theorem cross_cons (before : Standing) (char : Char) (text : Text) :
    cross before (char :: text) = (before.step char).bind (cross · text) :=
  List.foldlM_cons

/-- Behind a part that was crossed, the rest is crossed from where the part ended. -/
theorem cross_append (crossed : cross before front = some after) (text : Text) :
    cross before (front ++ text) = cross after text := by
  rw [cross, List.foldlM_append, ← cross, crossed]
  rfl

/-! ## Tearing a text -/

/-- A text that comes apart into lines: the first leaves a literal open, and the others begin
within one. -/
def IsTorn (before : Standing) (text : Text) : Prop :=
  ∃ first more, lines text = first :: more ∧ cross before first = some .inside ∧
    ∀ piece ∈ more, (cross .inside piece).isSome

/-- A torn text is still torn with a character of the line in front. -/
theorem IsTorn.cons (torn : IsTorn after text) (inLine : ¬ isLineBreak char)
    (step : before.step char = some after) : IsTorn before (char :: text) := by
  obtain ⟨first, more, pieces, opened, others⟩ := torn
  refine ⟨char :: first, more, ?_, ?_, others⟩
  · rw [lines_cons_of_not_break inLine, pieces, consLine]
  · rw [cross_cons, step, Option.bind_some, opened]

/-- A line with one more character of a line is a line. -/
theorem isSingleLine_cons (inLine : ¬ isLineBreak char) (single : IsSingleLine text) :
    IsSingleLine (char :: text) :=
  List.forall_mem_cons.mpr ⟨inLine, single⟩

/-- A text of one line is one piece, or none at all. -/
theorem mem_lines_of_single (single : IsSingleLine text) {piece : Text}
    (present : piece ∈ lines text) : piece = text := by
  by_cases blank : text = []
  · rw [blank, lines_nil] at present
    cases present
  · rw [lines_of_single blank single] at present
    exact List.mem_singleton.mp present

/-- A text that is crossed is one line, or is torn within literals: outside stand only the two
oldest boundaries. -/
theorem isSingleLine_or_isTorn (crossed : cross before text = some last)
    (noFeed : '\n' ∉ text) (noReturn : '\r' ∉ text) :
    IsSingleLine text ∨ IsTorn before text := by
  induction text generalizing before with
  | nil => exact .inl (List.forall_mem_nil _)
  | cons char text inductionHypothesis =>
      rw [cross_cons] at crossed
      obtain ⟨after, step, crossed⟩ := Option.bind_eq_some_iff.mp crossed
      simp only [List.mem_cons, not_or] at noFeed noReturn
      have rest := inductionHypothesis crossed noFeed.2 noReturn.2
      by_cases ends : isLineBreak char
      · -- The text is torn here: a literal is open in front and behind.
        obtain ⟨rfl, rfl⟩ :=
          eq_inside_of_step step ends (Ne.symm noFeed.1) (Ne.symm noReturn.1)
        refine .inr ⟨[], lines text, ?_, rfl, fun piece present => ?_⟩
        · exact lines_cons_of_break ends text fun isReturn => absurd isReturn (Ne.symm noReturn.1)
        · rcases rest with single | ⟨first, more, pieces, opened, others⟩
          · rw [mem_lines_of_single single present, crossed]
            rfl
          · rw [pieces] at present
            rcases List.mem_cons.mp present with rfl | present
            · rw [opened]
              rfl
            · exact others piece present
      · exact rest.imp (isSingleLine_cons ends) (IsTorn.cons · ends step)

/-! ## What the readers consume -/

/-- The four characters of a unit are hexadecimal digits. -/
theorem values_of_unit? {first second third fourth : Char} {number : Nat}
    (written : unit? first second third fourth = some number) :
    ∀ char ∈ [first, second, third, fourth], ∃ value, hexDigitValue? char = some value := by
  simp only [unit?, Option.bind_eq_bind, Option.bind_eq_some_iff] at written
  obtain ⟨one, firstDigit, two, secondDigit, three, thirdDigit, four, fourthDigit, -⟩ := written
  simp only [List.forall_mem_cons]
  exact ⟨⟨one, firstDigit⟩, ⟨two, secondDigit⟩, ⟨three, thirdDigit⟩, ⟨four, fourthDigit⟩,
    List.forall_mem_nil _⟩

/-- A rest of a text, in front of which the text is crossed. -/
def Crosses (before : Standing) (text : Text) (after : Standing) (rest : Text) : Prop :=
  ∃ front, text = front ++ rest ∧ cross before front = some after

namespace Crosses

/-- Nothing is crossed by staying. -/
theorem refl (before : Standing) (text : Text) : Crosses before text before text :=
  ⟨[], rfl, rfl⟩

/-- Parts that are crossed one behind the other are crossed together. -/
theorem trans (first : Crosses before text after middle) (second : Crosses after middle last rest) :
    Crosses before text last rest := by
  obtain ⟨front, rfl, crossed⟩ := first
  obtain ⟨back, rfl, crossedBack⟩ := second
  exact ⟨front ++ back, (List.append_assoc ..).symm, (cross_append crossed back).trans crossedBack⟩

/-- A single step crosses its character. -/
theorem one (step : before.step char = some after) (text : Text) :
    Crosses before (char :: text) after text := by
  refine ⟨[char], rfl, ?_⟩
  rw [cross_cons, step]
  rfl

/-- A quotation mark outside opens a string. -/
theorem opening (text : Text) : Crosses .outside ('"' :: text) .inside text :=
  one rfl text

/-- A quotation mark inside closes the string. -/
theorem closing (text : Text) : Crosses .inside ('"' :: text) .outside text :=
  one rfl text

/-- A character that may stand outside is crossed there. -/
theorem outside (stands : isOutside char) (text : Text) :
    Crosses .outside (char :: text) .outside text :=
  one (step_outside stands) text

/-- A character other than a quotation mark and a backslash is crossed inside. -/
theorem plain (quote : char ≠ '"') (backslash : char ≠ '\\') (text : Text) :
    Crosses .inside (char :: text) .inside text :=
  one (step_inside quote backslash) text

/-- A backslash is crossed inside together with the character behind it. -/
theorem escape (inLine : ¬ isLineBreak letter) (text : Text) :
    Crosses .inside ('\\' :: letter :: text) .inside text :=
  (one rfl (letter :: text)).trans (one (step_escaped inLine) text)

/-- Dropping characters that may stand outside crosses them. -/
theorem dropWhile {drops : Char → Bool} (each : ∀ char, drops char → isOutside char)
    (text : Text) : Crosses .outside text .outside (text.dropWhile drops) := by
  induction text with
  | nil => exact refl .outside []
  | cons char text inductionHypothesis =>
      by_cases dropped : drops char
      · rw [List.dropWhile_cons_of_pos dropped]
        exact (outside (each char dropped) text).trans inductionHypothesis
      · rw [List.dropWhile_cons_of_neg dropped]
        exact refl .outside _

/-- So does the skipping of white space. -/
theorem skipSpace (text : Text) : Crosses .outside text .outside (skipSpace text) :=
  dropWhile (fun _ => isOutside_of_isSpace) text

/-- The reader of digits stays outside of strings. -/
theorem takeDigits (text : Text) : Crosses .outside text .outside (takeDigits text).2 :=
  dropWhile (fun _ => isOutside_of_isDigit) text

/-- So does the reader of a sign. -/
theorem takeSign (text : Text) : Crosses .outside text .outside (takeSign text).2 := by
  unfold Text.takeSign
  split
  · exact outside (by decide) _
  · exact outside (by decide) _
  · exact refl .outside _

/-- So does the reader of a fraction. -/
theorem takeFraction (text : Text) : Crosses .outside text .outside (takeFraction text).2 := by
  unfold Json.takeFraction
  split
  · next rest =>
      dsimp only
      split_ifs
      · exact refl .outside _
      · exact (outside (by decide) rest).trans (takeDigits rest)
  · exact refl .outside _

/-- So does the reader of an exponent. -/
theorem takeExponent (text : Text) : Crosses .outside text .outside (takeExponent text).2 := by
  unfold Json.takeExponent
  split
  · next mark rest =>
      by_cases exponent : mark = 'e' ∨ mark = 'E'
      · have stands : isOutside mark := by
          rcases exponent with rfl | rfl <;> decide
        dsimp only
        rw [if_pos exponent]
        split_ifs
        · exact refl .outside _
        all_goals
          exact ((outside stands rest).trans (takeSign rest)).trans (takeDigits _)
      · rw [if_neg exponent]
        exact refl .outside _
  · exact refl .outside _

/-- So does the reader of the whole part of a number. -/
theorem takeWhole? {whole : Text} (read : takeWhole? text = some (whole, rest)) :
    Crosses .outside text .outside rest := by
  unfold Json.takeWhole? at read
  split at read
  · obtain ⟨-, rfl⟩ := Prod.mk.inj (Option.some.inj read)
    exact outside (by decide) _
  · dsimp only at read
    split_ifs at read
    obtain ⟨-, rfl⟩ := Prod.mk.inj (Option.some.inj read)
    exact takeDigits text

/-- A number is read without entering a string. -/
theorem readNumber {negative : Bool} {value : Value}
    (read : readNumber negative text = some (value, rest)) :
    Crosses .outside text .outside rest := by
  simp only [Json.readNumber, Option.bind_eq_bind, Option.bind_eq_some_iff, Prod.exists] at read
  obtain ⟨whole, after, found, read⟩ := read
  have left : Crosses .outside text .outside (Json.takeExponent (Json.takeFraction after).2).2 :=
    ((takeWhole? found).trans (takeFraction after)).trans (takeExponent _)
  split_ifs at read
  all_goals
    obtain ⟨-, rfl⟩ := Prod.mk.inj (Option.some.inj read)
    exact left

/-- A name of characters that may stand outside is crossed there. -/
theorem append {name : Text} (each : ∀ char ∈ name, isOutside char) (text : Text) :
    Crosses .outside (name ++ text) .outside text := by
  induction name with
  | nil => exact refl .outside text
  | cons char name inductionHypothesis =>
      obtain ⟨first, later⟩ := List.forall_mem_cons.mp each
      exact (outside first _).trans (inductionHypothesis later)

/-- Neither a number nor a fixed name enters a string. -/
theorem readAtom {value : Value} (read : readAtom text = some (value, rest)) :
    Crosses .outside text .outside rest := by
  unfold Json.readAtom at read
  split at read
  · next found named =>
      obtain rfl := Option.some.inj read
      obtain ⟨⟨name, known⟩, present, taken⟩ := List.exists_of_findSome?_eq_some named
      obtain ⟨left, dropped, same⟩ := Option.map_eq_some_iff.mp taken
      obtain ⟨rfl, rfl⟩ := Prod.mk.inj same
      obtain rfl := dropHead?_eq_some.mp dropped
      have stands : ∀ entry ∈ namedValues, ∀ char ∈ entry.1, isOutside char := by decide
      exact append (stands _ present) left
  · split at read
    · exact (outside (by decide) _).trans (readNumber read)
    · exact readNumber read

/-- Hexadecimal digits are crossed inside a string. -/
theorem digits {digits : Text} (each : ∀ char ∈ digits, ∃ value, hexDigitValue? char = some value)
    (text : Text) : Crosses .inside (digits ++ text) .inside text := by
  induction digits with
  | nil => exact refl .inside text
  | cons char digits inductionHypothesis =>
      obtain ⟨⟨value, digit⟩, later⟩ := List.forall_mem_cons.mp each
      have quote : char ≠ '"' := by
        rintro rfl
        cases digit
      have backslash : char ≠ '\\' := by
        rintro rfl
        cases digit
      exact (plain quote backslash _).trans (inductionHypothesis later)

/-- The units of a string are read from inside to behind its closing mark. -/
theorem readUnits {units : List Nat} (read : readUnits text = some (units, rest)) :
    Crosses .inside text .outside rest := by
  induction text using Json.readUnits.induct generalizing units with
  | case1 => cases read
  | case2 text =>
      rw [Json.readUnits] at read
      obtain ⟨-, rfl⟩ := Prod.mk.inj (Option.some.inj read)
      exact closing text
  | case3 first second third fourth text inductionHypothesis =>
      simp only [Json.readUnits, Option.bind_eq_bind, Option.bind_eq_some_iff, Prod.exists] at read
      obtain ⟨unit, written, others, left, found, same⟩ := read
      obtain ⟨-, rfl⟩ := Prod.mk.inj (Option.some.inj same)
      exact ((escape (by decide) _).trans (digits (values_of_unit? written) text)).trans
        (inductionHypothesis found)
  | case4 letter text notLong inductionHypothesis =>
      rw [Json.readUnits] at read
      · simp only [Option.bind_eq_bind, Option.bind_eq_some_iff, Prod.exists] at read
        obtain ⟨char, written, others, left, found, same⟩ := read
        obtain ⟨-, rfl⟩ := Prod.mk.inj (Option.some.inj same)
        have inLine : ¬ isLineBreak letter := fun ends =>
          not_isSplitter_of_unescape? written (isSplitter_of_isLineBreak ends)
        exact (escape inLine text).trans (inductionHypothesis found)
      · exact notLong
  | case5 char text quote noUnit noLetter excluded =>
      rw [Json.readUnits, if_pos excluded] at read
      · cases read
      all_goals assumption
  | case6 char text quote noUnit noLetter allowed inductionHypothesis =>
      rw [Json.readUnits, if_neg allowed] at read
      · simp only [Option.bind_eq_bind, Option.bind_eq_some_iff, Prod.exists] at read
        obtain ⟨others, left, found, same⟩ := read
        obtain ⟨-, rfl⟩ := Prod.mk.inj (Option.some.inj same)
        exact (plain quote (fun same => allowed (.inr same)) text).trans (inductionHypothesis found)
      all_goals assumption

/-- So is the string that they spell. -/
theorem readString {written : Text} (read : readString text = some (written, rest)) :
    Crosses .inside text .outside rest := by
  obtain ⟨units, found, -⟩ := readString_eq_some.mp read
  exact readUnits found

end Crosses

/-- The three readers with one amount of fuel consume what can be crossed, from the outside of
literals to the outside. -/
structure ReadsCrossed (fuel : Nat) : Prop where
  /-- A value. -/
  value : ∀ {text rest : Text} {value : Value},
    readValue fuel text = some (value, rest) → Crosses .outside text .outside rest
  /-- The items of a list. -/
  items : ∀ {text rest : Text} {items : List Value},
    readItems fuel text = some (items, rest) → Crosses .outside text .outside rest
  /-- The fields of an object. -/
  fields : ∀ {text rest : Text} {fields : List (Text × Value)},
    readFields fuel text = some (fields, rest) → Crosses .outside text .outside rest

/-- A value is crossed from outside to outside, if all with less fuel are. -/
theorem readValue_crosses {fuel : Nat} (inner : ReadsCrossed fuel) {value : Value}
    (read : readValue (fuel + 1) text = some (value, rest)) :
    Crosses .outside text .outside rest := by
  rw [readValue.eq_def] at read
  dsimp only at read
  split at read
  · obtain ⟨⟨written, after⟩, found, same⟩ := Option.map_eq_some_iff.mp read
    obtain ⟨-, rfl⟩ := Prod.mk.inj same
    exact (Crosses.opening _).trans (.readString found)
  · rename_i list
    have opened : Crosses .outside ('[' :: list) .outside (skipSpace list) :=
      (Crosses.outside (by decide) list).trans (.skipSpace list)
    split at read
    · rename_i shape
      obtain ⟨-, rfl⟩ := Prod.mk.inj (Option.some.inj read)
      rw [shape] at opened
      exact opened.trans (.outside (by decide) _)
    · obtain ⟨⟨items, after⟩, found, same⟩ := Option.map_eq_some_iff.mp read
      obtain ⟨-, rfl⟩ := Prod.mk.inj same
      exact opened.trans (inner.items found)
  · rename_i object
    have opened : Crosses .outside ('{' :: object) .outside (skipSpace object) :=
      (Crosses.outside (by decide) object).trans (.skipSpace object)
    split at read
    · rename_i shape
      obtain ⟨-, rfl⟩ := Prod.mk.inj (Option.some.inj read)
      rw [shape] at opened
      exact opened.trans (.outside (by decide) _)
    · obtain ⟨⟨fields, after⟩, found, same⟩ := Option.map_eq_some_iff.mp read
      obtain ⟨-, rfl⟩ := Prod.mk.inj same
      exact opened.trans (inner.fields found)
  · exact .readAtom read

/-- So are the items of a list. -/
theorem readItems_crosses {fuel : Nat} (inner : ReadsCrossed fuel) {items : List Value}
    (read : readItems (fuel + 1) text = some (items, rest)) :
    Crosses .outside text .outside rest := by
  simp only [readItems, Option.bind_eq_bind, Option.bind_eq_some_iff, Prod.exists] at read
  obtain ⟨item, after, found, read⟩ := read
  have next : Crosses .outside text .outside (skipSpace after) :=
    (inner.value found).trans (.skipSpace after)
  split at read
  · rename_i shape
    obtain ⟨-, rfl⟩ := Prod.mk.inj (Option.some.inj read)
    rw [shape] at next
    exact next.trans (.outside (by decide) _)
  · rename_i more shape
    rw [shape] at next
    simp only [Option.bind_eq_some_iff, Prod.exists] at read
    obtain ⟨others, last, found, read⟩ := read
    obtain ⟨-, rfl⟩ := Prod.mk.inj (Option.some.inj read)
    exact ((next.trans (.outside (by decide) more)).trans (.skipSpace more)).trans
      (inner.items found)
  · cases read

/-- How fields are read: a key, its value behind a colon, and the end or more fields behind a
comma. -/
theorem readFields_step {fuel : Nat} {fields : List (Text × Value)}
    (read : readFields (fuel + 1) text = some (fields, rest)) : ∃ written key after held value last,
      text = '"' :: written ∧ readString written = some (key, after) ∧
      skipSpace after = ':' :: held ∧ readValue fuel (skipSpace held) = some (value, last) ∧
      ((skipSpace last = '}' :: rest ∧ fields = [(key, value)]) ∨
        ∃ more others, skipSpace last = ',' :: more ∧
          readFields fuel (skipSpace more) = some (others, rest) ∧
          fields = (key, value) :: others) := by
  rw [readFields.eq_def] at read
  dsimp only at read
  split at read
  · rename_i written
    simp only [Option.bind_eq_bind, Option.bind_eq_some_iff, Prod.exists] at read
    obtain ⟨key, after, foundKey, read⟩ := read
    split at read
    · rename_i held colon
      simp only [Option.bind_eq_some_iff, Prod.exists] at read
      obtain ⟨value, last, foundValue, read⟩ := read
      refine ⟨written, key, after, held, value, last, rfl, foundKey, colon, foundValue, ?_⟩
      split at read
      · rename_i brace
        obtain ⟨rfl, rfl⟩ := Prod.mk.inj (Option.some.inj read)
        exact .inl ⟨brace, rfl⟩
      · rename_i more comma
        simp only [Option.bind_eq_some_iff, Prod.exists] at read
        obtain ⟨others, left, found, same⟩ := read
        obtain ⟨rfl, rfl⟩ := Prod.mk.inj (Option.some.inj same)
        exact .inr ⟨more, others, comma, found, rfl⟩
      · cases read
    · cases read
  · cases read

/-- What is consumed by the first of the fields, up to the mark behind it. -/
theorem crosses_first {fuel : Nat} (inner : ReadsCrossed fuel) {written key after held last : Text}
    {value : Value} (foundKey : readString written = some (key, after))
    (colon : skipSpace after = ':' :: held)
    (foundValue : readValue fuel (skipSpace held) = some (value, last)) :
    Crosses .outside ('"' :: written) .outside (skipSpace last) := by
  have toColon : Crosses .outside ('"' :: written) .outside (skipSpace after) :=
    ((Crosses.opening written).trans (.readString foundKey)).trans (.skipSpace after)
  rw [colon] at toColon
  have toValue : Crosses .outside ('"' :: written) .outside (skipSpace held) :=
    (toColon.trans (.outside (by decide) held)).trans (.skipSpace held)
  exact (toValue.trans (inner.value foundValue)).trans (.skipSpace last)

/-- So are the fields of a record. -/
theorem readFields_crosses {fuel : Nat} (inner : ReadsCrossed fuel) {fields : List (Text × Value)}
    (read : readFields (fuel + 1) text = some (fields, rest)) :
    Crosses .outside text .outside rest := by
  obtain ⟨written, key, after, held, value, last, rfl, foundKey, colon, foundValue, ends⟩ :=
    readFields_step read
  have first := crosses_first inner foundKey colon foundValue
  rcases ends with ⟨brace, -⟩ | ⟨more, others, comma, found, -⟩
  · rw [brace] at first
    exact first.trans (.outside (by decide) rest)
  · rw [comma] at first
    exact ((first.trans (.outside (by decide) more)).trans (.skipSpace more)).trans
      (inner.fields found)

/-- Every value, list and record that is read is crossed from outside to outside. -/
theorem readsCrossed (fuel : Nat) : ReadsCrossed fuel := by
  induction fuel with
  | zero =>
      refine ⟨fun read => ?_, fun read => ?_, fun read => ?_⟩
      · cases read
      · cases read
      · cases read
  | succ fuel inductionHypothesis =>
      exact ⟨readValue_crosses inductionHypothesis, readItems_crosses inductionHypothesis,
        readFields_crosses inductionHypothesis⟩

/-- A JSON text closes every literal that it opens. -/
theorem cross_of_read? {value : Value} (read : read? text = some value) :
    cross .outside text = some .outside := by
  simp only [read?, Option.bind_eq_bind, Option.bind_eq_some_iff, Prod.exists] at read
  obtain ⟨found, after, read, same⟩ := read
  have whole : Crosses .outside text .outside (skipSpace after) :=
    ((Crosses.skipSpace text).trans ((readsCrossed _).value read)).trans (.skipSpace after)
  split_ifs at same with ended
  rw [List.isEmpty_iff.mp ended] at whole
  obtain ⟨front, rfl, crossed⟩ := whole
  rw [List.append_nil]
  exact crossed

/-- White space that is crossed outside of strings is white space of the format. -/
theorem isSpace_of_cross (blank : ∀ char ∈ text, isBlank char)
    (crossed : cross .outside text = some after) : ∀ char ∈ text, isSpace char := by
  induction text with
  | nil => exact List.forall_mem_nil _
  | cons char text inductionHypothesis =>
      obtain ⟨here, later⟩ := List.forall_mem_cons.mp blank
      have quote : char ≠ '"' := by
        rintro rfl
        exact absurd here (by decide)
      rw [cross_cons] at crossed
      obtain ⟨next, step, crossed⟩ := Option.bind_eq_some_iff.mp crossed
      obtain ⟨stands, rfl⟩ := (isOutside_of_step step).resolve_left quote
      exact List.forall_mem_cons.mpr
        ⟨isSpace_of_isOutside_of_isBlank stands here, inductionHypothesis later crossed⟩

/-- No blank text is JSON. -/
theorem read?_of_isAllBlank (blank : isAllBlank text) : read? text = none := by
  cases read : read? text with
  | none => rfl
  | some value =>
      have spaces := isSpace_of_cross (List.all_eq_true.mp blank) (cross_of_read? read)
      have empty : skipSpace text = [] := List.dropWhile_eq_nil_iff.mpr spaces
      unfold read? at read
      rw [empty] at read
      cases read

/-- A blank text opens no level. -/
theorem depth_of_isAllBlank (blank : isAllBlank text) : depth text = 0 := by
  unfold depth
  cases left : skipSpace text with
  | nil => rfl
  | cons char rest =>
      have suffix : char :: rest <:+ text := left ▸ List.dropWhile_suffix isSpace
      have white : isBlank char := List.all_eq_true.mp blank char (suffix.subset List.mem_cons_self)
      rw [valueDepth]
      · rintro _ same
        obtain ⟨rfl, -⟩ := List.cons.inj same
        exact absurd white (by decide)
      · rintro _ same
        obtain ⟨rfl, -⟩ := List.cons.inj same
        exact absurd white (by decide)

/-! ## Nesting -/

/-- Every bracket that is opened is a level. -/
theorem le_valueDepth_brackets {fuel levels : Nat} (enough : 2 * levels ≤ fuel) :
    levels ≤ valueDepth fuel (List.replicate levels '[') := by
  induction levels generalizing fuel with
  | zero => exact Nat.zero_le _
  | succ levels inductionHypothesis =>
      obtain ⟨fuel, rfl⟩ : ∃ more, fuel = more + 2 := ⟨fuel - 2, by omega⟩
      have inner := inductionHypothesis (show 2 * levels ≤ fuel by omega)
      rw [List.replicate_succ, valueDepth]
      cases levels with
      | zero => exact Nat.le_add_left 1 _
      | succ levels =>
          have opened : skipSpace (List.replicate (levels + 1) '[') =
              List.replicate (levels + 1) '[' :=
            skipSpace_of_not_space (by decide) _
          rw [opened]
          change levels + 1 + 1 ≤ itemsDepth (fuel + 1) (List.replicate (levels + 1) '[') + 1
          rw [itemsDepth]
          omega

/-- Brackets that are opened one in the other are as deep as they are many. -/
theorem le_depth_brackets (levels : Nat) : levels ≤ depth (List.replicate levels '[') := by
  have opened : skipSpace (List.replicate levels '[') = List.replicate levels '[' := by
    cases levels with
    | zero => rfl
    | succ levels => exact skipSpace_of_not_space (by decide) _
  rw [depth, opened]
  exact le_valueDepth_brackets (by simp)

/-- A text that is nested too deep is not loaded, whatever it holds. -/
theorem load_of_deep {nesting : Nat} (deep : nesting < depth text) :
    load text nesting = .error .outOfRange :=
  if_pos deep

/-- Any other text is loaded as it is read. -/
theorem load_of_shallow {nesting : Nat} (shallow : depth text ≤ nesting) : load text nesting =
    match read? text with
    | some value => .ok value
    | none => .error (if escapesHalf text then .notUtf8 else .notJson) :=
  if_neg (by omega)

/-! ## Pieces of a torn text -/

/-- A text that can be crossed from the inside and from the outside of literals holds nothing but
quotes and what can stand outside. -/
theorem isOutside_of_cross (crossed : cross .inside text = some after)
    (reversed : cross .outside text = some last) :
    ∀ char ∈ text, char = '"' ∨ isOutside char := by
  induction text generalizing after last with
  | nil => exact List.forall_mem_nil _
  | cons char text inductionHypothesis =>
      rw [cross_cons] at crossed reversed
      obtain ⟨next, step, reversed⟩ := Option.bind_eq_some_iff.mp reversed
      rcases isOutside_of_step step with rfl | ⟨stands, rfl⟩
      · obtain rfl := Option.some.inj step
        exact List.forall_mem_cons.mpr ⟨.inl rfl, inductionHypothesis reversed crossed⟩
      · rw [step_inside (ne_quote_of_isOutside stands)
          (ne_backslash_of_isOutside stands)] at crossed
        exact List.forall_mem_cons.mpr ⟨.inr stands, inductionHypothesis crossed reversed⟩

/-- What remains of a text has no characters of its own. -/
theorem Crosses.subset (crosses : Crosses before text after rest) : rest ⊆ text := by
  obtain ⟨front, rfl, -⟩ := crosses
  exact List.subset_append_right front rest

/-- Without a backslash, the units of a string are the numbers of its characters. -/
theorem units_of_bare {units : List Nat} (bare : '\\' ∉ text)
    (read : readUnits text = some (units, rest)) :
    ∃ front, front ⊆ text ∧ units = front.map Char.toNat := by
  induction text generalizing units with
  | nil => cases read
  | cons char text inductionHypothesis =>
      have parts : '\\' ≠ char ∧ '\\' ∉ text := by
        simpa using bare
      by_cases quote : char = '"'
      · subst quote
        rw [readUnits] at read
        obtain ⟨rfl, -⟩ := Prod.mk.inj (Option.some.inj read)
        exact ⟨[], List.nil_subset _, rfl⟩
      · by_cases control : char.val < 32
        · rw [readUnits_control quote (Ne.symm parts.1) control] at read
          cases read
        · rw [readUnits_plain quote (Ne.symm parts.1) control] at read
          obtain ⟨⟨others, left⟩, found, same⟩ := Option.map_eq_some_iff.mp read
          obtain ⟨rfl, rfl⟩ := Prod.mk.inj same
          obtain ⟨front, within, rfl⟩ := inductionHypothesis parts.2 found
          exact ⟨char :: front, List.cons_subset_cons char within, rfl⟩

/-- Without escapes, a literal stands for characters in it. -/
theorem subset_of_readString {written : Text} (bare : '\\' ∉ text)
    (read : readString text = some (written, rest)) : written ⊆ text := by
  obtain ⟨units, found, joined⟩ := readString_eq_some.mp read
  obtain ⟨front, within, rfl⟩ := units_of_bare bare found
  rw [joinUnits?_map] at joined
  exact Option.some.inj joined ▸ within

/-- Without escapes, the names of fields are written as they are. -/
theorem subset_of_readFields {fuel : Nat} {fields : List (Text × Value)} (bare : '\\' ∉ text)
    (read : readFields fuel text = some (fields, rest)) : ∀ field ∈ fields, field.1 ⊆ text := by
  induction fuel generalizing text fields with
  | zero => cases read
  | succ fuel inductionHypothesis =>
      obtain ⟨written, key, left, held, value, last, rfl, foundKey, colon, foundValue, ends⟩ :=
        readFields_step read
      have here : key ⊆ '"' :: written :=
        List.subset_cons_of_subset _
          (subset_of_readString (fun escape => bare (List.mem_cons_of_mem _ escape)) foundKey)
      rcases ends with ⟨-, rfl⟩ | ⟨more, others, comma, found, rfl⟩
      · exact List.forall_mem_singleton.mpr here
      · have first := crosses_first (readsCrossed fuel) foundKey colon foundValue
        rw [comma] at first
        have within : skipSpace more ⊆ '"' :: written :=
          ((first.trans (.outside (by decide) more)).trans (.skipSpace more)).subset
        refine List.forall_mem_cons.mpr ⟨here, fun field listed => ?_⟩
        exact List.Subset.trans
          (inductionHypothesis (fun escape => bare (within escape)) found field listed) within

/-- A number is no record. -/
theorem readNumber_ne_record {negative : Bool} {fields : Entries Value} :
    readNumber negative text ≠ some (.record fields, rest) := by
  intro read
  simp only [readNumber, Option.bind_eq_bind, Option.bind_eq_some_iff, Prod.exists] at read
  obtain ⟨whole, left, -, read⟩ := read
  split_ifs at read <;> cases read

/-- Neither is a fixed name. -/
theorem readAtom_ne_record {fields : Entries Value} :
    readAtom text ≠ some (.record fields, rest) := by
  intro read
  unfold readAtom at read
  split at read
  · rename_i found named
    obtain rfl := Option.some.inj read
    obtain ⟨⟨name, known⟩, present, taken⟩ := List.exists_of_findSome?_eq_some named
    obtain ⟨left, -, same⟩ := Option.map_eq_some_iff.mp taken
    obtain ⟨rfl, -⟩ := Prod.mk.inj same
    simp [namedValues] at present
  · split at read <;> exact readNumber_ne_record read

/-- Without escapes, the names in an object are written as they are. -/
theorem subset_of_read? {fields : Entries Value} (bare : '\\' ∉ text)
    (read : read? text = some (.record fields)) : ∀ field ∈ fields, field.1 ⊆ text := by
  simp only [read?, Option.bind_eq_bind, Option.bind_eq_some_iff, Prod.exists] at read
  obtain ⟨value, left, read, same⟩ := read
  split_ifs at same
  obtain rfl := Option.some.inj same
  rw [readValue.eq_def] at read
  dsimp only at read
  split at read
  · obtain ⟨_, -, same⟩ := Option.map_eq_some_iff.mp read
    cases same
  · split at read
    · cases read
    · obtain ⟨_, -, same⟩ := Option.map_eq_some_iff.mp read
      cases same
  · rename_i object shape
    have within : skipSpace object ⊆ text := by
      have opened := Crosses.skipSpace text
      rw [shape] at opened
      exact ((opened.trans (.outside (by decide) object)).trans (.skipSpace object)).subset
    split at read
    · obtain ⟨same, -⟩ := Prod.mk.inj (Option.some.inj read)
      obtain rfl := Value.record.inj same
      exact List.forall_mem_nil _
    · obtain ⟨⟨written, rest⟩, found, same⟩ := Option.map_eq_some_iff.mp read
      obtain ⟨same, -⟩ := Prod.mk.inj same
      obtain rfl := Value.record.inj same
      intro field listed
      have names := subset_of_readFields (fun escape => bare (within escape)) found field
        (Entries.mem_of_mem_ofList listed)
      exact List.Subset.trans names within
  · exact absurd read readAtom_ne_record

/-- A text whose lines are torn is no object with a field whose name cannot stand outside. -/
theorem absent_of_torn {line piece : Text} {value : Value} (read : read? line = some value)
    (noFeed : '\n' ∉ line) (noReturn : '\r' ∉ line) (torn : ¬ IsSingleLine line)
    (present : piece ∈ lines line) {fields : Entries Value}
    (readPiece : read? piece = some (.record fields)) {name : Text}
    (usual : ∃ char ∈ name, char ≠ '"' ∧ ¬ isOutside char) : fields.get? name = none := by
  have closed : cross .outside piece = some .outside := cross_of_read? readPiece
  obtain ⟨first, more, pieces, opened, others⟩ :=
    (isSingleLine_or_isTorn (cross_of_read? read) noFeed noReturn).resolve_left torn
  rw [pieces] at present
  rcases List.mem_cons.mp present with rfl | later
  · rw [opened] at closed
    cases closed
  · obtain ⟨last, crossed⟩ := Option.isSome_iff_exists.mp (others piece later)
    have each := isOutside_of_cross crossed closed
    have bare : '\\' ∉ piece := by
      intro escape
      rcases each _ escape with quote | stands
      · cases quote
      · exact ne_backslash_of_isOutside stands rfl
    cases found : fields.get? name with
    | none => rfl
    | some value =>
        obtain ⟨char, inName, notQuote, notOutside⟩ := usual
        have inPiece := subset_of_read? bare readPiece _ (Entries.mem_of_get? found) inName
        exact absurd (each char inPiece) (not_or.mpr ⟨notQuote, notOutside⟩)

end Issuebook.Json
