import Issuebook.Proofs.Document.Metadata
import Issuebook.Proofs.Document.Pieces
import Issuebook.Proofs.Json.Numbers

/-!
# Two spellings of a list

The items of a list stand on lines of their own, or between brackets on the line of the key. An item
is a word or a text between quotes (`Scalar.Spells`), and by itself it is read as the value that it
is written for. The items between brackets are taken for JSON where every one of them is, and it is
the same value there; otherwise they are cut at every comma, inside quotes as well. So both
spellings of a list are read alike exactly when all items are JSON or none holds a comma
(`Metadata.read_bracketLine_iff`).
-/

namespace Issuebook

namespace Scalar

open Text Json

variable {text : Text} {value : Value} {other : Text → Value}

/-- No word for nothing, true or false begins with a digit. -/
theorem not_mem_words (front : (takeSign text).2.head?.any Char.isDigit) :
    text ∉ nullWords ∧ text ∉ trueWords ∧ text ∉ falseWords := by
  have words : ∀ word ∈ nullWords ++ trueWords ++ falseWords,
      (takeSign word).2.head?.any Char.isDigit = false := by
    decide
  have other : text ∉ nullWords ++ trueWords ++ falseWords := fun listed => by
    rw [words text listed] at front
    cases front
  simpa only [List.mem_append, not_or, and_assoc] using other

/-- What is read as a whole number is that number. -/
theorem readBy_of_int? {number : Int} (front : (takeSign text).2.head?.any Char.isDigit)
    (int : int? text = some number) : readBy other text = .int number := by
  obtain ⟨notNull, notTrue, notFalse⟩ := not_mem_words front
  rw [← List.contains_iff_mem] at notNull notTrue notFalse
  rw [readBy, if_neg notNull, if_neg notTrue, if_neg notFalse, int]

/-- What is read as another number is that one. -/
theorem readBy_of_float? {number : Binary64} (front : (takeSign text).2.head?.any Char.isDigit)
    (noInt : int? text = none) (float : float? text = some number) :
    readBy other text = .float number := by
  obtain ⟨notNull, notTrue, notFalse⟩ := not_mem_words front
  rw [← List.contains_iff_mem] at notNull notTrue notFalse
  rw [readBy, if_neg notNull, if_neg notTrue, if_neg notFalse, noInt, float]

/-- The names that JSON has for numbers beyond the standard. -/
def numberNames : List Text :=
  ["NaN", "Infinity", "-Infinity"]

/-- A word that the reader of numbers takes is that number. -/
theorem readBy_of_readNumber {negative : Bool} {unsigned : Text} (word : IsWord text)
    (sign : takeSign text = (negative, unsigned)) (pointless : '.' ∉ unsigned)
    (number : readNumber negative unsigned = some (value, [])) : readBy other text = value := by
  obtain ⟨whole, after, rfl, present, digits, parts⟩ := readNumber_to_end number pointless
  have front : (takeSign text).2.head?.any Char.isDigit := by
    obtain ⟨first, whole, rfl⟩ := List.exists_cons_of_ne_nil present
    rw [sign]
    exact digits first List.mem_cons_self
  rcases parts with ⟨rfl, rfl⟩ | ⟨mark, more, power, rfl, isMark, exponent, rfl⟩
  · refine readBy_of_int? front ?_
    simp only [int?, sign, List.append_nil, decimalNumber?_of_digits present digits]
    rfl
  · have noDigit : digitValue? mark = none ∧ mark.isDigit = false ∧ mark ≠ '.' := by
      rcases isMark with rfl | rfl <;> decide
    refine readBy_of_float? front ?_ ?_
    · have noNumber : decimalNumber? (whole ++ mark :: more) = none :=
        decimalNumber?_eq_none (List.mem_append_right _ List.mem_cons_self) noDigit.1
      simp only [int?, sign, noNumber]
      rfl
    · have stops : ∀ char ∈ (mark :: more).head?, char.isDigit = false ∧ char ≠ '.' := by
        rintro _ ⟨⟩
        exact noDigit.2
      simp only [float?, withPlainDigits_of_isWord word, sign,
        Binary64.ofDigits?_of_pointless present digits stops, exponent, Option.map_some]

/-- A word that is JSON is the same value as a scalar, unless it names a number. -/
theorem read_of_isWord (word : IsWord text) (plain : text ∉ numberNames)
    (json : Json.read? text = some value) : read text = value := by
  rw [read?_of_isWord word] at json
  obtain ⟨⟨found, after⟩, atom, whole⟩ := Option.bind_eq_some_iff.mp json
  dsimp only at whole
  split_ifs at whole with ended
  obtain rfl := Option.some.inj whole
  obtain rfl := List.isEmpty_iff.mp ended
  cases named : readNamed text with
  | some read =>
      obtain rfl : read = (found, []) := by
        simp only [readAtom, named] at atom
        exact Option.some.inj atom
      obtain ⟨⟨name, value⟩, listed, same⟩ := List.exists_of_findSome?_eq_some named
      obtain ⟨rest, dropped, same⟩ := Option.map_eq_some_iff.mp same
      obtain ⟨rfl, rfl⟩ := Prod.mk.inj same
      obtain rfl : text = name := (dropHead?_eq_some.mp dropped).trans (List.append_nil name)
      simp only [namedValues, List.mem_cons, Prod.mk.injEq, List.not_mem_nil, or_false] at listed
      rcases listed with ⟨rfl, rfl⟩ | ⟨rfl, rfl⟩ | ⟨rfl, rfl⟩ | ⟨rfl, rfl⟩ | ⟨rfl, rfl⟩ | ⟨rfl, rfl⟩
      · rfl
      · rfl
      · rfl
      all_goals exact absurd (by decide) plain
  | none =>
      have pointless : '.' ∉ text := not_mem_of_parts word.2 (by decide)
      obtain ⟨first, more, rfl⟩ := List.exists_cons_of_ne_nil word.1
      rw [readAtom_of_unnamed named] at atom
      rw [read, List.length_cons, readWithin_succ]
      split_ifs at atom with minus
      · subst minus
        have pointless : '.' ∉ more := fun point => pointless (List.mem_cons_of_mem _ point)
        exact readBy_of_readNumber word rfl pointless atom
      · have unsigned : takeSign (first :: more) = (false, first :: more) := by
          rw [takeSign]
          · exact fun _ same => absurd (List.cons.inj same).1 minus
          · rintro _ ⟨rfl, rfl⟩
            exact absurd (word.2 '+' List.mem_cons_self) (by decide)
        exact readBy_of_readNumber word unsigned pointless atom

/-! ## Quotes -/

/-- A text between single quotes, its own quotes doubled. -/
def singleQuote (text : Text) : Text :=
  '\'' :: (replaceAll ['\''] ['\'', '\''] text ++ ['\''])

/-- Quotes that were doubled are single again. -/
theorem undouble_double (text : Text) :
    replaceAll ['\'', '\''] ['\''] (replaceAll ['\''] ['\'', '\''] text) = text := by
  have rest (text : Text) :
      replaceFrom ['\'', '\''] ['\''] 0 (replaceFrom ['\''] ['\'', '\''] 0 text) = text := by
    induction text with
    | nil => rfl
    | cons char text inductionHypothesis =>
        by_cases quote : char = '\''
        · subst quote
          have doubled : replaceFrom ['\''] ['\'', '\''] 0 ('\'' :: text) =
              '\'' :: '\'' :: replaceFrom ['\''] ['\'', '\''] 0 text := by
            simp [replaceFrom, dropHead?]
          rw [doubled]
          simp [replaceFrom, dropHead?, inductionHypothesis]
        · have kept : replaceFrom ['\''] ['\'', '\''] 0 (char :: text) =
              char :: replaceFrom ['\''] ['\'', '\''] 0 text := by
            simp [replaceFrom, dropHead?, Ne.symm quote]
          rw [kept]
          simp [replaceFrom, dropHead?, Ne.symm quote, inductionHypothesis]
  exact rest text

/-- Single quotation marks quote nothing. -/
theorem read_singleQuote (text : Text) : read (singleQuote text) = .text text := by
  have words : singleQuote text ∉ nullWords ∧ singleQuote text ∉ trueWords ∧
      singleQuote text ∉ falseWords := by
    simp [singleQuote, nullWords, trueWords, falseWords]
  have quoted : isBetween '\'' (singleQuote text) := by
    simp [isBetween, singleQuote, List.getLast?_cons, List.getLast?_append]
  have otherwise : ¬ isBetween '"' (singleQuote text) := by
    simp [isBetween, singleQuote]
  have value := read_of_startsNoNumber (by decide : StartsNoNumber '\'') words.1 words.2.1 words.2.2
  rw [← singleQuote, if_neg otherwise, if_pos quoted] at value
  rw [value, singleQuoted, inner, singleQuote, List.tail_cons, List.dropLast_concat,
    undouble_double]

/-- A quoted text is read as the text. -/
theorem read_of_readString {written text : Text}
    (literal : Json.readString written = some (text, [])) : read ('"' :: written) = .text text := by
  obtain ⟨front, shape, -⟩ := Json.exists_of_readString literal
  have words : '"' :: written ∉ nullWords ∧ '"' :: written ∉ trueWords ∧
      '"' :: written ∉ falseWords := by
    simp [nullWords, trueWords, falseWords]
  have quoted : isBetween '"' ('"' :: written) := by
    simp [isBetween, shape, List.getLast?_cons, List.getLast?_append]
  have value := read_of_startsNoNumber (by decide : StartsNoNumber '"') words.1 words.2.1 words.2.2
  rw [if_pos quoted, doubleQuoted, Json.read?_of_readString literal] at value
  exact value

/-! ## Spellings -/

/-- How an item can be written, and the value that it is written for. -/
inductive Spells : Text → Value → Prop where
  /-- A word, for what it is as a scalar. -/
  | word {text : Text} (word : IsWord text) (plain : text ∉ numberNames) : Spells text (read text)
  /-- A text between single quotes. -/
  | single (content : Text) : Spells (singleQuote content) (.text content)
  /-- A text between double quotes, in any of the ways that JSON has to write it. -/
  | double {written content : Text} (literal : Json.readString written = some (content, [])) :
      Spells ('"' :: written) (.text content)

namespace Spells

variable {item : Text}

/-- An item is read as the value that it spells. -/
theorem read_eq (spells : Spells item value) : read item = value := by
  cases spells with
  | word => rfl
  | single content => exact read_singleQuote content
  | double literal => exact read_of_readString literal

/-- An item that is JSON is so for the same value. -/
theorem read?_eq (spells : Spells item value) (json : IsJson item) :
    Json.read? item = some value := by
  cases spells with
  | word word plain =>
      obtain ⟨found, json⟩ := Option.isSome_iff_exists.mp json
      rw [json, read_of_isWord word plain json]
  | single content =>
      rw [IsJson, singleQuote, read?_singleQuote] at json
      cases json
  | double literal => exact read?_of_readString literal

/-- It is an item of a list. -/
theorem isListItem (spells : Spells item value) : IsListItem item := by
  cases spells with
  | word word => exact isListItem_of_isWord word
  | single => exact isListItem_singleQuote _
  | double literal => exact isListItem_of_readString literal

/-- An item is a word, or it stands between two quotes of one kind. -/
theorem shape (spells : Spells item value) : IsWord item ∨
    ∃ quote middle, (quote = '\'' ∨ quote = '"') ∧ item = quote :: (middle ++ [quote]) := by
  cases spells with
  | word word => exact .inl word
  | single => exact .inr ⟨'\'', _, .inl rfl, rfl⟩
  | double literal =>
      obtain ⟨front, rfl, -⟩ := exists_of_readString literal
      exact .inr ⟨'"', front, .inr rfl, rfl⟩

/-- It has no white space at its ends. -/
theorem isClean (spells : Spells item value) : Text.IsClean item := by
  rcases spells.shape with word | ⟨quote, middle, isQuote, rfl⟩
  · exact ⟨trim_of_solid fun char part => not_isBlank_of_isWordPart (word.2 char part), word.1⟩
  · have solid : ¬ isBlank quote := by
      rcases isQuote with rfl | rfl <;> decide
    exact ⟨trim_between solid solid middle, List.cons_ne_nil _ _⟩

/-- It stands in no brackets. -/
theorem isBracketed_eq (spells : Spells item value) : isBracketed item = false := by
  have other : item.head? ≠ some '[' := by
    rcases spells.shape with ⟨-, parts⟩ | ⟨quote, middle, rfl | rfl, rfl⟩
    · exact fun first => not_mem_of_parts parts (by decide : isWordPart '[' = false)
        (List.mem_of_head? first)
    · simp
    · simp
  simp [isBracketed, other]

/-- A comma can only stand between quotes, and each of them is left in a piece of its own. -/
theorem two_le_length_pieces (spells : Spells item value) (comma : ',' ∈ item) :
    2 ≤ (pieces item).length := by
  rcases spells.shape with ⟨-, parts⟩ | ⟨quote, middle, isQuote, rfl⟩
  · exact absurd comma (not_mem_of_parts parts (by decide))
  · have mark : ¬ isBlank quote ∧ quote ≠ ',' := by
      rcases isQuote with rfl | rfl <;> decide
    have inside : ',' ∈ middle := by
      simpa [Ne.symm mark.2] using comma
    obtain ⟨before, after, rfl⟩ := List.append_of_mem inside
    have whole : quote :: (before ++ ',' :: after ++ [quote]) =
        (quote :: before) ++ ',' :: (after ++ [quote]) := by
      simp
    have front : pieces (quote :: before) ≠ [] :=
      pieces_ne_nil List.mem_cons_self mark.1 mark.2
    have back : pieces (after ++ [quote]) ≠ [] :=
      pieces_ne_nil (List.mem_append_right _ (List.mem_singleton_self quote)) mark.1 mark.2
    rw [whole, pieces_append, List.length_append]
    have := List.length_pos_iff.mpr front
    have := List.length_pos_iff.mpr back
    omega

/-- It has a piece. -/
theorem length_pieces_pos (spells : Spells item value) : 1 ≤ (pieces item).length := by
  by_cases comma : ',' ∈ item
  · exact (two_le_length_pieces spells comma).trans' (by decide)
  · rw [pieces_of_isClean spells.isClean comma]
    exact Nat.le_refl 1

end Spells

/-! ## Lists of items -/

variable {items : List Text} {values : List Value}

/-- Every item of a row that is spelled spells something. -/
theorem exists_spells_of_mem (spelled : items.Forall₂ Spells values) :
    ∀ item ∈ items, ∃ value, Spells item value := by
  induction spelled with
  | nil => exact fun _ listed => absurd listed List.not_mem_nil
  | cons here later inductionHypothesis =>
      exact List.forall_mem_cons.mpr ⟨⟨_, here⟩, inductionHypothesis⟩

/-- As JSON all items are read, or none is. -/
theorem mapM_read?_of_spells (spelled : items.Forall₂ Spells values) :
    items.mapM Json.read? =
      if ∀ item ∈ items, IsJson item then some values else none := by
  induction spelled with
  | nil => rfl
  | @cons item value items values here later inductionHypothesis =>
      rw [List.mapM_cons, inductionHypothesis]
      by_cases json : IsJson item
      · rw [here.read?_eq json]
        by_cases rest : ∀ item ∈ items, IsJson item
        · rw [if_pos rest, if_pos (List.forall_mem_cons.mpr ⟨json, rest⟩)]
          rfl
        · rw [if_neg rest, if_neg fun all => rest (List.forall_mem_cons.mp all).2]
          rfl
      · rw [Option.not_isSome_iff_eq_none.mp json,
          if_neg fun all => json (List.forall_mem_cons.mp all).1]
        rfl

/-- Every item has a piece of its own, and no other item of a list of the same length as all pieces
has a comma. -/
theorem not_mem_of_length_flatMap_pieces (spelled : items.Forall₂ Spells values) :
    items.length ≤ (items.flatMap pieces).length ∧
      ((items.flatMap pieces).length = items.length → ∀ item ∈ items, ',' ∉ item) := by
  induction spelled with
  | nil => exact ⟨Nat.le_refl 0, fun _ _ listed => absurd listed List.not_mem_nil⟩
  | @cons item value items values here later inductionHypothesis =>
      obtain ⟨bound, plain⟩ := inductionHypothesis
      have own := here.length_pieces_pos
      rw [List.flatMap_cons, List.length_append, List.length_cons]
      refine ⟨by omega, fun same => List.forall_mem_cons.mpr ⟨fun comma => ?_, plain (by omega)⟩⟩
      have two := here.two_le_length_pieces comma
      omega

/-- Outside brackets the depth makes no difference. -/
theorem readWithin_of_not_isBracketed (plain : isBracketed text = false) (depth : Nat) :
    readWithin depth text = read text := by
  have same (first second : Text → Value) : readBy first text = readBy second text := by
    simp only [readBy, plain, Bool.false_eq_true, if_false]
  rw [read]
  cases depth <;> cases text.length <;> exact same _ _

/-- A row of items is read as the values that they spell. -/
theorem map_read_of_spells (spelled : items.Forall₂ Spells values) : items.map read = values := by
  induction spelled with
  | nil => rfl
  | cons here later inductionHypothesis => rw [List.map_cons, here.read_eq, inductionHypothesis]

/-- Without brackets the depth makes no difference. -/
theorem map_readWithin (plain : ∀ item ∈ items, isBracketed item = false) (depth : Nat) :
    items.map (readWithin depth) = items.map read :=
  List.map_congr_left fun item listed => readWithin_of_not_isBracketed (plain item listed) depth

/-- Between brackets items are read as JSON, or else as the scalars between all commas. -/
theorem read_brackets (present : items ≠ []) (spelled : items.Forall₂ Spells values) :
    read ('[' :: (join ", " items ++ [']'])) = .list
      (if ∀ item ∈ items, IsJson item then values
      else (items.flatMap pieces).map (readWithin (join ", " items ++ [']']).length)) := by
  have listed : ∀ item ∈ items, IsListItem item := fun item place => by
    obtain ⟨value, spells⟩ := exists_spells_of_mem spelled item place
    exact spells.isListItem
  have json := read?_items present listed
  rw [mapM_read?_of_spells spelled] at json
  have cut : pieces (inner ('[' :: (join ", " items ++ [']']))) = items.flatMap pieces := by
    rw [inner, List.tail_cons, List.dropLast_concat]
    exact pieces_join [' '] (by decide) items
  have words : '[' :: (join ", " items ++ [']']) ∉ nullWords ∧
      '[' :: (join ", " items ++ [']']) ∉ trueWords ∧
      '[' :: (join ", " items ++ [']']) ∉ falseWords := by
    simp [nullWords, trueWords, falseWords]
  have bracketed : isBracketed ('[' :: (join ", " items ++ [']'])) := by
    simp [isBracketed, List.getLast?_cons, List.getLast?_append]
  have unquoted (quote : Char) (other : quote ≠ '[') :
      ¬ isBetween quote ('[' :: (join ", " items ++ [']'])) := by
    simp [isBetween, Ne.symm other]
  have value := read_of_startsNoNumber (by decide : StartsNoNumber '[') words.1 words.2.1 words.2.2
  rw [if_neg (unquoted '"' (by decide)), if_neg (unquoted '\'' (by decide)), if_pos bracketed,
    jsonItems?, json, cut] at value
  rw [value]
  split_ifs <;> rfl

/-- Between brackets the items are read as they are written for exactly where all are JSON, or none
holds a comma. -/
theorem read_brackets_iff (present : items ≠ []) (spelled : items.Forall₂ Spells values) :
    read ('[' :: (join ", " items ++ [']'])) = .list values ↔
      (∀ item ∈ items, IsJson item) ∨ ∀ item ∈ items, ',' ∉ item := by
  rw [read_brackets present spelled, Value.list.injEq]
  by_cases json : ∀ item ∈ items, IsJson item
  · exact iff_of_true (if_pos json) (.inl json)
  · rw [if_neg json, or_iff_right json]
    constructor
    · intro same
      have length : (items.flatMap pieces).length = items.length := by
        rw [← List.length_map, same, spelled.length_eq]
      exact (not_mem_of_length_flatMap_pieces spelled).2 length
    · intro plain
      have clean : ∀ item ∈ items, Text.IsClean item := fun item place => by
        obtain ⟨value, spells⟩ := exists_spells_of_mem spelled item place
        exact spells.isClean
      have open_ : ∀ item ∈ items, isBracketed item = false := fun item place => by
        obtain ⟨value, spells⟩ := exists_spells_of_mem spelled item place
        exact spells.isBracketed_eq
      rw [flatMap_pieces_of_plain clean plain, map_readWithin open_, map_read_of_spells spelled]

end Scalar

namespace Metadata

open Text

variable {key : Text} {items : List Text} {values : List Value}

/-- The line of a list between brackets. -/
def bracketLine (key : Text) (items : List Text) : Text :=
  key ++ ':' :: ' ' :: '[' :: (join ", " items ++ [']'])

/-- The line of an item. -/
def itemLine (item : Text) : Text :=
  ' ' :: ' ' :: '-' :: ' ' :: item

/-- The lines of a list with an item on each line behind the first. -/
def itemLines (key : Text) (items : List Text) : List Text :=
  (key ++ [':']) :: items.map itemLine

/-- A list between brackets is read as its scalar. -/
theorem read_bracketLine (name : CanName key) (items : List Text) :
    read [bracketLine key items] = [(key, Scalar.read ('[' :: (join ", " items ++ [']'])))] := by
  have writable := isWritable_between (by decide : ¬ isBlank '[') (by decide : ¬ isBlank ']')
    (by decide) (join ", " items)
  have opens := canOpen_of_canName name (' ' :: '[' :: (join ", " items ++ [']']))
  have found := keyValue?_of_canName name (' ' :: '[' :: (join ", " items ++ [']']))
  rw [trim_cons_of_blank (by decide), writable.clean.1] at found
  rw [read, bracketLine, pairs_of_entry opens found]
  simp [entryValue, linesTaken, pairs]
  rfl

/-- The line of a clean item is an item, and white space is all that stands around it. -/
theorem trim_itemLine {item : Text} (clean : Text.IsClean item) :
    trim (itemLine item) = '-' :: ' ' :: item := by
  rw [itemLine, trim_cons_of_blank (by decide), trim_cons_of_blank (by decide),
    trim_cons_of_not_blank (by decide)]
  have rest : trimEnd ([' '] ++ item) = [' '] ++ item := by
    rw [trimEnd_append_of_not_isAllBlank [' '] clean.solid, trimEnd_of_isClean clean]
  exact congrArg ('-' :: ·) rest

/-- The line of an item is known as one. -/
theorem isItem_itemLine {item : Text} (clean : Text.IsClean item) : isItem (itemLine item) := by
  rw [isItem, trim_itemLine clean]
  rfl

/-- All lines of items are taken. -/
theorem takeWhile_isItem (clean : ∀ item ∈ items, Text.IsClean item) :
    (items.map itemLine).takeWhile isItem = items.map itemLine := by
  rw [List.takeWhile_eq_self_iff]
  exact List.forall_mem_map.mpr fun item listed => isItem_itemLine (clean item listed)

/-- They are read as their items. -/
theorem itemValues_itemLines (clean : ∀ item ∈ items, Text.IsClean item) :
    itemValues (items.map itemLine) = items.map Scalar.read := by
  rw [itemValues, takeWhile_isItem clean, List.map_map]
  refine List.map_congr_left fun item listed => ?_
  simp only [Function.comp_apply, trim_itemLine (clean item listed), List.tail_cons,
    trim_cons_of_blank (by decide : isBlank ' '), (clean item listed).1]

/-- A list on lines of its own is read as the values that its items spell. -/
theorem read_itemLines (name : CanName key) (present : items ≠ [])
    (spelled : items.Forall₂ Scalar.Spells values) :
    read (itemLines key items) = [(key, .list values)] := by
  have clean : ∀ item ∈ items, Text.IsClean item := fun item place => by
    obtain ⟨value, spells⟩ := Scalar.exists_spells_of_mem spelled item place
    exact spells.isClean
  have opens := canOpen_of_canName name []
  have found := keyValue?_of_canName name []
  have taken : linesTaken [] (items.map itemLine) = items.map itemLine := takeWhile_isItem clean
  have held : entryValue [] (items.map itemLine) = .list values := by
    have read := (itemValues_itemLines clean).trans (Scalar.map_read_of_spells spelled)
    cases spelled with
    | nil => exact absurd rfl present
    | cons =>
        rw [entryValue, if_neg (by decide), if_pos List.isEmpty_nil, read]
  rw [read, itemLines, pairs_of_entry opens found, trim_nil, taken, held, List.drop_length]
  rfl

/-- A list with an item on each line is read as it is written for, and a list between brackets is
read like it exactly where all items are JSON, or none holds a comma. -/
theorem read_bracketLine_iff (name : CanName key) (present : items ≠ [])
    (spelled : items.Forall₂ Scalar.Spells values) :
    read (itemLines key items) = [(key, .list values)] ∧
      (read [bracketLine key items] = read (itemLines key items) ↔
        (∀ item ∈ items, Json.IsJson item) ∨ ∀ item ∈ items, ',' ∉ item) := by
  have lines := read_itemLines name present spelled
  refine ⟨lines, ?_⟩
  rw [lines, read_bracketLine name, ← Scalar.read_brackets_iff present spelled]
  simp

/-- Words and quotes of both kinds without a comma. -/
theorem quotedLabels_agree :
    let key : Text := "labels"
    let items : List Text := ["auth", "'it''s'", "\"a [b]\"", "007"]
    let values : List Value := [.text "auth", .text "it's", .text "a [b]", .int 7]
    CanName key ∧ items ≠ [] ∧ items.Forall₂ Scalar.Spells values ∧
      read [bracketLine key items] = read (itemLines key items) ∧
      read (itemLines key items) = [(key, .list values)] := by
  intro key items values
  have name : CanName key := by decide
  have spelled : items.Forall₂ Scalar.Spells values :=
    .cons (.word (by decide) (by decide)) (.cons (.single "it's")
      (.cons (.double (by rfl)) (.cons (.word (by decide) (by decide)) .nil)))
  obtain ⟨lines, agrees⟩ := read_bracketLine_iff name (List.cons_ne_nil _ _) spelled
  exact ⟨name, List.cons_ne_nil _ _, spelled, agrees.mpr (.inr (by decide)), lines⟩

/-- A comma between single quotes cuts the item between brackets, and not on a line of its own. -/
theorem quotedComma_disagrees :
    let key : Text := "labels"
    let items : List Text := ["auth", "'needs, review'"]
    let values : List Value := [.text "auth", .text "needs, review"]
    items.Forall₂ Scalar.Spells values ∧
      read (itemLines key items) = [(key, .list values)] ∧
      read [bracketLine key items] =
        [(key, .list [.text "auth", .text "'needs", .text "review'"])] ∧
      read [bracketLine key items] ≠ read (itemLines key items) := by
  intro key items values
  have lines : read (itemLines key items) = [(key, .list values)] := by rfl
  have spelled : items.Forall₂ Scalar.Spells values :=
    .cons (.word (by decide) (by decide)) (.cons (.single "needs, review") .nil)
  have brackets : read [bracketLine key items] =
      [(key, .list [.text "auth", .text "'needs", .text "review'"])] := by
    have cut :
        items.flatMap Scalar.pieces = (["auth", "'needs", "review'"] : List Text) := by decide
    rw [read_bracketLine (by decide) items, Scalar.read_brackets (List.cons_ne_nil _ _) spelled,
      if_neg (by decide), cut, Scalar.map_readWithin (by decide)]
    rfl
  refine ⟨spelled, lines, brackets, ?_⟩
  rw [lines, brackets]
  simp [key, values]

end Metadata

end Issuebook
