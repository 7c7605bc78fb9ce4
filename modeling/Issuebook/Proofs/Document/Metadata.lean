import Issuebook.Document.Metadata
import Issuebook.Document.Writing
import Issuebook.Issue.Basic
import Issuebook.Proofs.Entries
import Issuebook.Proofs.Issue.Validity
import Issuebook.Proofs.Json.Literals
import Issuebook.Proofs.Text.Characters
import Issuebook.Proofs.Text.Lines
import Mathlib.Data.List.TakeWhile

/-!
# Metadata that documents write

A document writes texts as literals, lists as literals between brackets, and statuses, kinds and
priorities bare; each is read back as the value it was written for. So every metadata line of an
issue is read back as one entry, whatever its value holds and whatever follows it:
`pairs_metadataLines` for the whole block.
-/

/-! ## Scalars -/

namespace Issuebook.Scalar

variable {first : Char}

/-- A character that begins no number. -/
def StartsNoNumber (first : Char) : Prop :=
  first ≠ '-' ∧ first ≠ '+' ∧ first ≠ '.' ∧ first.isDigit = false ∧
    Text.digitValue? first = none

instance (first : Char) : Decidable (StartsNoNumber first) :=
  inferInstanceAs (Decidable (_ ∧ _))

/-- What starts no number has no sign. -/
theorem takeSign_of_startsNoNumber (plain : StartsNoNumber first) (rest : Text) :
    Text.takeSign (first :: rest) = (false, first :: rest) := by
  obtain ⟨minus, plus, -⟩ := plain
  rw [Text.takeSign]
  · exact fun _ same => absurd (List.cons.inj same).1 minus
  · exact fun _ same => absurd (List.cons.inj same).1 plus

/-- It is no whole number. -/
theorem int?_of_startsNoNumber (plain : StartsNoNumber first) (rest : Text) :
    int? (first :: rest) = none := by
  obtain ⟨-, -, -, -, noValue⟩ := id plain
  simp [int?, takeSign_of_startsNoNumber plain, Text.decimalNumber?, noValue]

/-- It is no other number either. -/
theorem float?_of_startsNoNumber (plain : StartsNoNumber first) (rest : Text) :
    float? (first :: rest) = none := by
  obtain ⟨-, -, point, noDigit, noValue⟩ := id plain
  have same : Text.withPlainDigits (first :: rest) = first :: Text.withPlainDigits rest := by
    simp [Text.withPlainDigits, noValue]
  simp [float?, same, takeSign_of_startsNoNumber plain, Binary64.ofDigits?, Text.takeDigits,
    noDigit, point]

/-- At the innermost depth a list is a text. -/
theorem readWithin_zero (text : Text) : readWithin 0 text = readBy .text text :=
  rfl

/-- Above it a list has the pieces between its commas, each read one depth further in. -/
theorem readWithin_succ (depth : Nat) (text : Text) : readWithin (depth + 1) text =
    readBy (fun text => .list ((pieces (inner text)).map (readWithin depth))) text :=
  rfl

/-- A text that no word names and that begins no number is read by its first and last
characters. -/
theorem read_of_startsNoNumber (plain : StartsNoNumber first) {rest : Text}
    (notNull : first :: rest ∉ nullWords) (notTrue : first :: rest ∉ trueWords)
    (notFalse : first :: rest ∉ falseWords) :
    read (first :: rest) =
      if isBetween '"' (first :: rest) then doubleQuoted (first :: rest)
      else if isBetween '\'' (first :: rest) then singleQuoted (first :: rest)
      else if isBracketed (first :: rest) then
        (jsonItems? (first :: rest)).elim
          (.list ((pieces (inner (first :: rest))).map (readWithin rest.length))) .list
      else .text (first :: rest) := by
  rw [← List.contains_iff_mem] at notNull notTrue notFalse
  rw [read, List.length_cons, readWithin_succ, readBy, if_neg notNull, if_neg notTrue,
    if_neg notFalse, int?_of_startsNoNumber plain, float?_of_startsNoNumber plain]
  cases jsonItems? (first :: rest) <;> rfl

/-- A literal is read as its text. -/
theorem read_string (text : Text) : read (Json.string text) = .text text := by
  have words : Json.string text ∉ nullWords ∧ Json.string text ∉ trueWords ∧
      Json.string text ∉ falseWords := by
    simp [Json.string, nullWords, trueWords, falseWords]
  have quoted : isBetween '"' (Json.string text) := by
    simp [isBetween, Json.string, List.getLast?_cons, List.getLast?_append]
  have value := read_of_startsNoNumber (by decide : StartsNoNumber '"') words.1 words.2.1 words.2.2
  rw [← Json.string, if_pos quoted] at value
  rw [value, doubleQuoted, Json.read?_string]
  rfl

/-- A list of literals is read as the list of their texts. -/
theorem read_stringList (texts : List Text) :
    read (Json.stringList texts) = .ofTexts texts := by
  have words : Json.stringList texts ∉ nullWords ∧ Json.stringList texts ∉ trueWords ∧
      Json.stringList texts ∉ falseWords := by
    simp [Json.stringList, nullWords, trueWords, falseWords]
  have bracketed : isBracketed (Json.stringList texts) := by
    simp [isBracketed, Json.stringList, List.getLast?_cons, List.getLast?_append]
  have unquoted (quote : Char) (other : quote ≠ '[') :
      ¬ isBetween quote (Json.stringList texts) := by
    simp [isBetween, Json.stringList, Ne.symm other]
  have value := read_of_startsNoNumber (by decide : StartsNoNumber '[') words.1 words.2.1 words.2.2
  rw [← Json.stringList, if_neg (unquoted '"' (by decide)), if_neg (unquoted '\'' (by decide)),
    if_pos bracketed, jsonItems?, Json.read?_stringList] at value
  exact value

/-- The name of a status is read as a text. -/
theorem read_statusName (status : Status) : read status.name = .text status.name := by
  cases status <;> rfl

/-- So is the name of a kind. -/
theorem read_kindName (kind : Kind) : read kind.name = .text kind.name := by
  cases kind <;> rfl

/-- A priority is read as a whole number. -/
theorem read_priority (priority : Priority) :
    read (Text.ofNat priority.val) = .int priority.val := by
  match priority with
  | 0 | 1 | 2 | 3 | 4 => rfl

end Issuebook.Scalar

/-! ## Lines -/

namespace Issuebook

namespace Metadata

variable {key value : Text}

/-- A text that can stand before the colon of a line. -/
def CanName (key : Text) : Prop :=
  Text.IsClean key ∧ key.head? ≠ some '#' ∧ ':' ∉ key

instance (key : Text) : Decidable (CanName key) :=
  inferInstanceAs (Decidable (_ ∧ _))

/-- A line with a key and a colon opens an entry. -/
theorem canOpen_of_canName (name : CanName key) (rest : Text) :
    canOpen (key ++ ':' :: rest) = true := by
  obtain ⟨clean, noComment, -⟩ := name
  obtain ⟨first, more, rfl⟩ := List.exists_cons_of_ne_nil clean.2
  have solid := clean.not_isBlank
  have others : first ≠ '#' ∧ first ≠ ' ' ∧ first ≠ '\t' := by
    refine ⟨fun comment => noComment (congrArg some comment), ?_, ?_⟩ <;>
      rintro rfl <;> exact solid (by decide)
  simp [canOpen, Text.isAllBlank, isComment, isIndented, Text.startsWith, Text.dropHead?,
    Text.trimStart_cons_of_not_blank solid, solid, Ne.symm others.1, Ne.symm others.2.1,
    Ne.symm others.2.2]

/-- Such a line has the key, and the rest without white space at its ends. -/
theorem keyValue?_of_canName (name : CanName key) (rest : Text) :
    keyValue? (key ++ ':' :: rest) = some (key, Text.trim rest) := by
  obtain ⟨clean, -, noColon⟩ := name
  rw [keyValue?, Text.cutAtChar?_append noColon]
  simp [clean.1, clean.2]

/-- A text that can stand before the colon of a metadata line and is no fence. -/
def IsKey (key : Text) : Prop :=
  (key.head?.any fun first => !Text.isBlank first && first != '#' && first != '-') = true ∧
    Text.trim key = key ∧ ':' ∉ key

instance (key : Text) : Decidable (IsKey key) :=
  inferInstanceAs (Decidable (_ ∧ _))

/-- A key begins with a solid character that opens neither a comment nor an item. -/
theorem exists_first_of_isKey (isKey : IsKey key) : ∃ first rest, key = first :: rest ∧
    ¬ Text.isBlank first ∧ first ≠ '#' ∧ first ≠ '-' := by
  obtain ⟨front, -, -⟩ := isKey
  cases key with
  | nil => simp at front
  | cons first rest =>
      have parts : (Text.isBlank first = false ∧ first ≠ '#') ∧ first ≠ '-' := by
        simpa using front
      exact ⟨first, rest, rfl, by simp [parts.1.1], parts.1.2, parts.2⟩

/-- A key names an entry. -/
theorem IsKey.canName (isKey : IsKey key) : CanName key := by
  obtain ⟨first, rest, rfl, -, noComment, -⟩ := exists_first_of_isKey isKey
  exact ⟨⟨isKey.2.1, List.cons_ne_nil _ _⟩, fun same => noComment (Option.some.inj same), isKey.2.2⟩

/-- A line of metadata is a key, a colon, a space and the value. -/
theorem metadataLine_eq (key value : Text) :
    Issue.metadataLine key value = key ++ ':' :: ' ' :: value := by
  simp [Issue.metadataLine]

/-- A line of metadata opens an entry. -/
theorem canOpen_metadataLine (isKey : IsKey key) (value : Text) :
    canOpen (Issue.metadataLine key value) := by
  rw [metadataLine_eq]
  exact canOpen_of_canName isKey.canName _

/-- It is cut into its key and its value. -/
theorem keyValue?_metadataLine (isKey : IsKey key) (clean : Text.IsClean value) :
    keyValue? (Issue.metadataLine key value) = some (key, value) := by
  rw [metadataLine_eq, keyValue?_of_canName isKey.canName,
    Text.trim_cons_of_blank (by decide : Text.isBlank ' '), clean.1]

/-- A metadata line with a value of its own opens the entry of its key, whatever follows. -/
theorem entryAt?_metadataLine (isKey : IsKey key) (clean : Text.IsClean value)
    (noBlock : opensBlock value = false) (following : List Text) :
    entryAt? (Issue.metadataLine key value) following = some (key, Scalar.read value) := by
  rw [entryAt?, if_pos (canOpen_metadataLine isKey value), keyValue?_metadataLine isKey clean]
  simp [entryValue, noBlock, clean.2]

/-- It is no fence. -/
theorem isFence_metadataLine (isKey : IsKey key) (value : Text) :
    Document.isFence (Issue.metadataLine key value) = false := by
  obtain ⟨first, rest, rfl, solid, -, noFence⟩ := exists_first_of_isKey isKey
  simp [Document.isFence, Issue.metadataLine, Text.trim_cons_of_not_blank solid, fence, noFence]

/-- The values that documents write: clean ones that open no block. -/
structure IsWritable (value : Text) : Prop where
  /-- The value is clean. -/
  clean : Text.IsClean value
  /-- The value opens no block. -/
  noBlock : opensBlock value = false

/-- A text between two solid characters can be written as a value. -/
theorem isWritable_between {first last : Char} (solidFirst : ¬ Text.isBlank first)
    (solidLast : ¬ Text.isBlank last) (noBlock : first ≠ '|' ∧ first ≠ '>') (text : Text) :
    IsWritable (first :: (text ++ [last])) where
  clean := ⟨Text.trim_between solidFirst solidLast text, by simp⟩
  noBlock := by
    simp [opensBlock, Text.startsWith, Text.dropHead?, Ne.symm noBlock.1, Ne.symm noBlock.2]

/-- A quoted text can. -/
theorem isWritable_string (text : Text) : IsWritable (Json.string text) :=
  isWritable_between (by decide) (by decide) (by decide) _

/-- A list of quoted texts can. -/
theorem isWritable_stringList (texts : List Text) : IsWritable (Json.stringList texts) :=
  isWritable_between (by decide) (by decide) (by decide) _

/-- The name of a status can. -/
theorem isWritable_statusName (status : Status) : IsWritable status.name := by
  cases status <;> exact ⟨by decide, by decide⟩

/-- The name of a kind can. -/
theorem isWritable_kindName (kind : Kind) : IsWritable kind.name := by
  cases kind <;> exact ⟨by decide, by decide⟩

/-- A priority can. -/
theorem isWritable_priority (priority : Priority) : IsWritable (Text.ofNat priority.val) := by
  match priority with
  | 0 | 1 | 2 | 3 | 4 => exact ⟨by decide, by decide⟩

/-- A line of metadata is read as its key with the value that its text has. -/
theorem pairs_metadataLine (isKey : IsKey key) (writable : IsWritable value)
    (rest : List Text) :
    pairs (Issue.metadataLine key value :: rest) = (key, Scalar.read value) :: pairs rest := by
  rw [pairs, entryAt?_metadataLine isKey writable.clean writable.noBlock]
  rfl

/-- A quoted text is read as that text. -/
theorem pairs_stringLine (isKey : IsKey key) (text : Text) (rest : List Text) :
    pairs (Issue.metadataLine key (Json.string text) :: rest) =
      (key, .text text) :: pairs rest := by
  rw [pairs_metadataLine isKey (isWritable_string text), Scalar.read_string]

/-- A line with a list is read as the list, none if it is empty. -/
theorem pairs_listLine (isKey : IsKey key) (items : Option (List Text)) (rest : List Text) :
    pairs (Issue.listLine key items :: rest) =
      (key, .ofTexts (Issue.itemsOrNone items)) :: pairs rest := by
  rw [Issue.listLine, pairs_metadataLine isKey (isWritable_stringList _), Scalar.read_stringList]

/-- The entry of an optional text, none when absent. -/
def textEntry (key : Text) (field : Option Text) : Entries Value :=
  field.toList.map fun written => (key, .text written)

/-- The line of an optional text is read as its entry, if there is one. -/
theorem pairs_textLine (isKey : IsKey key) (field : Option Text) (rest : List Text) :
    pairs (Issue.textLine key field ++ rest) = textEntry key field ++ pairs rest := by
  cases field with
  | none => rfl
  | some written => exact pairs_stringLine isKey written rest

end Metadata

namespace Issue

open Metadata

/-- The entries of the metadata block of an issue. -/
def metadataEntries (issue : Issue) : Entries Value :=
  let front : Entries Value :=
    [("id", .text issue.id), ("title", .text issue.title), ("status", .text issue.status.name),
     ("type", .text issue.kind.name), ("priority", .int issue.priority.val),
     ("labels", .ofTexts (itemsOrNone issue.labels))]
  let back : Entries Value :=
    [("dependsOn", .ofTexts (itemsOrNone issue.dependsOn)),
     ("blocks", .ofTexts (itemsOrNone issue.blocks)),
     ("children", .ofTexts (itemsOrNone issue.children))]
  front ++ (textEntry "assignee" issue.assignee ++ (textEntry "createdAt" issue.createdAt ++
    (textEntry "updatedAt" issue.updatedAt ++ (textEntry "closedAt" issue.closedAt ++
    (textEntry "parent" issue.parent ++ (textEntry "source" (issue.source.map Side.name) ++
    back))))))

/-- The lines of the metadata block of an issue are read as its entries. -/
theorem pairs_metadataLines (issue : Issue) :
    pairs issue.metadataLines = issue.metadataEntries := by
  simp only [metadataLines, List.append_assoc, List.cons_append, List.nil_append]
  rw [pairs_stringLine (by decide), pairs_stringLine (by decide),
    pairs_metadataLine (by decide) (isWritable_statusName _), Scalar.read_statusName,
    pairs_metadataLine (by decide) (isWritable_kindName _), Scalar.read_kindName,
    pairs_metadataLine (by decide) (isWritable_priority _), Scalar.read_priority,
    pairs_listLine (by decide), pairs_textLine (by decide), pairs_textLine (by decide),
    pairs_textLine (by decide), pairs_textLine (by decide), pairs_textLine (by decide),
    pairs_textLine (by decide), pairs_listLine (by decide), pairs_listLine (by decide),
    pairs_listLine (by decide)]
  rfl

end Issue

end Issuebook

/-!
## Metadata in parts

An entry takes the lines behind it that its value needs and none that could open an entry of its
own, so reading goes on right behind them (`pairs_of_entry`). Metadata can therefore be cut in
front of every line that is neither blank nor indented: the parts are read by themselves, and the
later one is written over the earlier one (`read_append`).
-/

namespace Issuebook.Metadata

variable {value line : Text} {later : List Text}

/-- Lines that continue nothing in front of them: there is none, or the first one is neither blank
nor indented. -/
def StartsAnew (lines : List Text) : Prop :=
  ∀ line ∈ lines.head?, Text.isAllBlank line = false ∧ isIndented line = false

instance (lines : List Text) : Decidable (StartsAnew lines) :=
  inferInstanceAs (Decidable (∀ line ∈ lines.head?, _ ∧ _))

/-- The lines that an entry takes behind it: the blank and the indented ones for a block, the items
for an empty value, and none for any other. -/
def linesTaken (value : Text) (following : List Text) : List Text :=
  if opensBlock value then
    following.takeWhile fun line => Text.isAllBlank line || isIndented line
  else if value.isEmpty then following.takeWhile isItem
  else []

/-- The lines that a value takes are the next ones. -/
theorem isPrefix_linesTaken (value : Text) (following : List Text) :
    linesTaken value following <+: following := by
  unfold linesTaken
  split_ifs
  · exact List.takeWhile_prefix _
  · exact List.takeWhile_prefix _
  · exact List.nil_prefix

/-- The value of an entry depends on no other lines. -/
theorem entryValue_linesTaken (value : Text) (following : List Text) :
    entryValue value (linesTaken value following) = entryValue value following := by
  by_cases block : opensBlock value
  · simp only [entryValue, linesTaken, block, if_true, blockLines, List.takeWhile_idem]
  · by_cases empty : value.isEmpty
    · simp only [entryValue, linesTaken, block, empty, if_true, if_false, itemValues,
        List.takeWhile_idem, Bool.false_eq_true]
    · simp only [entryValue, block, empty, if_false, Bool.false_eq_true]

/-- No line that an entry takes could open an entry of its own. -/
theorem canOpen_of_mem_linesTaken {following : List Text}
    (taken : line ∈ linesTaken value following) : canOpen line = false := by
  unfold linesTaken at taken
  split_ifs at taken
  · have continues := List.mem_takeWhile_imp taken
    rcases Bool.or_eq_true_iff.mp continues with blank | indented
    · simp [canOpen, blank]
    · simp [canOpen, indented]
  · have item : isItem line = true := List.mem_takeWhile_imp taken
    simp [canOpen, (Bool.and_eq_true_iff.mp item).1]
  · cases taken

/-- A line that opens no entry has none. -/
theorem entryAt?_eq_none (closed : canOpen line = false) (following : List Text) :
    entryAt? line following = none := by
  rw [entryAt?, closed]
  rfl

/-- Lines that open no entry are passed over. -/
theorem pairs_append_of_closed {lines : List Text} (closed : ∀ line ∈ lines, canOpen line = false)
    (later : List Text) : pairs (lines ++ later) = pairs later := by
  induction lines with
  | nil => rfl
  | cons line lines inductionHypothesis =>
      obtain ⟨here, closed⟩ := List.forall_mem_cons.mp closed
      rw [List.cons_append, pairs, entryAt?_eq_none here, inductionHypothesis closed]
      rfl

/-- Behind an entry reading goes on at the first line that the entry does not take. -/
theorem pairs_of_entry {key : Text} (opens : canOpen line = true)
    (found : keyValue? line = some (key, value)) (following : List Text) :
    pairs (line :: following) = (key, entryValue value (linesTaken value following)) ::
      pairs (following.drop (linesTaken value following).length) := by
  have rest : pairs following = pairs (following.drop (linesTaken value following).length) := by
    conv_lhs => rw [← List.prefix_iff_eq_append.mp (isPrefix_linesTaken value following)]
    exact pairs_append_of_closed (fun _ => canOpen_of_mem_linesTaken) _
  rw [pairs, entryAt?, if_pos opens, found, rest, entryValue_linesTaken]
  rfl

/-- A run of lines that stops in front of other lines stops there whatever stands behind. -/
theorem takeWhile_append_of_head {test : Text → Bool}
    (stops : ∀ line ∈ later.head?, test line = false) (lines : List Text) :
    (lines ++ later).takeWhile test = lines.takeWhile test := by
  have none : later.takeWhile test = [] := by
    cases later with
    | nil => rfl
    | cons line later => exact List.takeWhile_cons_of_neg (by simp [stops line rfl])
  rw [List.takeWhile_append, none]
  split_ifs with whole
  · rw [List.append_nil]
    exact ((List.takeWhile_prefix test).eq_of_length whole).symm
  · rfl

/-- An entry takes no line from lines that start anew. -/
theorem linesTaken_append (anew : StartsAnew later) (value : Text) (lines : List Text) :
    linesTaken value (lines ++ later) = linesTaken value lines := by
  have block : ∀ line ∈ later.head?, (Text.isAllBlank line || isIndented line) = false :=
    fun line first => by simp [anew line first]
  have item : ∀ line ∈ later.head?, isItem line = false :=
    fun line first => by simp [isItem, (anew line first).2]
  simp only [linesTaken, takeWhile_append_of_head block, takeWhile_append_of_head item]

/-- Lines that start anew add nothing to the entry before them. -/
theorem entryAt?_append (anew : StartsAnew later) (line : Text) (lines : List Text) :
    entryAt? line (lines ++ later) = entryAt? line lines := by
  have same (value : Text) : entryValue value (lines ++ later) = entryValue value lines := by
    rw [← entryValue_linesTaken, linesTaken_append anew, entryValue_linesTaken]
  simp only [entryAt?, same]

/-- So the entries of both parts are read one behind the other. -/
theorem pairs_append (anew : StartsAnew later) (lines : List Text) :
    pairs (lines ++ later) = pairs lines ++ pairs later := by
  induction lines with
  | nil => rfl
  | cons line lines inductionHypothesis =>
      rw [List.cons_append, pairs, pairs, entryAt?_append anew, inductionHypothesis,
        List.append_assoc]

/-- Where lines start anew behind others, the metadata of all is that of the first with that of the
others written over it, in content and order: what the others say of a key holds, and of every key
that they do not mention what the first say. -/
theorem read_append (lines : List Text) {later : List Text} (anew : StartsAnew later) :
    read (lines ++ later) = (read lines).putAll (read later) ∧
      ∀ key, (read (lines ++ later)).get? key =
        ((read later).get? key).or ((read lines).get? key) := by
  have whole : read (lines ++ later) = (read lines).putAll (read later) := by
    rw [read, pairs_append anew, Entries.ofList_append, ← read, ← read]
  refine ⟨whole, fun key => ?_⟩
  rw [whole, Entries.get?_putAll, read, Entries.get?_reverse (Entries.nodup_keys_ofList _)]

/-- A block and a list in front of a comment, which takes no part in either. -/
theorem openList_read_append : StartsAnew ["# done", "note: >", "  c"] ∧
    read (["note: |", "  a: 1", "", "list:", "  - b"] ++ ["# done", "note: >", "  c"]) =
      ([("note", .text "c"), ("list", .list [.text "b"])] : Entries Value) ∧
    (read (["note: |", "  a: 1", "", "list:", "  - b"] ++ ["# done", "note: >", "  c"])).get?
      "list" = some (.list [.text "b"]) := by
  have anew : StartsAnew ["# done", "note: >", "  c"] := by decide
  obtain ⟨whole, held⟩ := read_append ["note: |", "  a: 1", "", "list:", "  - b"] anew
  exact ⟨anew, whole.trans (by rfl), (held "list").trans (by rfl)⟩

end Issuebook.Metadata
