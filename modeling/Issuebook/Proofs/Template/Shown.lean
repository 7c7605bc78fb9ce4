import Issuebook.Proofs.Document.Pieces
import Issuebook.Proofs.Issue.Unbroken
import Issuebook.Proofs.Template.Rebuilding
import Issuebook.Proofs.Text.Lines
import Issuebook.Store.Backend
import Issuebook.Template.Preset

/-!
# Issues in slots

What the fields of an issue read in the slots of a template, and that intake takes each field
back from its text (`take_shown`). A tidy issue shows every field but the description on one
line.
-/

namespace Issuebook

namespace Text

variable {first second text : Text}

/-- Clean texts with anything between them are a clean text. -/
theorem IsClean.append (clean : IsClean first) (between : Text) (after : IsClean second) :
    IsClean (first ++ (between ++ second)) := by
  refine ⟨?_, by simp [clean.2]⟩
  have kept : first.dropWhile isBlank ≠ [] := by
    rw [dropWhile_of_isClean clean]
    exact clean.2
  rw [trim_eq, List.dropWhile_append, if_neg (by simpa using kept), dropWhile_of_isClean clean,
    ← trimEnd_eq, ← List.append_assoc, trimEnd_append_of_not_isAllBlank _ after.solid,
    trimEnd_of_isClean after]

/-- Clean texts joined by commas are a clean text. -/
theorem isClean_join (separator : Text) {items : List Text} (present : items ≠ [])
    (clean : ∀ item ∈ items, IsClean item) : IsClean (join separator items) := by
  induction items with
  | nil => exact absurd rfl present
  | cons item items inductionHypothesis =>
      obtain ⟨cleanHere, clean⟩ := List.forall_mem_cons.mp clean
      cases items with
      | nil => exact cleanHere
      | cons next items =>
          rw [join, List.append_assoc]
          exact cleanHere.append separator (inductionHypothesis (List.cons_ne_nil _ _) clean)

/-- What a text begins with, behind its white space, one of its lines begins with. -/
theorem exists_line_begins {mark : Char} (solid : ¬ isBlank mark)
    (begins : (text.dropWhile isBlank).head? = some mark) :
    ∃ line ∈ splitOn '\n' text, (trim line).head? = some mark := by
  induction text with
  | nil => cases begins
  | cons char text inductionHypothesis =>
      obtain ⟨first, more, pieces, -⟩ := splitOn_shape '\n' text
      rw [splitOn]
      by_cases blank : isBlank char
      · rw [List.dropWhile_cons_of_pos blank] at begins
        obtain ⟨line, held, trimmed⟩ := inductionHypothesis begins
        split_ifs
        · exact ⟨line, List.mem_cons_of_mem _ held, trimmed⟩
        · rw [pieces] at held ⊢
          rcases List.mem_cons.mp held with rfl | later
          · exact ⟨char :: line, List.mem_cons_self, by rwa [trim_cons_of_blank blank]⟩
          · exact ⟨line, List.mem_cons_of_mem _ later, trimmed⟩
      · rw [List.dropWhile_cons_of_neg blank] at begins
        obtain rfl := Option.some.inj begins
        have inLine : char ≠ '\n' := by
          rintro rfl
          exact blank (by decide)
        rw [if_neg inLine, pieces]
        exact ⟨char :: first, List.mem_cons_self, by rw [trim_cons_of_not_blank blank]; rfl⟩

end Text

namespace Value

/-- A list of texts is shown with commas. -/
theorem slotItems_texts (items : List Text) :
    slotItems (items.map .text) = Text.join ", " items := by
  induction items with
  | nil => rfl
  | cons item items inductionHypothesis =>
      cases items with
      | nil => rfl
      | cons next items =>
          have rest : slotItems ((next :: items).map .text) = Text.join ", " (next :: items) :=
            inductionHypothesis
          change item ++ ", " ++ slotItems ((next :: items).map .text) = _
          rw [rest]
          rfl

/-- So is an optional list, which is nothing if it is absent. -/
theorem slotText_ofTexts? (field : Option (List Text)) :
    (ofTexts? field).slotText = Text.join ", " (Issue.itemsOrNone field) := by
  cases field with
  | none => rfl
  | some items => exact slotItems_texts items

/-- An optional text is shown as it is. -/
theorem slotText_ofText? (field : Option Text) :
    (ofText? field).slotText = Issue.textOrEmpty field := by
  cases field <;> rfl

/-- A list between commas is read back. -/
theorem idList?_join {items : List Text} (clean : ∀ item ∈ items, Text.IsClean item)
    (plain : ∀ item ∈ items, ',' ∉ item) : idList? (.text (Text.join ", " items)) = some items := by
  have pieces : Scalar.pieces (Text.join ", " items) = items.flatMap Scalar.pieces :=
    Scalar.pieces_join [' '] (by decide) items
  rw [idList?_text, pieces, Scalar.flatMap_pieces_of_plain clean plain]

end Value

namespace Issue

open Intake

variable {issue : Issue}

/-- The text that a field shows in a slot. -/
def shown (issue : Issue) (name : Text) : Text :=
  (Finding.issueField issue name).slotText

/-- An issue whose metadata texts are trimmed lines, with items free of commas, and whose
description is trimmed and has no line that begins like a heading or an item. -/
structure IsTidy (issue : Issue) : Prop where
  /-- Metadata texts are trimmed and of a single line. -/
  lines : ∀ text ∈ issue.metadataTexts, Text.trim text = text ∧ '\n' ∉ text
  /-- The items of lists are free of commas. -/
  commas : ∀ field ∈ [issue.labels, issue.dependsOn, issue.blocks, issue.children],
    ∀ item ∈ itemsOrNone field, ',' ∉ item
  /-- The description is trimmed. -/
  trimmed : ∀ text ∈ issue.description, Text.trim text = text
  /-- No line of the description begins like a heading or an item. -/
  prose : ∀ text ∈ issue.description, ∀ line ∈ Text.splitOn '\n' text,
    ∀ mark ∈ ['#', '-', '*'], (Text.trim line).head? ≠ some mark

/-- The texts of the fields that hold one text or a name. -/
theorem shown_eq (issue : Issue) :
    issue.shown "id" = issue.id ∧ issue.shown "title" = issue.title ∧
    issue.shown "description" = textOrEmpty issue.description ∧
    issue.shown "status" = issue.status.name ∧ issue.shown "type" = issue.kind.name ∧
    issue.shown "priority" = Text.ofInt issue.priority.val ∧
    issue.shown "labels" = Text.join ", " (itemsOrNone issue.labels) ∧
    issue.shown "assignee" = textOrEmpty issue.assignee ∧
    issue.shown "createdAt" = textOrEmpty issue.createdAt ∧
    issue.shown "updatedAt" = textOrEmpty issue.updatedAt ∧
    issue.shown "closedAt" = textOrEmpty issue.closedAt ∧
    issue.shown "dependsOn" = Text.join ", " (itemsOrNone issue.dependsOn) ∧
    issue.shown "blocks" = Text.join ", " (itemsOrNone issue.blocks) ∧
    issue.shown "children" = Text.join ", " (itemsOrNone issue.children) ∧
    issue.shown "parent" = textOrEmpty issue.parent :=
  ⟨rfl, rfl, Value.slotText_ofText? _, rfl, rfl, rfl, Value.slotText_ofTexts? _,
    Value.slotText_ofText? _, Value.slotText_ofText? _, Value.slotText_ofText? _,
    Value.slotText_ofText? _, Value.slotText_ofTexts? _, Value.slotText_ofTexts? _,
    Value.slotText_ofTexts? _, Value.slotText_ofText? _⟩

/-- A text that is shown is taken back. -/
theorem takeText_shown {field : Option Text} (present : SaysSomething field)
    (shows : textOrEmpty field ≠ []) :
    takeText (some (.text (textOrEmpty field))) = .ofText? field := by
  cases field with
  | none => exact absurd rfl shows
  | some text =>
      have solid := present text rfl
      simp [takeText, textOrEmpty, checkText, Value.scalarText?, solid, Checked.getD]

/-- A list that is shown is taken back, if no item has a comma. -/
theorem takeList_shown {field : Option (List Text)} (clean : HasCleanItems field)
    (plain : ∀ item ∈ itemsOrNone field, ',' ∉ item)
    (present : Text.join ", " (itemsOrNone field) ≠ []) :
    takeList (some (.text (Text.join ", " (itemsOrNone field)))) = .ofTexts? field := by
  cases field with
  | none => exact absurd rfl present
  | some items =>
      exact congrArg Value.ofTexts? (Value.idList?_join clean plain)

/-- A priority that is shown is taken back. -/
theorem takePriority_shown (priority : Priority) :
    takePriority (some (.text (Text.ofInt priority.val))) = priority := by
  match priority with
  | 0 | 1 | 2 | 3 | 4 => decide +kernel

/-- Intake takes every field back from the text that shows it. -/
theorem take_shown (valid : issue.IsValid) (tidy : issue.IsTidy) :
    ∀ entry ∈ takers, issue.shown entry.1 ≠ [] →
      entry.2 (some (.text (issue.shown entry.1))) = Finding.issueField issue entry.1 := by
  obtain ⟨id, title, description, status, kind, priority, labels, assignee, createdAt, updatedAt,
    closedAt, dependsOn, blocks, children, parent⟩ := issue.shown_eq
  obtain ⟨noLabel, noDependency, noBlocked, noChild, -⟩ :=
    (by simpa only [List.forall_mem_cons] using tidy.commas)
  simp only [takers, List.forall_mem_cons]
  refine ⟨?_, ?_, ?_, ?_, ?_, ?_, ?_, ?_, ?_, ?_, ?_, ?_, ?_, ?_, ?_, by simp⟩
  · intro _
    rw [id, checkId_text valid.id]
    rfl
  · exact fun _ => rfl
  · exact description ▸ takeText_shown valid.description
  · exact fun _ => congrArg (fun status => Value.text (Status.name status))
      (ofValue_statusName issue.status)
  · exact fun _ => congrArg (fun kind => Value.text (Kind.name kind))
      (ofValue_kindName issue.kind)
  · exact fun _ => congrArg (fun priority : Priority => Value.int priority.val)
      (takePriority_shown issue.priority)
  · exact labels ▸ takeList_shown valid.labels noLabel
  · exact assignee ▸ takeText_shown valid.assignee
  · exact createdAt ▸ takeText_shown valid.createdAt
  · exact updatedAt ▸ takeText_shown valid.updatedAt
  · exact closedAt ▸ takeText_shown valid.closedAt
  · exact dependsOn ▸ takeList_shown valid.dependsOn noDependency
  · exact blocks ▸ takeList_shown valid.blocks noBlocked
  · exact children ▸ takeList_shown valid.children noChild
  · exact parent ▸ takeText_shown valid.parent

/-- A trimmed text of a single line. -/
def IsTrimmedLine (text : Text) : Prop :=
  Text.trim text = text ∧ '\n' ∉ text

instance (text : Text) : Decidable (IsTrimmedLine text) :=
  inferInstanceAs (Decidable (_ ∧ _))

/-- An optional text of one trimmed line is one. -/
theorem isTrimmedLine_textOrEmpty {field : Option Text}
    (each : ∀ text ∈ field, IsTrimmedLine text) : IsTrimmedLine (textOrEmpty field) := by
  cases field with
  | none => exact ⟨rfl, List.not_mem_nil⟩
  | some text => exact each text rfl

/-- A list of trimmed lines is shown as one. -/
theorem isTrimmedLine_join {field : Option (List Text)} (clean : HasCleanItems field)
    (each : ∀ text ∈ itemsOrNone field, IsTrimmedLine text) :
    IsTrimmedLine (Text.join ", " (itemsOrNone field)) := by
  constructor
  · by_cases present : itemsOrNone field = []
    · rw [present]
      rfl
    · exact (Text.isClean_join ", " present clean).1
  · exact Text.not_mem_join (by decide) fun item held => (each item held).2

/-- A tidy issue shows every field but the description as a trimmed line. -/
theorem isTrimmedLine_shown (valid : issue.IsValid) (tidy : issue.IsTidy) :
    ∀ name ∈ takers.keys, name ≠ "description" → IsTrimmedLine (issue.shown name) := by
  obtain ⟨id, title, description, status, kind, priority, labels, assignee, createdAt, updatedAt,
    closedAt, dependsOn, blocks, children, parent⟩ := issue.shown_eq
  have each : ∀ text ∈ issue.metadataTexts, IsTrimmedLine text := tidy.lines
  simp only [metadataTexts, List.mem_append, Option.mem_toList, or_imp, forall_and] at each
  obtain ⟨⟨⟨⟨⟨⟨⟨⟨⟨named, labelsLines⟩, assigneeLine⟩, createdLine⟩, updatedLine⟩, closedLine⟩,
    parentLine⟩, dependsLines⟩, blocksLines⟩, childrenLines⟩ := each
  simp only [List.forall_mem_cons] at named
  simp only [Entries.keys, takers, List.map_cons, List.map_nil, List.forall_mem_cons]
  refine ⟨?_, ?_, ?_, ?_, ?_, ?_, ?_, ?_, ?_, ?_, ?_, ?_, ?_, ?_, ?_, by simp⟩
  · exact fun _ => id ▸ named.1
  · exact fun _ => title ▸ named.2.1
  · exact fun other => absurd rfl other
  · intro _
    rw [status]
    cases issue.status <;> exact ⟨by decide, by decide⟩
  · intro _
    rw [kind]
    cases issue.kind <;> exact ⟨by decide, by decide⟩
  · have each : ∀ priority : Priority, IsTrimmedLine (Text.ofInt priority.val) := by decide
    intro _
    rw [priority]
    exact each issue.priority
  · exact fun _ => labels ▸ isTrimmedLine_join valid.labels labelsLines
  · exact fun _ => assignee ▸ isTrimmedLine_textOrEmpty assigneeLine
  · exact fun _ => createdAt ▸ isTrimmedLine_textOrEmpty createdLine
  · exact fun _ => updatedAt ▸ isTrimmedLine_textOrEmpty updatedLine
  · exact fun _ => closedAt ▸ isTrimmedLine_textOrEmpty closedLine
  · exact fun _ => dependsOn ▸ isTrimmedLine_join valid.dependsOn dependsLines
  · exact fun _ => blocks ▸ isTrimmedLine_join valid.blocks blocksLines
  · exact fun _ => children ▸ isTrimmedLine_join valid.children childrenLines
  · exact fun _ => parent ▸ isTrimmedLine_textOrEmpty parentLine

/-- What a tidy issue shows has no white space at its ends. -/
theorem trim_shown (valid : issue.IsValid) (tidy : issue.IsTidy) :
    ∀ name ∈ takers.keys, Text.trim (issue.shown name) = issue.shown name := by
  intro name known
  by_cases prose : name = "description"
  · subst prose
    have shown : issue.shown "description" = textOrEmpty issue.description :=
      Value.slotText_ofText? _
    rw [shown]
    cases held : issue.description with
    | none => rfl
    | some text => exact tidy.trimmed text held
  · exact (isTrimmedLine_shown valid tidy name known prose).1

/-- No line of a description begins like a heading or an item. -/
theorem head?_of_prose (tidy : issue.IsTidy) {earlier later : Text}
    (split : issue.shown "description" = earlier ++ '\n' :: later) {mark : Char}
    (listed : mark ∈ ['#', '-', '*']) : (later.dropWhile Text.isBlank).head? ≠ some mark := by
  intro begins
  have solid : ∀ mark ∈ ['#', '-', '*'], ¬ Text.isBlank mark := by decide
  have shown : issue.shown "description" = textOrEmpty issue.description :=
    Value.slotText_ofText? _
  rw [shown] at split
  cases held : issue.description with
  | none =>
      rw [held] at split
      cases List.append_ne_nil_of_right_ne_nil earlier (List.cons_ne_nil _ _) split.symm
  | some text =>
      rw [held] at split
      change text = _ at split
      obtain ⟨line, piece, trimmed⟩ := Text.exists_line_begins (solid mark listed) begins
      refine tidy.prose text held line ?_ mark listed trimmed
      rw [split, Text.splitOn_append_mark]
      exact List.mem_append_right _ piece

/-- Names and numbers have no mark of code. -/
theorem noCode_shown (issue : Issue) : ∀ name ∈ (["status", "type", "priority"] : List Text),
    '`' ∉ issue.shown name := by
  simp only [List.forall_mem_cons]
  refine ⟨?_, ?_, ?_, by simp⟩
  · change '`' ∉ issue.status.name
    cases issue.status <;> decide
  · change '`' ∉ issue.kind.name
    cases issue.kind <;> decide
  · change '`' ∉ Text.ofInt issue.priority.val
    match issue.priority with
    | 0 | 1 | 2 | 3 | 4 => decide

end Issue

end Issuebook

/-!
## Lists between commas

A list of texts is written between commas in two places: in the slots of templates, with a space
behind each comma, and in the arguments of the store's program. Neither marks a comma that belongs
to an item, so what is taken in again are the pieces of the items, and the list itself exactly when
no item holds a comma.
-/

namespace Issuebook.Issue

open Value

variable {items : List Text}

/-- Of clean texts none is left out of an argument. -/
theorem commaList_of_hasCleanItems (clean : HasCleanItems (some items)) :
    Program.commaList items = Text.join [','] items := by
  have kept : items.filter (· ≠ []) = items :=
    List.filter_eq_self.mpr fun item listed => decide_eq_true (clean item listed).2
  rw [Program.commaList, kept]

/-- From its slot a list is taken in as the pieces of its items. -/
theorem idList?_slotText (items : List Text) :
    idList? (.text (ofTexts items).slotText) = some (items.flatMap Scalar.pieces) := by
  have shown : (ofTexts items).slotText = Text.join ", " items := slotItems_texts items
  rw [shown, idList?_text]
  exact congrArg some (Scalar.pieces_join [' '] (by decide) items)

/-- From an argument a list is taken in as the pieces of its items. -/
theorem idList?_commaList (clean : HasCleanItems (some items)) :
    idList? (.text (Program.commaList items)) = some (items.flatMap Scalar.pieces) := by
  rw [commaList_of_hasCleanItems clean, idList?_text,
    Scalar.pieces_join [] (by decide) items]

/-- From the text of its slot, and from the argument that it is for the store's program, a list of
clean items is taken in as the pieces of its items. Either way that is the list exactly when no item
holds a comma. -/
theorem list_retaken_iff (items : List Text) (clean : HasCleanItems (some items)) :
    (idList? (.text (ofTexts items).slotText) = some (items.flatMap Scalar.pieces) ∧
      idList? (.text (Program.commaList items)) = some (items.flatMap Scalar.pieces)) ∧
    (idList? (.text (ofTexts items).slotText) = some items ↔ ∀ item ∈ items, ',' ∉ item) ∧
    (idList? (.text (Program.commaList items)) = some items ↔ ∀ item ∈ items, ',' ∉ item) := by
  have slot := idList?_slotText items
  have argument := idList?_commaList clean
  have same : some (items.flatMap Scalar.pieces) = some items ↔ ∀ item ∈ items, ',' ∉ item :=
    Option.some_inj.trans (Scalar.flatMap_pieces_eq_iff clean)
  exact ⟨⟨slot, argument⟩, by rw [slot, same], by rw [argument, same]⟩

/-- Labels with every other mark are taken in as they were. -/
theorem markedLabels_retaken :
    let labels : List Text := ["needs review", "a;b", "'c'", "[d]"]
    HasCleanItems (some labels) ∧
      idList? (.text (ofTexts labels).slotText) = some labels ∧
      idList? (.text (Program.commaList labels)) = some labels := by
  intro labels
  have clean : HasCleanItems (some labels) := by decide
  obtain ⟨-, slot, argument⟩ := list_retaken_iff labels clean
  exact ⟨clean, slot.mpr (by decide), argument.mpr (by decide)⟩

/-- A label with a comma is taken in as two, either way. -/
theorem commaLabel_not_retaken :
    let labels : List Text := ["a,b"]
    HasCleanItems (some labels) ∧
      idList? (.text (ofTexts labels).slotText) = some (["a", "b"] : List Text) ∧
      idList? (.text (ofTexts labels).slotText) ≠ some labels ∧
      idList? (.text (Program.commaList labels)) = some (["a", "b"] : List Text) ∧
      idList? (.text (Program.commaList labels)) ≠ some labels := by
  decide

end Issuebook.Issue
