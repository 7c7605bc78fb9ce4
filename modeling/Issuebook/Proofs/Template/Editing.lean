import Issuebook.Proofs.Template.Recovery

/-!
# Edited documents

What an edit of one slot does to the issue that is rebuilt from a document of a preset. Presets
show some fields in several slots, and the first text found for a field is the one that is taken:
an edit takes hold, or leaves its slot unmatched, where no earlier slot shows the same field
(`edit_taken_or_unmatched`).
-/

namespace Issuebook

open Template Extraction Slot

/-- A text of a single line without the marks of headings, items, code and names. -/
structure Text.IsPlainLine (text : Text) : Prop where
  /-- The text is not empty. -/
  present : text ≠ []
  /-- It is a single line. -/
  single : '\n' ∉ text
  /-- It has no marks. -/
  unmarked : ∀ mark ∈ ['#', '*', '`', '@'], mark ∉ text

instance (text : Text) : Decidable (Text.IsPlainLine text) :=
  decidable_of_iff (text ≠ [] ∧ '\n' ∉ text ∧ ∀ mark ∈ ['#', '*', '`', '@'], mark ∉ text)
    ⟨fun plain => ⟨plain.1, plain.2.1, plain.2.2⟩,
      fun plain => ⟨plain.present, plain.single, plain.unmarked⟩⟩

namespace Issue

variable {issue : Issue} {name : Text} {layout : Layout} {before value : Text} {slot : Slot}

/-- An issue all of whose fields are plain lines, with items free of commas. -/
structure IsPlain (issue : Issue) : Prop where
  /-- The identifier and the title are plain. -/
  named : ∀ text ∈ [issue.id, issue.title], Text.IsPlainLine text
  /-- The fields of one text are present and plain. -/
  texts : ∀ field ∈ [issue.description, issue.assignee, issue.createdAt, issue.updatedAt,
    issue.closedAt, issue.parent], ∃ text, field = some text ∧ Text.IsPlainLine text
  /-- The lists have items, which are plain and free of commas. -/
  lists : ∀ field ∈ [issue.labels, issue.dependsOn, issue.blocks, issue.children],
    ∃ items, field = some items ∧ items ≠ [] ∧
      ∀ item ∈ items, Text.IsPlainLine item ∧ ',' ∉ item

/-- Plain lines that are joined by commas are a plain line. -/
theorem isPlainLine_join {items : List Text} (present : items ≠ [])
    (plain : ∀ item ∈ items, Text.IsPlainLine item) : Text.IsPlainLine (Text.join ", " items) := by
  obtain ⟨first, rest, rfl⟩ := List.exists_cons_of_ne_nil present
  refine ⟨?_, Text.not_mem_join (by decide) fun item held => (plain item held).single,
    fun mark listed => Text.not_mem_join ?_ fun item held => (plain item held).unmarked mark listed⟩
  · have solid := (plain first List.mem_cons_self).present
    cases rest with
    | nil => exact solid
    | cons next rest => simp [Text.join, solid]
  · revert mark
    decide

/-- A plain issue shows every field as a plain line. -/
theorem isPlainLine_shown (plain : issue.IsPlain) :
    ∀ name ∈ Intake.takers.keys, Text.IsPlainLine (issue.shown name) := by
  obtain ⟨id, title, description, status, kind, priority, labels, assignee, createdAt, updatedAt,
    closedAt, dependsOn, blocks, children, parent⟩ := issue.shown_eq
  obtain ⟨named, texts, lists⟩ := plain
  have text (field : Option Text) (held : ∃ text, field = some text ∧ Text.IsPlainLine text) :
      Text.IsPlainLine (textOrEmpty field) := by
    obtain ⟨text, rfl, line⟩ := held
    exact line
  have list (field : Option (List Text)) (held : ∃ items, field = some items ∧ items ≠ [] ∧
      ∀ item ∈ items, Text.IsPlainLine item ∧ ',' ∉ item) :
      Text.IsPlainLine (Text.join ", " (itemsOrNone field)) := by
    obtain ⟨items, rfl, present, each⟩ := held
    exact isPlainLine_join present fun item held => (each item held).1
  simp only [List.forall_mem_cons] at named texts lists
  simp only [Entries.keys, Intake.takers, List.map_cons, List.map_nil, List.forall_mem_cons]
  refine ⟨id ▸ named.1, title ▸ named.2.1, description ▸ text _ texts.1, ?_, ?_, ?_,
    labels ▸ list _ lists.1, assignee ▸ text _ texts.2.1, createdAt ▸ text _ texts.2.2.1,
    updatedAt ▸ text _ texts.2.2.2.1, closedAt ▸ text _ texts.2.2.2.2.1,
    dependsOn ▸ list _ lists.2.1, blocks ▸ list _ lists.2.2.1, children ▸ list _ lists.2.2.2.1,
    parent ▸ text _ texts.2.2.2.2.2.1, by simp⟩
  · rw [status]
    cases issue.status <;> exact ⟨by decide, by decide, by decide⟩
  · rw [kind]
    cases issue.kind <;> exact ⟨by decide, by decide, by decide⟩
  · have each : ∀ priority : Priority, Text.IsPlainLine (Text.ofInt priority.val) := by decide
    rw [priority]
    exact each issue.priority

/-- The fields of a valid issue show more than white space, but perhaps the title. -/
theorem solid_shown (valid : issue.IsValid) (plain : issue.IsPlain) :
    ∀ name ∈ Intake.takers.keys, name ≠ "title" → ¬ Text.isAllBlank (issue.shown name) := by
  obtain ⟨id, title, description, status, kind, priority, labels, assignee, createdAt, updatedAt,
    closedAt, dependsOn, blocks, children, parent⟩ := issue.shown_eq
  obtain ⟨-, texts, lists⟩ := plain
  have text (field : Option Text) (kept : SaysSomething field)
      (held : ∃ text, field = some text ∧ Text.IsPlainLine text) :
      ¬ Text.isAllBlank (textOrEmpty field) := by
    obtain ⟨text, rfl, -⟩ := held
    simp [textOrEmpty, kept text rfl]
  have list (field : Option (List Text)) (clean : HasCleanItems field)
      (held : ∃ items, field = some items ∧ items ≠ [] ∧
        ∀ item ∈ items, Text.IsPlainLine item ∧ ',' ∉ item) :
      ¬ Text.isAllBlank (Text.join ", " (itemsOrNone field)) := by
    obtain ⟨items, rfl, present, -⟩ := held
    exact (Text.isClean_join ", " present clean).solid
  simp only [List.forall_mem_cons] at texts lists
  simp only [Entries.keys, Intake.takers, List.map_cons, List.map_nil, List.forall_mem_cons]
  refine ⟨fun _ => id ▸ valid.id.solid, fun other => absurd rfl other,
    fun _ => description ▸ text _ valid.description texts.1, fun _ => ?_, fun _ => ?_, fun _ => ?_,
    fun _ => labels ▸ list _ valid.labels lists.1,
    fun _ => assignee ▸ text _ valid.assignee texts.2.1,
    fun _ => createdAt ▸ text _ valid.createdAt texts.2.2.1,
    fun _ => updatedAt ▸ text _ valid.updatedAt texts.2.2.2.1,
    fun _ => closedAt ▸ text _ valid.closedAt texts.2.2.2.2.1,
    fun _ => dependsOn ▸ list _ valid.dependsOn lists.2.1,
    fun _ => blocks ▸ list _ valid.blocks lists.2.2.1,
    fun _ => children ▸ list _ valid.children lists.2.2.2.1,
    fun _ => parent ▸ text _ valid.parent texts.2.2.2.2.2.1, by simp⟩
  · rw [status]
    cases issue.status <;> decide
  · rw [kind]
    cases issue.kind <;> decide
  · have each : ∀ priority : Priority, ¬ Text.isAllBlank (Text.ofInt priority.val) := by decide
    rw [priority]
    exact each issue.priority

/-- A plain text stays apart from the literal behind a safe slot. -/
theorem staysApart_of_plain (safe : slot.IsSafe) (plain : '\n' ∉ value ∧ '`' ∉ value) :
    Anchor.StaysApart value slot.next := by
  unfold Slot.IsSafe at safe
  split_ifs at safe with opens
  · exact Anchor.staysApart_of_single opens plain.1
  · unfold Anchor.StaysApart
    rw [if_neg opens]
    split
    · rename_i gone
      rw [gone] at safe
      cases safe.2
    · rename_i first body line
      rw [line] at safe
      obtain rfl := Option.some.inj safe.2
      exact ⟨by decide, plain.2⟩

end Issue

/-! ## Rows of plain texts -/

namespace Slot

variable {before : Text} {slot : Slot} {front back last : List Slot}

/-- A slot behind a literal that ends a line stands alone. -/
theorem mem_alone (lone : '\n' ∈ Anchor.blankEnd (lastNext before front)) (slot : Slot)
    (back : List Slot) : slot ∈ alone before (front ++ slot :: back) := by
  induction front generalizing before with
  | nil =>
      have lone : '\n' ∈ Anchor.blankEnd before := lone
      rw [List.nil_append, alone, if_pos lone]
      exact List.mem_cons_self
  | cons other front inductionHypothesis =>
      have later := inductionHypothesis lone
      rw [List.cons_append, alone]
      split_ifs
      · exact List.mem_cons_of_mem _ later
      · exact later

/-- Whether every slot that stands alone on its line strands the one behind it when it is blank;
`last` are the slots at the end, which are not asked. -/
def strandsEach (before : Text) (last : List Slot) : List Slot → Bool
  | [] => true
  | slot :: slots =>
    ('\n' ∉ Anchor.blankEnd before || strands before slot (slots ++ last)) &&
      strandsEach slot.next last slots

/-- Such a slot is stranded when all are. -/
theorem strands_of_each (each : strandsEach before last (front ++ slot :: back))
    (lone : '\n' ∈ Anchor.blankEnd (lastNext before front)) :
    strands (lastNext before front) slot (back ++ last) := by
  induction front generalizing before with
  | nil =>
      rw [List.nil_append, strandsEach, Bool.and_eq_true] at each
      have lone : '\n' ∈ Anchor.blankEnd before := lone
      exact (Bool.or_eq_true _ _ ▸ each.1).resolve_left (by simpa using lone)
  | cons other front inductionHypothesis =>
      rw [List.cons_append, strandsEach, Bool.and_eq_true] at each
      exact inductionHypothesis each.2 lone

end Slot

namespace Layout

open Issue

/-- The end of a layout: one slot, or the relations. Every slot in front of it that stands alone
strands the one behind it when it is blank. -/
inductive Ends (layout : Layout) : Prop
  /-- The end is one slot. -/
  | single (front : List Slot) (last : Slot) (split : layout.slots = front ++ [last])
      (each : strandsEach layout.first [last] front)
  /-- The end are the relations. -/
  | related (front : List Slot) (split : layout.slots = front ++ relations)
      (behind : lastNext layout.first front = relationsLiteral)
      (each : strandsEach layout.first relations front)

/-- In the presets all slots that stand alone are stranded. -/
theorem strandsEach_presets :
    strandsEach minimal.first [minimal.slots[1]] (minimal.slots.take 1) ∧
    strandsEach detailed.first relations (detailed.slots.take 25) ∧
    strandsEach github.first [github.slots[8]] (github.slots.take 8) ∧
    strandsEach linear.first [linear.slots[13]] (linear.slots.take 13) := by
  unfold minimal detailed github linear relations dependsOnSlot blocksSlot childrenSlot blocksLine
    childrenLine slot
  repeat rw [String.toList_ofList]
  decide +kernel

/-- Every preset has its ends. -/
theorem ends_of_mem {name : Text} {layout : Layout} (known : (name, layout) ∈ table) :
    layout.Ends := by
  obtain ⟨ofMinimal, ofDetailed, ofGithub, ofLinear⟩ := strandsEach_presets
  obtain ⟨-, -, -, behind, rest, -⟩ := lines_detailed
  rcases cases_of_mem known with ⟨-, rfl⟩ | ⟨-, rfl⟩ | ⟨-, rfl⟩ | ⟨-, rfl⟩
  · exact .single _ _ rfl ofMinimal
  · exact .related _ (by rw [← rest, List.take_append_drop]) behind ofDetailed
  · exact .single _ _ rfl ofGithub
  · exact .single _ _ rfl ofLinear

/-- No title stands alone, and the last slot of a preset ends it or does not stand alone. -/
theorem alone_of_mem : ∀ entry ∈ table,
    (∀ slot ∈ Slot.alone entry.2.first entry.2.slots, fieldName slot.path ≠ "title") ∧
    ∀ last ∈ entry.2.slots.getLast?, Text.isAllBlank last.next ∨
      last.IsSafe ∧ last ∉ Slot.alone entry.2.first entry.2.slots := by
  unfold table minimal detailed github linear slot
  repeat rw [String.toList_ofList]
  decide +kernel

end Layout

namespace Slot

/-- Slots filled with single lines that are not code, of which only titles may be blank. -/
structure ArePlain (row : List Filled) : Prop where
  /-- The texts are single lines that are not code. -/
  lines : ∀ filled ∈ row, '\n' ∉ filled.2 ∧ '`' ∉ filled.2
  /-- Only titles may be blank. -/
  solid : ∀ filled ∈ row, Text.isAllBlank filled.2 → fieldName filled.1.path = "title"

/-- Two rows are plain together if each of them is. -/
theorem arePlain_append {front back : List Filled} :
    ArePlain (front ++ back) ↔ ArePlain front ∧ ArePlain back :=
  ⟨fun plain =>
    ⟨⟨(List.forall_mem_append.mp plain.lines).1, (List.forall_mem_append.mp plain.solid).1⟩,
      ⟨(List.forall_mem_append.mp plain.lines).2, (List.forall_mem_append.mp plain.solid).2⟩⟩,
    fun ⟨front, back⟩ => ⟨List.forall_mem_append.mpr ⟨front.lines, back.lines⟩,
      List.forall_mem_append.mpr ⟨front.solid, back.solid⟩⟩⟩

end Slot

namespace Layout

open Issue

variable {name : Text} {layout : Layout} {slot : Slot} {front back : List Slot}
  {row : List Filled}

/-- The front of a row of plain texts is readable. -/
theorem areReadable_row (known : (name, layout) ∈ table)
    (slots : layout.slots = row.map Prod.fst ++ slot :: back) (plain : ArePlain row) :
    AreReadable layout.first row := by
  obtain ⟨noTitle, -⟩ := alone_of_mem _ known
  have fields := (isFieldSlot_of_mem _ known).2
  have safe := isSafe_of_split known slots
  dsimp only at noTitle fields
  refine areReadable_of_apart (fun filled held => ?_) (fun filled held => ?_)
    fun filled held blank lone => ?_
  · have field := fields filled.1 (slots ▸ List.mem_append_left _ (List.mem_map_of_mem held))
    exact ⟨field.plain, field.close⟩
  · exact staysApart_of_plain (safe _ (List.mem_map_of_mem held)) (plain.lines _ held)
  · refine noTitle _ ?_ (plain.solid _ held blank)
    rw [slots]
    exact alone_subset_append _ _ _ lone

/-- The last slot of a preset is readable with every plain line, unless it ends the document. -/
theorem ends_of_split (known : (name, layout) ∈ table) (split : layout.slots = front ++ [slot])
    {value : Text} (plain : '\n' ∉ value ∧ '`' ∉ value) : Text.isAllBlank slot.next ∨
      IsReadable (lastNext layout.first front) value slot.next := by
  have field := (isFieldSlot_of_mem _ known).2 slot (by simp [split])
  have ends := (alone_of_mem _ known).2 slot (by simp [split])
  refine ends.imp_right fun ⟨safe, apart⟩ => ⟨field.plain, staysApart_of_plain safe plain, ?_⟩
  refine whole_of_gap (fun lone => apart ?_) field.close value
  rw [split]
  exact mem_alone lone slot []

/-- A row of plain texts in the slots of a preset is read back whole. -/
theorem reading_row (known : (name, layout) ∈ table) (slots : layout.slots = row.map Prod.fst)
    (plain : ArePlain row) : reading layout.first row = row.map Filled.capture := by
  rcases List.eq_nil_or_concat' row with rfl | ⟨front, last, rfl⟩
  · rcases cases_of_mem known with ⟨-, rfl⟩ | ⟨-, rfl⟩ | ⟨-, rfl⟩ | ⟨-, rfl⟩ <;> cases slots
  · rw [List.map_append] at slots
    exact reading_concat (areReadable_row known slots (arePlain_append.mp plain).1) last
      (ends_of_split known slots (plain.lines last (by simp)))

end Layout

/-! ## Blank texts -/

namespace Issue

variable {issue : Issue} {name new : Text} {layout : Layout} {slot : Slot}
  {front back slots : List Slot}

/-- The slots of a plain issue are filled plainly. -/
theorem arePlain_filled (valid : issue.IsValid) (plain : issue.IsPlain)
    (fields : ∀ slot ∈ slots, IsFieldSlot slot) : ArePlain (issue.filled slots) := by
  constructor
  · intro filled held
    obtain ⟨listed, text⟩ := mem_filled held
    have line := isPlainLine_shown plain _ (fields _ listed).field.known
    rw [text]
    exact ⟨line.single, line.unmarked '`' (by decide)⟩
  · intro filled held blank
    obtain ⟨listed, text⟩ := mem_filled held
    rw [text] at blank
    by_contra other
    exact solid_shown valid plain _ (fields _ listed).field.known other blank

/-- A plain text is no text with a mark. -/
theorem shown_ne_of_marked (plain : issue.IsPlain) (known : name ∈ Intake.takers.keys)
    {line : Text} (marked : '*' ∈ line) : issue.shown name ≠ line :=
  fun same => (isPlainLine_shown plain name known).unmarked '*' (by decide) (same ▸ marked)

/-- The lists of related issues are trimmed lines. -/
theorem isTrimmedLine_related (valid : issue.IsValid) (plain : issue.IsPlain) :
    IsTrimmedLine (issue.shown "blocks") ∧ IsTrimmedLine (issue.shown "children") := by
  obtain ⟨-, -, -, -, -, -, -, -, -, -, -, -, blocks, children, -⟩ := issue.shown_eq
  have list {field : Option (List Text)} (clean : HasCleanItems field)
      (held : ∃ items, field = some items ∧ items ≠ [] ∧
        ∀ item ∈ items, Text.IsPlainLine item ∧ ',' ∉ item) :
      IsTrimmedLine (Text.join ", " (itemsOrNone field)) := by
    obtain ⟨items, rfl, -, each⟩ := held
    exact isTrimmedLine_join clean fun item listed =>
      ⟨(clean item listed).1, (each item listed).1.single⟩
  rw [blocks, children]
  exact ⟨list valid.blocks (plain.lists _ (by simp)), list valid.children (plain.lists _ (by simp))⟩

/-- A relation that is left blank is not found. -/
theorem missed_relation (valid : issue.IsValid) (plain : issue.IsPlain)
    (split : relations = front ++ slot :: back) (blank : Text.isAllBlank new) :
    ⟨slot.path, none⟩ ∈
      reading (lastNext relationsLiteral front) ((slot, new) :: issue.filled back) := by
  obtain ⟨blocksTidy, childrenTidy⟩ := isTrimmedLine_related valid plain
  have others : ∀ name ∈ (["blocks", "children"] : List Text), ∀ line ∈ [blocksLine, childrenLine],
      issue.shown name ≠ line := by
    intro name listed line marked
    refine shown_ne_of_marked plain ?_ ?_
    · revert name
      decide
    · revert line
      decide
  rcases front with _ | ⟨first, _ | ⟨second, _ | ⟨third, front⟩⟩⟩ <;>
    simp only [relations, List.cons_append, List.nil_append, List.cons.injEq] at split
  · obtain ⟨rfl, rfl⟩ := split
    have row : issue.filled [blocksSlot, childrenSlot] =
        [(blocksSlot, issue.shown "blocks"), (childrenSlot, issue.shown "children")] :=
      congrArg (List.drop 1) (filled_relations issue)
    have read := reading_relations blank (issue.shown "blocks") (issue.shown "children")
    rw [captures_relations blocksTidy childrenTidy (others _ (by simp) _ (by simp))
      (others _ (by simp) _ (by simp))] at read
    rw [row]
    exact read ▸ List.mem_cons_self
  · obtain ⟨rfl, rfl, rfl⟩ := split
    have row : issue.filled [childrenSlot] = [(childrenSlot, issue.shown "children")] :=
      congrArg (List.drop 2) (filled_relations issue)
    have read := reading_blocks blank (issue.shown "children")
    rw [row]
    exact read ▸ (captures_relationsEnd childrenTidy).2 (others _ (by simp) _ (by simp))
  · obtain ⟨rfl, rfl, rfl, rfl⟩ := split
    have read := reading_single (headingLiteral childrenLine) (childrenSlot, new) (.inl rfl)
    have lost : Filled.capture (childrenSlot, new) = ⟨childrenSlot.path, none⟩ := by
      simp [Filled.capture, textAt, (Text.trim_eq_nil_iff new).mpr blank]
    rw [lost] at read
    exact read ▸ List.mem_cons_self
  · simp at split

/-- A slot behind which others follow strands the next one or is one of the relations, if it
stands alone. -/
theorem strands_or_related (ends : layout.Ends) (split : layout.slots = front ++ slot :: back)
    (present : back ≠ []) (lone : '\n' ∈ Anchor.blankEnd (lastNext layout.first front)) :
    strands (lastNext layout.first front) slot back ∨
      ∃ earlier, relations = earlier ++ slot :: back ∧
        lastNext layout.first front = lastNext relationsLiteral earlier := by
  cases ends with
  | single body last whole each =>
      obtain ⟨inner, final, rfl⟩ := (List.eq_nil_or_concat' back).resolve_left present
      have same : front ++ slot :: inner ++ [final] = body ++ [last] := by
        rw [← whole, split, List.append_assoc, List.cons_append]
      obtain ⟨rfl, ending⟩ := List.append_inj' same rfl
      obtain ⟨rfl, -⟩ := List.cons.inj ending
      exact .inl (strands_of_each each lone)
  | related body whole behind each =>
      rcases List.append_eq_append_iff.mp (split.symm.trans whole) with
        ⟨_ | ⟨first, inner⟩, rfl, rest⟩ | ⟨earlier, rfl, rest⟩
      · rw [List.append_nil] at behind
        exact .inr ⟨[], rest.symm, behind⟩
      · obtain ⟨rfl, rfl⟩ := List.cons.inj rest
        exact .inl (strands_of_each each lone)
      · rw [lastNext, List.foldl_append]
        exact .inr ⟨earlier, rest, congrArg (fun before => lastNext before earlier) behind⟩

/-- A field that is left blank is not found. -/
theorem missed_of_blank (valid : issue.IsValid) (plain : issue.IsPlain)
    (known : (name, layout) ∈ Layout.table) (split : layout.slots = front ++ slot :: back)
    (line : '\n' ∉ new ∧ '`' ∉ new) (blank : Text.isAllBlank new) :
    ⟨slot.path, none⟩ ∈
      reading layout.first (issue.filled front ++ (slot, new) :: issue.filled back) := by
  have fields := (isFieldSlot_of_mem _ known).2
  dsimp only at fields
  rw [split, List.forall_mem_append, List.forall_mem_cons] at fields
  obtain ⟨fieldsFront, field, fieldsBack⟩ := fields
  have lost : Filled.capture (slot, new) = ⟨slot.path, none⟩ := by
    simp [Filled.capture, textAt, (Text.trim_eq_nil_iff new).mpr blank]
  have readable : AreReadable layout.first (issue.filled front) :=
    Layout.areReadable_row known (by rwa [map_fst_filled])
      (arePlain_filled valid plain fieldsFront)
  rw [reading_append readable (List.cons_ne_nil _ _), map_fst_filled]
  refine List.mem_append_right _ ?_
  by_cases empty : back = []
  · subst empty
    rw [filled, List.map_nil, reading_single _ (slot, new) (Layout.ends_of_split known split line),
      lost]
    exact List.mem_singleton_self _
  -- A literal that ends with a line feed takes the blank line in, and the slot is stranded.
  by_cases lone : '\n' ∈ Anchor.blankEnd (lastNext layout.first front)
  · rcases strands_or_related (Layout.ends_of_mem known) split empty lone with
      strands | ⟨earlier, rest, behind⟩
    · rw [← map_fst_filled issue back] at strands
      rw [reading_of_strands strands blank fun filled held =>
        ((arePlain_filled valid plain fieldsBack).lines filled held).1]
      exact List.mem_cons_self
    · rw [behind]
      exact missed_relation valid plain rest blank
  · have safe : slot.IsSafe := by
      refine Layout.isSafe_of_mem _ known slot ?_
      rw [split, List.dropLast_append_of_ne_nil (List.cons_ne_nil _ _),
        List.dropLast_cons_of_ne_nil empty]
      simp
    have here : AreReadable (lastNext layout.first front) [(slot, new)] :=
      ⟨⟨field.plain, staysApart_of_plain safe line, whole_of_gap lone field.close new⟩, trivial⟩
    have later : issue.filled back ≠ [] := by simpa [filled] using empty
    rw [← List.singleton_append, reading_append here later, List.map_singleton, lost]
    exact List.mem_append_left _ (List.mem_singleton_self _)

end Issue

/-! ## Documents with an edited slot -/

/-- Filling every slot makes the document of the row. -/
theorem Segment.fillEach_slots (row : List Filled) :
    Segment.fillEach (row.map Prod.snd) (row.flatMap fun filled => filled.1.segments) =
      Slot.document row := by
  induction row with
  | nil => rfl
  | cons filled row inductionHypothesis =>
      rw [List.map_cons, List.flatMap_cons, Slot.segments, List.cons_append, List.cons_append,
        List.nil_append, fillEach, fillEach, inductionHypothesis]
      simp [Slot.document, Filled.text]

/-- A layout filled with a row of texts. -/
theorem Layout.fillEach_segments {layout : Layout} {row : List Filled}
    (slots : layout.slots = row.map Prod.fst) :
    Segment.fillEach (row.map Prod.snd) layout.segments = layout.document row := by
  rw [Layout.segments, slots, List.flatMap_map, Segment.fillEach, Segment.fillEach_slots]
  rfl

namespace Extraction

variable {issue : Issue} {name new : Text} {slot : Slot} {front : List Slot}
  {found : List (Text × Option Text)}

/-- What is found of a slot that captures the text in its place. -/
def finding (filled : Filled) : Text × Option Text :=
  (fieldName filled.1.path, textAt true filled.2)

/-- What is captured of a row tells the row. -/
theorem eq_findings {row : List Filled} (captured : row.map Filled.capture = fieldCaptures found) :
    found = row.map finding := by
  have paths : (fieldCaptures found).map (fun capture => (fieldName capture.path, capture.found)) =
      found := by
    simp [fieldCaptures, Function.comp_def]
  rw [← paths, ← captured, List.map_map]
  rfl

/-- The first text is found in front, or else behind. -/
theorem firstText_append (front back : List (Text × Option Text)) (name : Text) :
    firstText (front ++ back) name = (firstText front name).or (firstText back name) :=
  List.findSome?_append

/-- The first text for a field of an issue is the one that is shown. -/
theorem firstText_filled (issue : Issue) (slots : List Slot) (name : Text) :
    firstText ((issue.filled slots).map finding) name =
      if name ∈ slots.map (fun slot => fieldName slot.path) then textAt true (issue.shown name)
      else none := by
  induction slots with
  | nil => rfl
  | cons slot slots inductionHypothesis =>
      rw [Issue.filled_cons, List.map_cons, finding, firstText_cons, inductionHypothesis]
      simp only [List.map_cons, List.mem_cons]
      by_cases same : fieldName slot.path = name
      · subst same
        simp only [if_true, true_or]
        split_ifs
        · exact Option.or_self
        · exact Option.or_none
      · rw [if_neg same, Option.none_or]
        simp only [Ne.symm same, false_or]

/-- The first text found for a field is that of an earlier slot, or else the edited one. -/
theorem firstText_edited (solid : ¬ Text.isAllBlank new) (back : List Filled) :
    firstText ((issue.filled front ++ (slot, new) :: back).map finding) (fieldName slot.path) =
      some (Text.trim (if fieldName slot.path ∈ front.map (fun slot => fieldName slot.path) ∧
        ¬ Text.isAllBlank (issue.shown (fieldName slot.path)) then
          issue.shown (fieldName slot.path) else new)) := by
  have present {text : Text} (solid : ¬ Text.isAllBlank text) :
      textAt true text = some (Text.trim text) := by
    simp [textAt, Text.trim_eq_nil_iff, solid]
  rw [List.map_append, List.map_cons, firstText_append, firstText_filled, firstText_cons, finding,
    if_pos rfl, present solid]
  by_cases earlier : fieldName slot.path ∈ front.map (fun slot => fieldName slot.path)
  · rw [if_pos earlier]
    by_cases blank : Text.isAllBlank (issue.shown (fieldName slot.path))
    · rw [if_neg (fun both => both.2 blank), textAt, (Text.trim_eq_nil_iff _).mpr blank]
      rfl
    · rw [if_pos ⟨earlier, blank⟩, present blank]
      rfl
  · rw [if_neg earlier, if_neg (fun both => earlier both.1)]
    rfl

end Extraction

namespace Template

variable {issue : Issue}

/-- The texts that an issue shows in the slots of a template. -/
def shownTexts (template : Text) (issue : Issue) : List Text :=
  (Segment.paths (Segment.ofTemplate (withoutDirectives template))).map fun path =>
    issue.shown (fieldName path)

/-- The document of a template whose slots show texts in order. -/
def documentOf (template : Text) (texts : List Text) : Text :=
  Segment.fillEach texts (Segment.ofTemplate (withoutDirectives template))

/-- The text that is taken for a field when the slot at an index, which is one of the field, shows
another text: an earlier slot of the field that is not blank comes first. -/
def takenText (template : Text) (issue : Issue) (index : Nat) (path new : Text) : Text :=
  let earlier := (Segment.paths (Segment.ofTemplate (withoutDirectives template))).take index
  if earlier.any (fieldName · = fieldName path) ∧
      ¬ Text.isAllBlank (issue.shown (fieldName path)) then
    issue.shown (fieldName path)
  else new

variable {template new : Text} {layout : Layout} {slot : Slot} {front back : List Slot}

/-- The paths of a template are those of its layout. -/
theorem paths_segments
    (segments : Segment.ofTemplate (withoutDirectives template) = layout.segments) :
    Segment.paths (Segment.ofTemplate (withoutDirectives template)) =
      layout.slots.map Slot.path := by
  rw [segments, Layout.segments, Segment.paths_cons_literal, Segment.paths_slots]

/-- The texts that are shown are those of the layout's slots. -/
theorem shownTexts_eq (segments : Segment.ofTemplate (withoutDirectives template) = layout.segments)
    (issue : Issue) : shownTexts template issue = (issue.filled layout.slots).map Prod.snd := by
  rw [shownTexts, paths_segments segments, Issue.filled, List.map_map, List.map_map]
  rfl

/-- The document with another text in one slot is that of the row with that text. -/
theorem documentOf_set
    (segments : Segment.ofTemplate (withoutDirectives template) = layout.segments)
    (split : layout.slots = front ++ slot :: back) (issue : Issue) (new : Text) :
    documentOf template ((shownTexts template issue).set front.length new) =
      layout.document (issue.filled front ++ (slot, new) :: issue.filled back) := by
  have length : ((issue.filled front).map Prod.snd).length = front.length := by simp [Issue.filled]
  have texts : (shownTexts template issue).set front.length new =
      (issue.filled front ++ (slot, new) :: issue.filled back).map Prod.snd := by
    rw [shownTexts_eq segments, split, Issue.filled_append, Issue.filled_cons, List.map_append,
      ← length, List.set_append_right _ _ le_rfl, Nat.sub_self, List.map_append]
    rfl
  rw [documentOf, texts, segments, Layout.fillEach_segments]
  simp [split]

/-- A document of a preset with an edited slot is read as the row with the edited text. -/
theorem captures_edited {name : Text} (known : (name, layout) ∈ Layout.table)
    (segments : Segment.ofTemplate (withoutDirectives template) = layout.segments)
    (split : layout.slots = front ++ slot :: back) (issue : Issue) (new : Text) :
    captures true (documentOf template ((shownTexts template issue).set front.length new))
        (dropBlankEnd (Segment.ofTemplate (withoutDirectives template))) =
      reading layout.first (issue.filled front ++ (slot, new) :: issue.filled back) := by
  rw [documentOf_set segments split, segments]
  exact Layout.captures_document (isFieldSlot_of_mem _ known).1 (by simp [split]) (by simp)

/-- The text that is taken is that of the first slot of the field, unless it is blank. -/
theorem takenText_eq (segments : Segment.ofTemplate (withoutDirectives template) = layout.segments)
    (split : layout.slots = front ++ slot :: back) (issue : Issue) (new : Text) :
    takenText template issue front.length slot.path new =
      if fieldName slot.path ∈ front.map (fun slot => fieldName slot.path) ∧
        ¬ Text.isAllBlank (issue.shown (fieldName slot.path)) then
          issue.shown (fieldName slot.path) else new := by
  have earlier : (Segment.paths (Segment.ofTemplate (withoutDirectives template))).take
      front.length = front.map Slot.path := by
    rw [paths_segments segments, split, ← List.map_take, List.take_left' rfl]
  have listed : (front.map Slot.path).any (fieldName · = fieldName slot.path) ↔
      fieldName slot.path ∈ front.map fun slot => fieldName slot.path := by
    simp
  rw [takenText, earlier]
  exact if_congr (and_congr_left fun _ => listed) rfl rfl

/-- What is taken is more than white space when the edited text is. -/
theorem solid_takenText (template : Text) (issue : Issue) (index : Nat) (path : Text)
    (solid : ¬ Text.isAllBlank new) :
    ¬ Text.isAllBlank (Text.trim (takenText template issue index path new)) := by
  rw [← Text.trim_eq_nil_iff, Text.trim_trim, Text.trim_eq_nil_iff, takenText]
  split_ifs with earlier
  · exact earlier.2
  · exact solid

/-- A text that is found for a field is taken in as if it stood in the record of the issue. -/
theorem exists_normal {name text : Text} (valid : issue.IsValid)
    (solid : ¬ Text.isAllBlank text) :
    ∃ normal, Intake.ofRecord (issue.toRecord.put name (.text text)) = .ok normal ∧
      ∀ taker ∈ Intake.takers, taker.1 = name →
        Finding.issueField normal name = taker.2 (some (.text text)) := by
  obtain ⟨normal, made, values⟩ := Intake.exists_ofRecord_put valid
    (.inl (.inr ⟨text, solid, rfl⟩)) fun _ _ impossible => nomatch impossible
  refine ⟨normal, made, fun taker listed same => ?_⟩
  rw [← same, values taker (List.mem_append_left _ listed), same, if_pos rfl]

/-- The row of a plain issue in which one slot shows another plain text that is not blank. -/
theorem arePlain_edited {name : Text} (valid : issue.IsValid) (plain : issue.IsPlain)
    (known : (name, layout) ∈ Layout.table) (split : layout.slots = front ++ slot :: back)
    (edit : Text.IsPlainLine new) (solid : ¬ Text.isAllBlank new) :
    Slot.ArePlain (issue.filled front ++ (slot, new) :: issue.filled back) := by
  have fields := (isFieldSlot_of_mem _ known).2
  dsimp only at fields
  rw [split, List.forall_mem_append, List.forall_mem_cons] at fields
  refine Slot.arePlain_append.mpr ⟨Issue.arePlain_filled valid plain fields.1, ?_⟩
  obtain ⟨lines, blanks⟩ := Issue.arePlain_filled valid plain fields.2.2
  exact ⟨List.forall_mem_cons.mpr ⟨⟨edit.single, edit.unmarked '`' (by decide)⟩, lines⟩,
    List.forall_mem_cons.mpr ⟨fun blank => absurd blank solid, blanks⟩⟩

/-- A document of a preset with a plain text that is not blank in one slot gives that text for its
field, or that of an earlier slot. -/
theorem exists_rebuild_edited {entry : Text × Text} (preset : entry ∈ Preset.issueTable)
    (valid : issue.IsValid) (plain : issue.IsPlain) (known : (entry.1, layout) ∈ Layout.table)
    (segments : Segment.ofTemplate (withoutDirectives entry.2) = layout.segments)
    (split : layout.slots = front ++ slot :: back) (edit : Text.IsPlainLine new)
    (solid : ¬ Text.isAllBlank new) :
    ∃ rebuilt,
      rebuild entry.2 (documentOf entry.2 ((shownTexts entry.2 issue).set front.length new)) issue =
        .ok (rebuilt, ofCaptures
          ((issue.filled front ++ (slot, new) :: issue.filled back).map Filled.capture)) ∧
      ∀ taker ∈ Intake.takers, taker.1 = fieldName slot.path →
        Finding.issueField rebuilt (fieldName slot.path) = taker.2 (some (.text (Text.trim
          (takenText entry.2 issue front.length slot.path new)))) := by
  obtain ⟨found, rebuilt, captured, made, values⟩ := exists_rebuild preset valid
    (documentOf entry.2 ((shownTexts entry.2 issue).set front.length new))
  rw [captures_edited known segments split, Layout.reading_row known (by simp [split])
    (arePlain_edited valid plain known split edit solid)] at captured
  refine ⟨rebuilt, captured ▸ made, fun taker listed named => ?_⟩
  obtain rfl := eq_findings captured
  have value := values taker listed
  rwa [named, firstText_edited solid, ← takenText_eq segments split] at value

/-- An edit of one slot of a plain document is taken for its field, or leaves the slot unmatched,
unless an earlier slot shows the field. -/
theorem edit_taken_or_unmatched (valid : issue.IsValid) (plain : issue.IsPlain) :
    ∀ entry ∈ Preset.issueTable, ∀ index path,
      (Segment.paths (Segment.ofTemplate (withoutDirectives entry.2)))[index]? = some path →
      ∀ new, Text.IsPlainLine new →
        renderIssue entry.2 issue = .ok (documentOf entry.2 (shownTexts entry.2 issue)) ∧
        ∃ rebuilt extraction,
          rebuild entry.2 (documentOf entry.2 ((shownTexts entry.2 issue).set index new)) issue =
            .ok (rebuilt, extraction) ∧
          if Text.isAllBlank new then path ∈ extraction.unmatched
          else ∃ normal,
            Intake.ofRecord (issue.toRecord.put (fieldName path)
              (.text (Text.trim (takenText entry.2 issue index path new)))) = .ok normal ∧
            Finding.issueField rebuilt (fieldName path) =
              Finding.issueField normal (fieldName path) := by
  intro entry preset index path shows new edit
  obtain ⟨layout, known, segments⟩ := Layout.exists_mem_table preset
  constructor
  · rw [renderIssue_eq_document preset segments issue, documentOf, shownTexts_eq segments, segments,
      Layout.fillEach_segments (by simp)]
  obtain ⟨front, slot, back, split, rfl, rfl⟩ : ∃ front slot back,
      layout.slots = front ++ slot :: back ∧ front.length = index ∧ slot.path = path := by
    rw [paths_segments segments, List.getElem?_map, Option.map_eq_some_iff] at shows
    obtain ⟨slot, present, rfl⟩ := shows
    obtain ⟨short, same⟩ := List.getElem?_eq_some_iff.mp present
    exact ⟨layout.slots.take index, slot, layout.slots.drop (index + 1),
      by rw [← same, List.getElem_cons_drop, List.take_append_drop], by simp [short.le], rfl⟩
  -- A blank text is missed by its own slot; any other is the first one found for its field.
  by_cases blank : Text.isAllBlank new
  · obtain ⟨found, rebuilt, captured, made, -⟩ := exists_rebuild preset valid
      (documentOf entry.2 ((shownTexts entry.2 issue).set front.length new))
    have missed := Issue.missed_of_blank valid plain known split
      ⟨edit.single, edit.unmarked '`' (by decide)⟩ blank
    rw [← captures_edited known segments split, captured] at missed
    refine ⟨rebuilt, _, made, ?_⟩
    rw [if_pos blank]
    exact List.mem_map_of_mem (List.mem_filter.mpr ⟨missed, rfl⟩)
  · obtain ⟨rebuilt, made, taken⟩ :=
      exists_rebuild_edited preset valid plain known segments split edit blank
    have field := (isFieldSlot_of_mem _ known).2 slot (by simp [split])
    obtain ⟨normal, normalized, value⟩ := exists_normal valid
      (solid_takenText entry.2 issue front.length slot.path blank)
    obtain ⟨taker, listed, named⟩ := List.mem_map.mp field.field.known
    refine ⟨rebuilt, _, made, ?_⟩
    rw [if_neg blank]
    exact ⟨normal, normalized,
      (taken taker listed named).trans (value taker listed named).symm⟩

/-- An issue that has every field. -/
def fullNote : Issue where
  id := "a-1"
  title := "T"
  description := some "D"
  status := .opened
  kind := .task
  priority := .standard
  labels := some ["x"]
  assignee := some "ann"
  createdAt := some "2026-01-01"
  updatedAt := some "2026-01-02"
  closedAt := some "2026-01-03"
  dependsOn := some ["b-1"]
  blocks := some ["b-2"]
  children := some ["b-3"]
  parent := some "b-4"
  source := some .file

/-- The note is valid. -/
theorem isValid_fullNote : fullNote.IsValid := by
  constructor <;> decide

/-- The note is plain. -/
theorem isPlain_fullNote : fullNote.IsPlain := by
  refine ⟨?_, ?_, ?_⟩ <;> simp only [List.forall_mem_cons]
  · exact ⟨by decide, by decide, by simp⟩
  · exact ⟨⟨_, rfl, by decide⟩, ⟨_, rfl, by decide⟩, ⟨_, rfl, by decide⟩,
      ⟨_, rfl, by decide⟩, ⟨_, rfl, by decide⟩, ⟨_, rfl, by decide⟩, by simp⟩
  · have items {item : Text} (plain : Text.IsPlainLine item ∧ ',' ∉ item) :
        ∃ items, some [item] = some items ∧ items ≠ [] ∧
          ∀ item ∈ items, Text.IsPlainLine item ∧ ',' ∉ item :=
      ⟨_, rfl, List.cons_ne_nil _ _, List.forall_mem_singleton.mpr plain⟩
    exact ⟨items ⟨by decide, by decide⟩, items ⟨by decide, by decide⟩,
      items ⟨by decide, by decide⟩, items ⟨by decide, by decide⟩, by simp⟩

/-- The title of that issue edited where it is shown first. -/
theorem fullNote_retitled : fullNote.IsValid ∧ fullNote.IsPlain ∧
    ∃ rebuilt extraction normal,
      rebuild Preset.detailed
        (documentOf Preset.detailed ((shownTexts Preset.detailed fullNote).set 1 "New")) fullNote =
          .ok (rebuilt, extraction) ∧
      Intake.ofRecord (fullNote.toRecord.put "title" (.text "New")) = .ok normal ∧
      Finding.issueField rebuilt "title" = Finding.issueField normal "title" := by
  have preset : (("detailed" : Text), Preset.detailed) ∈ Preset.issueTable := .tail _ (.head _)
  have shows : (Segment.paths (Segment.ofTemplate (withoutDirectives Preset.detailed)))[1]? =
      some (issuePath "title") := by
    rw [paths_segments Layout.ofTemplate_detailed]
    rfl
  obtain ⟨-, rebuilt, extraction, made, taken⟩ :=
    edit_taken_or_unmatched isValid_fullNote isPlain_fullNote _ preset 1 _ shows "New" (by decide)
  rw [if_neg (by decide), fieldName_issuePath] at taken
  obtain ⟨normal, normalized, same⟩ := taken
  have text : takenText Preset.detailed fullNote 1 (issuePath "title") "New" = "New" := by
    have first : ¬ [issuePath "id"].any (fieldName · = "title") := by
      simp
    rw [takenText, paths_segments Layout.ofTemplate_detailed, fieldName_issuePath]
    exact if_neg fun both => first both.1
  rw [text] at normalized
  exact ⟨isValid_fullNote, isPlain_fullNote, rebuilt, extraction, normal, made, normalized, same⟩

/-- What a slot shows that is not blank is matched. -/
theorem matched_of_solid {row : List Filled} {path : Text}
    (solid : ∀ filled ∈ row, filled.1.path = path → ¬ Text.isAllBlank filled.2) :
    path ∉ (ofCaptures (row.map Filled.capture)).unmatched := by
  intro missed
  obtain ⟨capture, held, same⟩ := List.mem_map.mp missed
  obtain ⟨held, none⟩ := List.mem_filter.mp held
  obtain ⟨filled, listed, rfl⟩ := List.mem_map.mp held
  have found : textAt true filled.2 = some (Text.trim filled.2) := by
    simp [textAt, Text.trim_eq_nil_iff, solid filled listed same]
  rw [Filled.capture, found] at none
  cases none

/-- The title of that issue edited in its heading, where it is shown again: the edit is dropped
and the slot is matched. -/
theorem fullNote_keeps_title : fullNote.IsValid ∧ fullNote.IsPlain ∧ Text.IsPlainLine "New" ∧
    (Segment.paths (Segment.ofTemplate (withoutDirectives Preset.detailed)))[14]? =
      some (issuePath "title") ∧
    ∃ rebuilt extraction,
      rebuild Preset.detailed
        (documentOf Preset.detailed ((shownTexts Preset.detailed fullNote).set 14 "New")) fullNote =
          .ok (rebuilt, extraction) ∧
      issuePath "title" ∉ extraction.unmatched ∧
      Finding.issueField rebuilt "title" = .text "T" ∧
      ∀ normal, Intake.ofRecord (fullNote.toRecord.put "title" (.text "New")) = .ok normal →
        Finding.issueField normal "title" = .text "New" := by
  have preset : (("detailed" : Text), Preset.detailed) ∈ Preset.issueTable := .tail _ (.head _)
  have known : (("detailed" : Text), Layout.detailed) ∈ Layout.table := .tail _ (.head _)
  have shows : (Segment.paths (Segment.ofTemplate (withoutDirectives Preset.detailed)))[14]? =
      some (issuePath "title") := by
    rw [paths_segments Layout.ofTemplate_detailed]
    rfl
  have split : Layout.detailed.slots = Layout.detailed.slots.take 14 ++
      Layout.detailed.slots[14] :: Layout.detailed.slots.drop 15 := rfl
  have edit : Text.IsPlainLine "New" := by decide
  obtain ⟨rebuilt, made, taken⟩ := exists_rebuild_edited preset isValid_fullNote isPlain_fullNote
    known Layout.ofTemplate_detailed split edit (by decide)
  have title : fieldName Layout.detailed.slots[14].path = "title" := fieldName_issuePath _
  refine ⟨isValid_fullNote, isPlain_fullNote, by decide, shows, rebuilt, _, made, ?_, ?_, ?_⟩
  · refine matched_of_solid fun filled held same => ?_
    have shown (slots : List Slot) (held : filled ∈ fullNote.filled slots) :
        ¬ Text.isAllBlank filled.2 := by
      rw [(Issue.mem_filled held).2, same, fieldName_issuePath]
      decide
    rcases List.mem_append.mp held with front | behind
    · exact shown _ front
    · rcases List.mem_cons.mp behind with rfl | back
      · decide
      · exact shown _ back
  · have text : takenText Preset.detailed fullNote (Layout.detailed.slots.take 14).length
        Layout.detailed.slots[14].path "New" = "T" := by
      have earlier : fieldName (issuePath "title") ∈
          (Layout.detailed.slots.take 14).map fun slot => fieldName slot.path :=
        .tail _ (.head _)
      have taken := takenText_eq Layout.ofTemplate_detailed split fullNote "New"
      exact taken.trans (if_pos ⟨earlier, by rw [title]; decide⟩)
    have value := taken _ (.tail _ (.head _)) title.symm
    dsimp only at value
    rw [title, text] at value
    exact value
  · intro normal made
    exact Intake.issueField_of_ofRecord made (by decide) _ (.tail _ (.head _))

end Template

end Issuebook
