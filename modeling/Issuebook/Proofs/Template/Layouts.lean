import Issuebook.Proofs.Template.Captures
import Issuebook.Proofs.Template.Rebuilding
import Issuebook.Template.Preset

/-!
# Layouts of the presets

Every preset is one literal followed by slots of fields, each with a literal behind it
(`exists_mem_table`), so that the documents of a preset are read slot by slot
(`Layout.captures_document`) and rebuilt from the fields found (`exists_rebuild`).
-/

namespace Issuebook

/-- A template that is a literal and a row of slots behind it. -/
structure Layout where
  /-- The literal at the front. -/
  first : Text
  /-- The slots, each with the literal behind it. -/
  slots : List Slot
  deriving DecidableEq

namespace Layout

open Extraction Template

/-- The segments of a layout. -/
def segments (layout : Layout) : List Segment :=
  .literal layout.first :: layout.slots.flatMap Slot.segments

/-- The slots that stand alone on their lines. -/
def alone (layout : Layout) : List Slot :=
  Slot.alone layout.first layout.slots

/-- The document of a layout whose slots are filled as in a row. -/
def document (layout : Layout) (row : List Slot.Filled) : Text :=
  layout.first ++ Slot.document row

/-- The slot of a field. -/
def slot (field : String) (next : Text) : Slot :=
  ⟨issuePath field.toList, next⟩

/-- The layout of the minimal preset. -/
def minimal : Layout :=
  ⟨"# ", [slot "title" "\n\n", slot "description" "\n"]⟩

/-- The layout of the detailed preset. -/
def detailed : Layout where
  first := "---\nid: "
  slots :=
    [slot "id" "\ntitle: ", slot "title" "\nstate: ", slot "status" "\npriority: ",
      slot "priority" "\ntype: ", slot "type" "\nlabels: ", slot "labels" "\nassignee: ",
      slot "assignee" "\ncreatedAt: ", slot "createdAt" "\nupdatedAt: ",
      slot "updatedAt" "\nclosedAt: ", slot "closedAt" "\nparent: ",
      slot "parent" "\ndependsOn: ", slot "dependsOn" "\nblocks: ", slot "blocks" "\nchildren: ",
      slot "children" "\n---\n# ", slot "title" "\n\n",
      slot "description" "\n\n## Metadata\n\n- **ID:** ", slot "id" "\n- **Status:** ",
      slot "status" "\n- **Priority:** ", slot "priority" "\n- **Type:** ",
      slot "type" "\n- **Assignee:** ", slot "assignee" "\n- **Labels:** ",
      slot "labels" "\n\n## Timeline\n\n- **Created:** ", slot "createdAt" "\n- **Updated:** ",
      slot "updatedAt" "\n- **Closed:** ",
      slot "closedAt" "\n\n## Related Issues\n\n**Depends on:**\n",
      slot "dependsOn" "\n\n**Blocks:**\n", slot "blocks" "\n\n**Children:**\n",
      slot "children" "\n"]

/-- The layout of the preset with labels in a section of their own. -/
def github : Layout where
  first := "# "
  slots :=
    [slot "title" "\n\n", slot "description" "\n\n---\n\n## Labels\n\n",
      slot "labels" "\n\n## Metadata\n\n- **Status:** `", slot "status" "`\n- **Priority:** `",
      slot "priority" "`\n- **Type:** `", slot "type" "`\n- **Assignee:** @",
      slot "assignee" "\n\n## Related Issues\n\n**Depends on:** ",
      slot "dependsOn" "\n**Blocks:** ",
      slot "blocks" ("\n\n---\n\n## Comments\n\n" ++ "<!-- Discussion and activity go here -->\n")]

/-- The layout of the preset with details behind the description. -/
def linear : Layout where
  first := "# "
  slots :=
    [slot "title" "\n\n", slot "description" "\n\n## Details\n\n- **Status:** ",
      slot "status" "\n- **Priority:** ", slot "priority" "\n- **Type:** ",
      slot "type" "\n- **Assignee:** ", slot "assignee" "\n- **Labels:** ",
      slot "labels" "\n\n## Timeline\n\n- **Created:** ", slot "createdAt" "\n- **Updated:** ",
      slot "updatedAt" "\n- **Closed:** ",
      slot "closedAt" "\n\n## Related\n\n**Depends on:** ", slot "dependsOn" "\n**Blocks:** ",
      slot "blocks" "\n**Parent:** ", slot "parent" "\n**Children:** ", slot "children" "\n"]

/-- The layouts of the presets for issues by name. -/
def table : Entries Layout :=
  [("minimal", minimal), ("detailed", detailed), ("github", github), ("linear", linear)]

/-- The minimal preset has its layout. -/
theorem ofTemplate_minimal :
    Segment.ofTemplate (withoutDirectives Preset.minimal) = minimal.segments := by
  unfold Preset.minimal Preset.opening Preset.labelled Preset.issueSlot Preset.dashes
    Preset.patternLine minimal slot
  repeat rw [String.toList_ofList]
  decide +kernel

/-- So has the detailed one. -/
theorem ofTemplate_detailed :
    Segment.ofTemplate (withoutDirectives Preset.detailed) = detailed.segments := by
  unfold Preset.detailed Preset.opening Preset.labelled Preset.bullet Preset.timeline
    Preset.issueSlot Preset.dashes Preset.patternLine detailed slot
  repeat rw [String.toList_ofList]
  decide +kernel

/-- So has the one with labels in front. -/
theorem ofTemplate_github :
    Segment.ofTemplate (withoutDirectives Preset.github) = github.segments := by
  unfold Preset.github Preset.opening Preset.labelled Preset.codeBullet Preset.issueSlot
    Preset.dashes Preset.patternLine github slot
  repeat rw [String.toList_ofList]
  decide +kernel

/-- So has the one in a row. -/
theorem ofTemplate_linear :
    Segment.ofTemplate (withoutDirectives Preset.linear) = linear.segments := by
  unfold Preset.linear Preset.opening Preset.labelled Preset.bullet Preset.timeline
    Preset.issueSlot Preset.dashes Preset.patternLine linear slot
  repeat rw [String.toList_ofList]
  decide +kernel

/-- A preset is the text of its layout. -/
theorem exists_mem_table {entry : Text × Text} (preset : entry ∈ Preset.issueTable) :
    ∃ layout, (entry.1, layout) ∈ table ∧
      Segment.ofTemplate (withoutDirectives entry.2) = layout.segments := by
  simp only [Preset.issueTable, List.mem_cons, List.not_mem_nil, or_false] at preset
  rcases preset with rfl | rfl | rfl | rfl
  · exact ⟨minimal, .head _, ofTemplate_minimal⟩
  · exact ⟨detailed, .tail _ (.head _), ofTemplate_detailed⟩
  · exact ⟨github, .tail _ (.tail _ (.head _)), ofTemplate_github⟩
  · exact ⟨linear, .tail _ (.tail _ (.tail _ (.head _))), ofTemplate_linear⟩

/-- There are four presets. -/
theorem cases_of_mem {name : Text} {layout : Layout} (known : (name, layout) ∈ table) :
    name = "minimal" ∧ layout = minimal ∨ name = "detailed" ∧ layout = detailed ∨
      name = "github" ∧ layout = github ∨ name = "linear" ∧ layout = linear := by
  simpa only [table, List.mem_cons, Prod.mk.injEq, List.not_mem_nil, or_false] using known

/-- A document of a layout is read as its row of slots. -/
theorem captures_document {layout : Layout} {row : List Slot.Filled}
    (plain : Anchor.IsPlain layout.first)
    (slots : row.map Prod.fst = layout.slots) (present : row ≠ []) :
    captures true (layout.document row) (dropBlankEnd layout.segments) =
      Slot.reading layout.first row := by
  have segments_row : layout.segments =
      .literal layout.first :: row.flatMap fun filled => filled.1.segments := by
    rw [segments, ← slots, List.flatMap_map]
  have rest : row.flatMap (fun filled => filled.1.segments) ≠ [] := by
    obtain ⟨filled, later, rfl⟩ := List.exists_cons_of_ne_nil present
    simp [Slot.segments]
  rw [segments_row, dropBlankEnd_cons _ rest]
  exact Slot.captures_first plain _ _

end Layout

namespace Template

open Extraction Intake

variable {base : Issue}

/-- The name of the field that a path leads to. -/
def fieldName (path : Text) : Text :=
  path.drop (issueKey.length + 1)

/-- The field of a path is the one that the path was made for. -/
@[simp] theorem fieldName_issuePath (name : Text) : fieldName (issuePath name) = name := by
  simp [fieldName, issuePath]

/-- A path that leads to a field of the issue. -/
structure IsFieldPath (path : Text) : Prop where
  /-- It is the path of that field. -/
  leads : path = issuePath (fieldName path)
  /-- The field can be shown. -/
  known : fieldName path ∈ takers.keys
  /-- The name is one step. -/
  plain : '.' ∉ fieldName path

instance (path : Text) : Decidable (IsFieldPath path) :=
  decidable_of_iff (path = issuePath (fieldName path) ∧
    takers.keys.any (· = fieldName path) ∧ '.' ∉ fieldName path)
    ⟨fun held => ⟨held.1, by simpa using held.2.1, held.2.2⟩,
      fun held => ⟨held.1, by simpa using held.2, held.3⟩⟩

/-- The path of a field finds the field of the issue. -/
theorem IsFieldPath.at? {path : Text} (field : IsFieldPath path) (issue : Issue) :
    (issueContext issue).at? path = .ok (Finding.issueField issue (fieldName path)) :=
  (congrArg _ field.leads).trans (at?_issuePath field.plain issue)

/-- A slot of a field with plain white space, that does not begin with a gap, behind it. -/
structure IsFieldSlot (slot : Slot) : Prop where
  /-- It is the slot of a field. -/
  field : IsFieldPath slot.path
  /-- The white space is plain. -/
  plain : Anchor.IsPlain slot.next
  /-- There is no gap behind the slot. -/
  close : ¬ slot.next.head?.any Anchor.isGapChar

instance (slot : Slot) : Decidable (IsFieldSlot slot) :=
  decidable_of_iff (IsFieldPath slot.path ∧ Anchor.IsPlain slot.next ∧
    ¬ slot.next.head?.any Anchor.isGapChar) ⟨fun held => ⟨held.1, held.2.1, held.2.2⟩,
      fun held => ⟨held.1, held.2, held.3⟩⟩

/-- Every slot of a preset is that of a field, and its first literal is plain. -/
theorem isFieldSlot_of_mem : ∀ entry ∈ Layout.table, Anchor.IsPlain entry.2.first ∧
    ∀ slot ∈ entry.2.slots, IsFieldSlot slot := by
  unfold Layout.table Layout.minimal Layout.detailed Layout.github Layout.linear Layout.slot
  repeat rw [String.toList_ofList]
  decide +kernel

/-- The slots of a preset are the slots of its layout, which are slots of fields. -/
theorem isFieldPath_of_preset {entry : Text × Text} (preset : entry ∈ Preset.issueTable) :
    ∀ path ∈ Segment.paths (Segment.ofTemplate (withoutDirectives entry.2)),
      IsFieldPath path := by
  obtain ⟨layout, present, segments⟩ := Layout.exists_mem_table preset
  rw [segments, Layout.segments, Segment.paths_cons_literal, Segment.paths_slots]
  exact List.forall_mem_map.mpr fun slot held =>
    ((isFieldSlot_of_mem _ present).2 slot held).field

/-- Every document is rebuilt by a preset, from what its slots captured. -/
theorem exists_rebuild {entry : Text × Text} (preset : entry ∈ Preset.issueTable)
    (valid : base.IsValid) (document : Text) :
    ∃ found rebuilt,
      captures true document
        (dropBlankEnd (Segment.ofTemplate (withoutDirectives entry.2))) = fieldCaptures found ∧
      rebuild entry.2 document base = .ok (rebuilt, ofCaptures (fieldCaptures found)) ∧
      ∀ taker ∈ takers, Finding.issueField rebuilt taker.1 =
        taker.2 (((firstText found taker.1).map .text).or (base.toRecord.get? taker.1)) := by
  have fields := isFieldPath_of_preset preset
  obtain ⟨rebuilt, made, values⟩ := exists_rebuilt valid
    (fun path held => ⟨fieldName path, List.map_subset _ (List.subset_append_left _ _)
      (fields path held).known, (fields path held).leads⟩) document
  have read : capturesOf entry.2 document = fieldCaptures ((capturesOf entry.2 document).map
      fun capture => (fieldName capture.path, capture.found)) := by
    rw [fieldCaptures, List.map_map]
    refine (List.map_id _).symm.trans (List.map_congr_left fun capture held => ?_)
    have path := map_path_capturesOf entry.2 document ▸ List.mem_map_of_mem held
    exact congrArg (Capture.mk · capture.found) (fields _ path).leads
  refine ⟨_, rebuilt, read, ?_, fun taker listed => ?_⟩
  · rw [made, ← read]
    rfl
  · rw [values taker (List.mem_append_left _ listed), ← firstFound_fieldCaptures, ← read]

end Template

end Issuebook
