import Issuebook.Proofs.Template.Layouts
import Issuebook.Proofs.Template.Misses
import Issuebook.Proofs.Template.Shown

/-!
# Documents of tidy issues

The fields of a tidy issue stay apart from the literals of the presets, so that slots read the
fields where no empty one stands alone on its line (`reads_reading`); one that does may strand
the slot behind it (`misses_reading`). What is read decides what comes back of the issue
(`exists_recovered`).
-/

namespace Issuebook

open Template Extraction

variable {issue base : Issue} {layout : Layout} {slots front back : List Slot} {slot : Slot}

/-! ## Documents of issues -/

namespace Issue

/-- Slots filled with the fields of an issue. -/
def filled (issue : Issue) (slots : List Slot) : List Slot.Filled :=
  slots.map fun slot => (slot, issue.shown (fieldName slot.path))

/-- The filled slots are the slots. -/
@[simp] theorem map_fst_filled (issue : Issue) (slots : List Slot) :
    (issue.filled slots).map Prod.fst = slots := by
  simp [filled, Function.comp_def]

/-- Two parts of a row are filled one behind the other. -/
theorem filled_append (issue : Issue) (front back : List Slot) :
    issue.filled (front ++ back) = issue.filled front ++ issue.filled back :=
  List.map_append

/-- The first slot is filled by what its field shows. -/
theorem filled_cons (issue : Issue) (slot : Slot) (slots : List Slot) :
    issue.filled (slot :: slots) =
      (slot, issue.shown (fieldName slot.path)) :: issue.filled slots :=
  rfl

/-- A filled slot has what its field shows. -/
theorem mem_filled {filled : Slot.Filled} (held : filled ∈ issue.filled slots) :
    filled.1 ∈ slots ∧ filled.2 = issue.shown (fieldName filled.1.path) := by
  obtain ⟨slot, present, rfl⟩ := List.mem_map.mp held
  exact ⟨present, rfl⟩

/-- What holds of the names of the fields holds slot by slot. -/
theorem forall_field (holds : Text → Prop) {names : List Text}
    (listed : slots.map (fun slot => fieldName slot.path) = names)
    (each : ∀ name ∈ names, holds name) : ∀ slot ∈ slots, holds (fieldName slot.path) :=
  fun _ held => each _ (listed ▸ List.mem_map_of_mem held)

end Issue

namespace Template

/-- A preset renders an issue as its layout filled with the fields. -/
theorem renderIssue_eq_document {entry : Text × Text} (preset : entry ∈ Preset.issueTable)
    (segments : Segment.ofTemplate (withoutDirectives entry.2) = layout.segments)
    (issue : Issue) :
    renderIssue entry.2 issue = .ok (layout.document (issue.filled layout.slots)) := by
  have shows : ∀ path ∈ Segment.paths (Segment.ofTemplate (withoutDirectives entry.2)),
      ((issueContext issue).at? path).map Value.slotText =
        .ok (issue.shown (fieldName path)) := by
    intro path held
    rw [(isFieldPath_of_preset preset path held).at? issue]
    rfl
  have rendered : renderIssue entry.2 issue = _ := render_eq_fill shows
  rw [segments, Layout.segments, Segment.fill_cons_literal, Segment.fill_slots] at rendered
  exact rendered

end Template

/-! ## Values that stay apart -/

/-- A slot whose field, in a tidy issue, stays apart from the literal behind it. -/
def Slot.IsSafe (slot : Slot) : Prop :=
  if '\n' ∈ slot.next.takeWhile Text.isBlank then
    fieldName slot.path = "description" →
      ∃ mark ∈ ['#', '-', '*'], (slot.next.dropWhile Text.isBlank).head? = some mark
  else
    fieldName slot.path ∈ (["status", "type", "priority"] : List Text) ∧
      slot.next.head? = some '`'

instance (slot : Slot) : Decidable slot.IsSafe :=
  inferInstanceAs (Decidable (if '\n' ∈ slot.next.takeWhile Text.isBlank then
    fieldName slot.path = "description" → _ else _))

/-- Every slot of a preset but the last is safe. -/
theorem Layout.isSafe_of_mem : ∀ entry ∈ table, ∀ slot ∈ entry.2.slots.dropLast, slot.IsSafe := by
  unfold table minimal detailed github linear Layout.slot
  repeat rw [String.toList_ofList]
  decide +kernel

namespace Issue

/-- What a field shows stays apart from the literal behind a safe slot. -/
theorem staysApart_shown (valid : issue.IsValid) (tidy : issue.IsTidy) (safe : slot.IsSafe)
    (field : IsFieldPath slot.path) :
    Anchor.StaysApart (issue.shown (fieldName slot.path)) slot.next := by
  unfold Slot.IsSafe at safe
  split_ifs at safe with opens
  · by_cases prose : fieldName slot.path = "description"
    · obtain ⟨mark, listed, begins⟩ := safe prose
      rw [prose]
      unfold Anchor.StaysApart
      rw [if_pos opens]
      split
      · rename_i gone
        rw [gone] at begins
        cases begins
      · rename_i first body line
        rw [line] at begins
        obtain rfl := Option.some.inj begins
        exact fun earlier later split => head?_of_prose tidy split listed
    · exact Anchor.staysApart_of_single opens
        (isTrimmedLine_shown valid tidy _ field.known prose).2
  · obtain ⟨code, begins⟩ := safe
    unfold Anchor.StaysApart
    rw [if_neg opens]
    split
    · rename_i gone
      rw [gone] at begins
      cases begins
    · rename_i first body line
      rw [line] at begins
      obtain rfl := Option.some.inj begins
      exact ⟨by decide, noCode_shown issue _ code⟩

/-! ## Captures that read the fields -/

/-- Every slot whose field shows something captured that text. -/
def Reads (issue : Issue) (captured : List Capture) : Prop :=
  ∀ capture ∈ captured, issue.shown (fieldName capture.path) ≠ [] →
    capture.found = some (issue.shown (fieldName capture.path))

/-- A slot whose field shows something captured nothing. -/
def Misses (issue : Issue) (captured : List Capture) : Prop :=
  ∃ capture ∈ captured, issue.shown (fieldName capture.path) ≠ [] ∧ capture.found = none

variable {first second captured : List Capture}

/-- An issue is read by two parts if each of them reads it. -/
theorem reads_append : issue.Reads (first ++ second) ↔ issue.Reads first ∧ issue.Reads second :=
  List.forall_mem_append

/-- A field that shows nothing need not be captured. -/
theorem reads_cons_of_empty {capture : Capture} (empty : issue.shown (fieldName capture.path) = [])
    (reads : issue.Reads captured) : issue.Reads (capture :: captured) :=
  List.forall_mem_cons.mpr ⟨fun shows => absurd empty shows, reads⟩

/-- A field that shows something and is not captured is missed. -/
theorem misses_of_mem {name : Text} (held : ⟨issuePath name, none⟩ ∈ captured)
    (shows : issue.shown name ≠ []) : issue.Misses captured :=
  ⟨_, held, by rwa [fieldName_issuePath], rfl⟩

/-- What is missed is missed with a capture in front. -/
theorem misses_cons (capture : Capture) (missed : issue.Misses captured) :
    issue.Misses (capture :: captured) := by
  obtain ⟨lost, held, shows⟩ := missed
  exact ⟨lost, List.mem_cons_of_mem _ held, shows⟩

/-- It is missed with several in front. -/
theorem Misses.append_left (missed : issue.Misses second) (first : List Capture) :
    issue.Misses (first ++ second) := by
  obtain ⟨capture, held, shows, none⟩ := missed
  exact ⟨capture, List.mem_append_right _ held, shows, none⟩

/-- What a field shows has no white space at its ends. -/
theorem isClean_shown (valid : issue.IsValid) (tidy : issue.IsTidy) {name : Text}
    (known : name ∈ Intake.takers.keys) (shows : issue.shown name ≠ []) :
    Text.IsClean (issue.shown name) :=
  ⟨trim_shown valid tidy name known, shows⟩

/-- It is blank only if it is nothing. -/
theorem isAllBlank_shown (valid : issue.IsValid) (tidy : issue.IsTidy) {name : Text}
    (known : name ∈ Intake.takers.keys) :
    Text.isAllBlank (issue.shown name) ↔ issue.shown name = [] := by
  rw [← Text.trim_eq_nil_iff, trim_shown valid tidy name known]

/-- Every field but the description shows one line. -/
theorem single_filled (valid : issue.IsValid) (tidy : issue.IsTidy)
    (fields : ∀ slot ∈ slots, IsFieldSlot slot)
    (lines : ∀ slot ∈ slots, fieldName slot.path ≠ "description") :
    ∀ filled ∈ issue.filled slots, '\n' ∉ filled.2 := by
  intro filled held
  obtain ⟨listed, text⟩ := mem_filled held
  rw [text]
  exact (isTrimmedLine_shown valid tidy _ (fields _ listed).field.known (lines _ listed)).2

/-- Slots are readable behind a literal when no field that shows nothing stands alone. -/
theorem areReadable_filled (valid : issue.IsValid) (tidy : issue.IsTidy) {before : Text}
    (fields : ∀ slot ∈ slots, IsFieldSlot slot) (safe : ∀ slot ∈ slots, slot.IsSafe)
    (shows : ∀ slot ∈ Slot.alone before slots, issue.shown (fieldName slot.path) ≠ []) :
    Slot.AreReadable before (issue.filled slots) := by
  refine Slot.areReadable_of_apart (fun filled held => ?_) (fun filled held => ?_)
    fun filled held blank lone => ?_
  · have slot := fields filled.1 (mem_filled held).1
    exact ⟨slot.plain, slot.close⟩
  · obtain ⟨listed, text⟩ := mem_filled held
    rw [text]
    exact staysApart_shown valid tidy (safe _ listed) (fields _ listed).field
  · obtain ⟨listed, text⟩ := mem_filled held
    rw [text, isAllBlank_shown valid tidy (fields _ listed).field.known] at blank
    rw [map_fst_filled] at lone
    exact shows filled.1 lone blank

/-- Slots that capture the texts in their places read the fields. -/
theorem reads_filled (valid : issue.IsValid) (tidy : issue.IsTidy)
    (fields : ∀ slot ∈ slots, IsFieldSlot slot) :
    issue.Reads ((issue.filled slots).map Slot.Filled.capture) := by
  intro capture held shows
  obtain ⟨filled, present, rfl⟩ := List.mem_map.mp held
  obtain ⟨slot, listed, rfl⟩ := List.mem_map.mp present
  have clean := isClean_shown valid tidy (fields slot listed).field.known shows
  change Extraction.textAt true _ = some (issue.shown (fieldName slot.path))
  simp [Extraction.textAt, clean.1, clean.2]

/-- Slots of which none shows anything are read, whatever they capture. -/
theorem reads_of_empty {before : Text}
    (empty : ∀ slot ∈ slots, issue.shown (fieldName slot.path) = []) :
    issue.Reads (Slot.reading before (issue.filled slots)) := by
  have paths : (Slot.reading before (issue.filled slots)).map Capture.path =
      slots.map Slot.path := by
    rw [Slot.reading, map_path_captures, paths_dropBlankEnd, filled, List.flatMap_map]
    exact Segment.paths_slots slots
  intro capture held shows
  obtain ⟨slot, listed, same⟩ := List.mem_map.mp (paths ▸ List.mem_map_of_mem held)
  exact absurd (same ▸ empty slot listed) shows

/-- Slots of which none that shows nothing stands alone are read back, whatever the last one
shows when white space alone is behind it. -/
theorem reads_reading (valid : issue.IsValid) (tidy : issue.IsTidy) {before : Text}
    (fields : ∀ other ∈ front ++ [slot], IsFieldSlot other) (safe : ∀ slot ∈ front, slot.IsSafe)
    (shows : ∀ slot ∈ Slot.alone before front, issue.shown (fieldName slot.path) ≠ [])
    (ends : Text.isAllBlank slot.next ∨
      slot.IsSafe ∧ '\n' ∉ Anchor.blankEnd (Slot.lastNext before front)) :
    issue.Reads (Slot.reading before (issue.filled (front ++ [slot]))) := by
  obtain ⟨fieldsFront, last⟩ := List.forall_mem_append.mp fields
  have last := last slot List.mem_cons_self
  have readable := areReadable_filled valid tidy fieldsFront safe shows
  have whole : issue.Reads _ := reads_filled valid tidy fields
  rw [filled_append, filled_cons] at whole ⊢
  have readEnds : Text.isAllBlank slot.next ∨
      Slot.IsReadable (Slot.lastNext before ((issue.filled front).map Prod.fst))
        (issue.shown (fieldName slot.path)) slot.next := by
    refine ends.imp_right fun ⟨safeLast, inLine⟩ => ⟨last.plain, ?_, ?_⟩
    · exact staysApart_shown valid tidy safeLast last.field
    · refine Slot.whole_of_gap ?_ last.close _
      rwa [map_fst_filled]
  have captured := Slot.reading_concat readable (slot, _) readEnds
  exact captured ▸ whole

/-- A field that shows nothing in a slot that stands alone strands the slot behind it. -/
theorem misses_reading (valid : issue.IsValid) (tidy : issue.IsTidy) {before : Text} {next : Slot}
    (fields : ∀ other ∈ front ++ slot :: next :: back, IsFieldSlot other)
    (safe : ∀ slot ∈ front, slot.IsSafe)
    (shows : ∀ slot ∈ Slot.alone before front, issue.shown (fieldName slot.path) ≠ [])
    (strands : Slot.strands (Slot.lastNext before front) slot (next :: back))
    (lines : ∀ slot ∈ next :: back, fieldName slot.path ≠ "description")
    (empty : issue.shown (fieldName slot.path) = [])
    (present : issue.shown (fieldName next.path) ≠ []) :
    issue.Misses (Slot.reading before (issue.filled (front ++ slot :: next :: back))) := by
  obtain ⟨fieldsFront, fieldsBack⟩ := List.forall_mem_append.mp fields
  have readable := areReadable_filled valid tidy fieldsFront safe shows
  have single := single_filled valid tidy (List.forall_mem_cons.mp fieldsBack).2 lines
  have blank : Text.isAllBlank (issue.shown (fieldName slot.path)) := by
    rw [empty]
    rfl
  rw [filled_append, filled_cons, Slot.reading_append readable (List.cons_ne_nil _ _),
    map_fst_filled]
  rw [← map_fst_filled issue (next :: back)] at strands
  rw [Slot.reading_of_strands strands blank single, filled_cons, List.flatMap_cons, Slot.segments,
    List.cons_append, Extraction.dropBlankEnd_cons _ (by simp)]
  obtain ⟨more, unknown⟩ := Extraction.captures_unknown _ next.path _
  rw [unknown]
  exact Misses.append_left ⟨_, List.mem_cons_of_mem _ List.mem_cons_self, present, rfl⟩ _

/-- An empty field that is stranded does no harm where the literal behind it is found again. -/
theorem reads_resumed (valid : issue.IsValid) (tidy : issue.IsTidy) {before : Text}
    {next last : Slot} {rest : List Slot}
    (fields : ∀ other ∈ front ++ slot :: next :: (rest ++ [last]), IsFieldSlot other)
    (safe : ∀ slot ∈ front ++ rest, slot.IsSafe)
    (shows : ∀ slot ∈ Slot.alone before front ++ Slot.alone next.next rest,
      issue.shown (fieldName slot.path) ≠ [])
    (strands : Slot.strands (Slot.lastNext before front) slot (next :: (rest ++ [last])))
    (lines : ∀ slot ∈ next :: (rest ++ [last]), fieldName slot.path ≠ "description")
    (resumes : Slot.resumes (slot.next.dropWhile Text.isBlank) next)
    (ends : Text.isAllBlank last.next ∨
      last.IsSafe ∧ '\n' ∉ Anchor.blankEnd (Slot.lastNext next.next rest))
    (empty : issue.shown (fieldName slot.path) = [])
    (emptyNext : issue.shown (fieldName next.path) = []) :
    issue.Reads
      (Slot.reading before (issue.filled (front ++ slot :: next :: (rest ++ [last])))) := by
  obtain ⟨fieldsFront, fieldsBack⟩ := List.forall_mem_append.mp fields
  obtain ⟨-, fieldsNext⟩ := List.forall_mem_cons.mp fieldsBack
  obtain ⟨nextField, fieldsRest⟩ := List.forall_mem_cons.mp fieldsNext
  obtain ⟨safeFront, safeRest⟩ := List.forall_mem_append.mp safe
  obtain ⟨showsFront, showsRest⟩ := List.forall_mem_append.mp shows
  have readable := areReadable_filled valid tidy fieldsFront safeFront showsFront
  have single := single_filled valid tidy fieldsNext lines
  have later := reads_reading valid tidy fieldsRest safeRest showsRest ends
  rw [← map_fst_filled issue (next :: _)] at strands
  rw [filled_append, filled_cons, Slot.reading_append readable (List.cons_ne_nil _ _),
    map_fst_filled, Slot.reading_of_strands strands (by rw [empty]; rfl) single, filled_cons,
    emptyNext, Slot.captures_of_resumes resumes nextField.plain
      (by simp [filled_append, filled_cons])]
  refine reads_append.mpr ⟨reads_filled valid tidy fieldsFront, ?_⟩
  exact reads_cons_of_empty empty (reads_cons_of_empty emptyNext later)

end Issue

namespace Template

/-- What a document gives back of the issue that it shows: every slot that shows something is
matched, and the rebuilt issue has the value of its field. -/
def IsRecovered (template : Text) (issue rebuilt : Issue) (extraction : Extraction) : Prop :=
  ∀ path ∈ Segment.paths (Segment.ofTemplate (withoutDirectives template)),
    ∀ value, (issueContext issue).at? path = .ok value → value.slotText ≠ [] →
      path ∉ extraction.unmatched ∧ (issueContext rebuilt).at? path = .ok value

/-- An issue is recovered exactly when its slots read its fields, if what they miss shows
something. -/
theorem exists_recovered {entry : Text × Text} (preset : entry ∈ Preset.issueTable)
    (valid : issue.IsValid) (tidy : issue.IsTidy) (validBase : base.IsValid) {kept : Prop}
    {document : Text}
    (reads : kept → issue.Reads (captures true document
      (dropBlankEnd (Segment.ofTemplate (withoutDirectives entry.2)))))
    (misses : ¬ kept → issue.Misses (captures true document
      (dropBlankEnd (Segment.ofTemplate (withoutDirectives entry.2))))) :
    ∃ rebuilt extraction, rebuild entry.2 document base = .ok (rebuilt, extraction) ∧
      (IsRecovered entry.2 issue rebuilt extraction ↔ kept) := by
  obtain ⟨found, rebuilt, captured, made, values⟩ := exists_rebuild preset validBase document
  rw [captured] at reads misses
  have listed : (fieldCaptures found).map Capture.path =
      Segment.paths (Segment.ofTemplate (withoutDirectives entry.2)) := by
    rw [← captured, map_path_captures, paths_dropBlankEnd]
  have fields := isFieldPath_of_preset preset
  -- A capture that is missed is told as unmatched; one that is read is taken up as it was shown.
  refine ⟨rebuilt, _, made, fun recovered => ?_, fun holds path held value known shows => ?_⟩
  · by_contra lost
    obtain ⟨capture, held, shows, none⟩ := misses lost
    have path : capture.path ∈ Segment.paths (Segment.ofTemplate (withoutDirectives entry.2)) := by
      rw [← listed]
      exact List.mem_map_of_mem held
    refine (recovered capture.path path _ ((fields _ path).at? issue) shows).1 ?_
    exact List.mem_map_of_mem (List.mem_filter.mpr ⟨held, by simp [none]⟩)
  · have field := fields path held
    obtain rfl : Finding.issueField issue (fieldName path) = value :=
      Except.ok.inj ((field.at? issue).symm.trans known)
    have reads := reads holds
    constructor
    · intro missed
      obtain ⟨capture, member, rfl⟩ := List.mem_map.mp missed
      obtain ⟨member, none⟩ := List.mem_filter.mp member
      rw [reads capture member shows] at none
      cases none
    · have first : firstText found (fieldName path) = some (issue.shown (fieldName path)) := by
        refine firstText_of_forall ?_ fun pair member same => ?_
        · rw [← listed] at held
          obtain ⟨capture, member, rfl⟩ := List.mem_map.mp held
          obtain ⟨pair, listedPair, rfl⟩ := List.mem_map.mp member
          simpa using ⟨pair.2, listedPair⟩
        · have read := reads _ (List.mem_map_of_mem member)
          simp only [fieldName_issuePath, same] at read
          exact read shows
      obtain ⟨taker, member, name⟩ := List.mem_map.mp field.known
      have value := values taker member
      rw [name, first] at value
      rw [field.at? rebuilt, value]
      have taken := Issue.take_shown valid tidy taker member
      rw [name] at taken
      exact congrArg _ (taken shows)

end Template

end Issuebook
