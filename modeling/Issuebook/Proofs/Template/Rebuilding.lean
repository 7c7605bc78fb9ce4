import Issuebook.Proofs.Fault
import Issuebook.Proofs.Issue.Fields
import Issuebook.Proofs.Template.Data
import Issuebook.Proofs.Template.RoundTrip
import Issuebook.Proofs.Value.Merging
import Issuebook.Template.Rebuilding

/-!
# Rebuilt issues

The record from which a document rebuilds an issue: under the name of a field it has a record where
a text was found below the field (`LeadsInto`), else the first text found for the field, and else
the old value (`get?_of_not_leadsInto`). Intake makes an issue of that record
(`rebuild_eq_ofRecord`), and does so for every document when all slots are slots of fields
(`exists_rebuilt`).
-/

namespace Issuebook

variable {name text template document : Text} {issue base : Issue} {captured : List Capture}
  {found : List (Text × Option Text)}

namespace Template

open Extraction

/-- The path of a field of the issue. -/
def issuePath (name : Text) : Text :=
  issueKey ++ '.' :: name

/-- The path of a field leads into the issue and to the field. -/
theorem splitOn_issuePath (plain : '.' ∉ name) :
    Text.splitOn '.' (issuePath name) = [issueKey, name] := by
  rw [issuePath, Text.splitOn_append (by decide), Text.splitOn_of_absent plain]

/-- A path is that of one field. -/
theorem issuePath_inj {other : Text} : issuePath name = issuePath other ↔ name = other := by
  rw [issuePath, issuePath, List.append_cancel_left_eq, List.cons.injEq, and_iff_right rfl]

/-- No name of a field has a dot. -/
theorem plain_of_known : ∀ name ∈ Intake.allTakers.keys, '.' ∉ name := by
  decide +kernel

/-- The path of a field leads to its value. -/
theorem at?_issuePath (plain : '.' ∉ name) (issue : Issue) :
    (issueContext issue).at? (issuePath name) = .ok (Finding.issueField issue name) := by
  rw [Value.at?, splitOn_issuePath plain]
  rfl

/-- What the slots of a template capture in a document. -/
def capturesOf (template document : Text) : List Capture :=
  captures true document (dropBlankEnd (Segment.ofTemplate (withoutDirectives template)))

/-- What is captured has the paths of the template. -/
theorem map_path_capturesOf (template document : Text) :
    (capturesOf template document).map Capture.path =
      Segment.paths (Segment.ofTemplate (withoutDirectives template)) := by
  rw [capturesOf, map_path_captures, paths_dropBlankEnd]

end Template

namespace Extraction

open Template

/-! ## What was found for fields -/

/-- The first text found for a field. -/
def firstFound (captured : List Capture) (name : Text) : Option Text :=
  captured.findSome? fun capture => if capture.path = issuePath name then capture.found else none

/-- A text was found below the name of a field. -/
def LeadsInto (captured : List Capture) (name : Text) : Prop :=
  ∃ capture ∈ captured, capture.found.isSome ∧ issuePath name ++ ['.'] <+: capture.path

instance (captured : List Capture) (name : Text) : Decidable (LeadsInto captured name) :=
  inferInstanceAs (Decidable (∃ capture ∈ captured, _))

/-- The texts found below the name of the issue. -/
def issueFinds (captured : List Capture) : List (List Text × Text) :=
  below issueKey (finds captured)

/-- A path leads below a field exactly when names follow the name of the field. -/
theorem prefix_iff_splitOn {path : Text} (plain : '.' ∉ name) :
    issuePath name ++ ['.'] <+: path ↔
      ∃ rest, rest ≠ [] ∧ Text.splitOn '.' path = issueKey :: name :: rest := by
  constructor
  · rintro ⟨deeper, rfl⟩
    refine ⟨Text.splitOn '.' deeper, ?_, ?_⟩
    · obtain ⟨first, more, shape, -⟩ := Text.splitOn_shape '.' deeper
      rw [shape]
      exact List.cons_ne_nil _ _
    · have shape :
          issuePath name ++ ['.'] ++ deeper = issueKey ++ '.' :: (name ++ '.' :: deeper) := by
        simp [issuePath]
      rw [shape, Text.splitOn_append (by decide), Text.splitOn_append plain]
  · rintro ⟨rest, present, split⟩
    obtain ⟨first, more, shape, whole⟩ := Text.splitOn_shape '.' path
    rw [split] at shape
    obtain ⟨rfl, rfl⟩ := List.cons.inj shape
    obtain ⟨next, later, rfl⟩ := List.exists_cons_of_ne_nil present
    exact ⟨next ++ later.flatMap ('.' :: ·), by simp [whole, issuePath]⟩

/-- Something is found below a field exactly when a capture leads into it. -/
theorem below_issueFinds (plain : '.' ∉ name) :
    below name (issueFinds captured) ≠ [] ↔ LeadsInto captured name := by
  constructor
  · intro nonempty
    obtain ⟨⟨rest, text⟩, listed⟩ := List.exists_mem_of_ne_nil _ nonempty
    obtain ⟨present, listed⟩ := mem_below.mp listed
    obtain ⟨-, listed⟩ := mem_below.mp listed
    obtain ⟨path, listed, split⟩ := mem_finds.mp listed
    exact ⟨_, listed, rfl, (prefix_iff_splitOn plain).mpr ⟨rest, present, split⟩⟩
  · rintro ⟨⟨path, held⟩, listed, shows, leads⟩
    obtain ⟨text, rfl⟩ := Option.isSome_iff_exists.mp shows
    obtain ⟨rest, present, split⟩ := (prefix_iff_splitOn plain).mp leads
    exact List.ne_nil_of_mem (mem_below.mpr ⟨present,
      mem_below.mpr ⟨List.cons_ne_nil _ _, mem_finds.mpr ⟨path, listed, split⟩⟩⟩)

/-- The first text found at a field is the first one captured for it. -/
theorem firstAt_issueFinds (plain : '.' ∉ name) (captured : List Capture) :
    firstAt name (issueFinds captured) = firstFound captured name :=
  calc firstAt name (issueFinds captured)
    _ = firstAlong [name] (below issueKey (finds captured)) := rfl
    _ = firstAlong (Text.splitOn '.' (issuePath name)) (finds captured) := by
        rw [firstAlong_below (List.cons_ne_nil _ _), splitOn_issuePath plain]
    _ = firstFound captured name := firstAlong_finds _ captured

/-- Slots of fields lead into no field. -/
theorem not_leadsInto
    (fields : ∀ capture ∈ captured, ∃ own, '.' ∉ own ∧ capture.path = issuePath own) (name : Text) :
    ¬ LeadsInto captured name := by
  rintro ⟨capture, listed, -, deeper, whole⟩
  obtain ⟨own, plain, path⟩ := fields capture listed
  have same : name ++ '.' :: deeper = own := by
    simpa [issuePath] using whole.trans path
  exact plain (same ▸ by simp)

/-! ## Captures of fields -/

/-- What the slots of fields captured. -/
def fieldCaptures (found : List (Text × Option Text)) : List Capture :=
  found.map fun entry => ⟨issuePath entry.1, entry.2⟩

/-- The first text found for a field. -/
def firstText (found : List (Text × Option Text)) (name : Text) : Option Text :=
  found.findSome? fun entry => if entry.1 = name then entry.2 else none

/-- The first text for a name, the first entry first. -/
theorem firstText_cons (key : Text) (text : Option Text) (found : List (Text × Option Text))
    (name : Text) : firstText ((key, text) :: found) name =
      (if key = name then text else none).or (firstText found name) := by
  rw [firstText, List.findSome?_cons]
  cases (if key = name then text else none) <;> rfl

/-- Where all texts for a name are the same, that is the first. -/
theorem firstText_of_forall {name text : Text} {found : List (Text × Option Text)}
    (listed : name ∈ found.map Prod.fst)
    (each : ∀ entry ∈ found, entry.1 = name → entry.2 = some text) :
    firstText found name = some text := by
  induction found with
  | nil => cases listed
  | cons entry found inductionHypothesis =>
      obtain ⟨key, held⟩ := entry
      obtain ⟨here, each⟩ := List.forall_mem_cons.mp each
      rw [firstText_cons]
      split_ifs with same
      · obtain rfl : held = some text := here same
        rfl
      · rw [Option.none_or]
        exact inductionHypothesis ((List.mem_cons.mp listed).resolve_left (Ne.symm same)) each

/-- The first text captured for a field is the first one found. -/
theorem firstFound_fieldCaptures (found : List (Text × Option Text)) (name : Text) :
    firstFound (fieldCaptures found) name = firstText found name := by
  rw [firstFound, fieldCaptures, List.findSome?_map, firstText]
  exact congrArg (List.findSome? · found) (funext fun entry => if_congr issuePath_inj rfl rfl)

/-! ## The merged record -/

/-- The record of an issue with what was found merged in. -/
def mergedRecord (captured : List Capture) (base : Issue) : Entries Value :=
  Value.mergeFields base.toRecord (Value.plainFields (assignAll (issueFinds captured) []))

/-- The merged record has under each name what was found there, merged into the old value. -/
theorem get?_mergedRecord (captured : List Capture) (base : Issue) (name : Text) :
    (mergedRecord captured base).get? name =
      (((assignAll (issueFinds captured) []).get? name).map fun value =>
        Value.mergeValue (base.toRecord.get? name) value.plain).or (base.toRecord.get? name) := by
  have distinct : (Value.plainFields (assignAll (issueFinds captured) [])).keys.Nodup := by
    rw [Value.keys_plainFields]
    exact nodup_keys_assignAll _
  rw [mergedRecord, Value.get?_mergeFields distinct, Value.get?_plainFields, Option.map_map]
  rfl

/-- Below a name where texts were found, the merged record has a record. -/
theorem exists_get?_of_below (deeper : below name (issueFinds captured) ≠ []) (base : Issue) :
    ∃ fields, (mergedRecord captured base).get? name = some (.record fields) := by
  rw [get?_mergedRecord, get?_assignAll, if_neg deeper, Option.map_some, Option.some_or,
    Value.plain]
  obtain ⟨fields, merged⟩ := Value.exists_mergeValue (base.toRecord.get? name) _
  exact ⟨fields, congrArg some merged⟩

/-- Where nothing was found below a field, it has the first text found for it, or the old value. -/
theorem get?_of_below (shallow : below name (issueFinds captured) = []) (base : Issue) :
    (mergedRecord captured base).get? name =
      ((firstAt name (issueFinds captured)).map .text).or (base.toRecord.get? name) := by
  rw [get?_mergedRecord, get?_assignAll, if_pos shallow, Entries.get?_nil, Option.none_or,
    Option.map_map]
  rfl

/-- Where a text was found below a field, the merged record has a record for it. -/
theorem exists_get?_of_leadsInto (plain : '.' ∉ name) (deeper : LeadsInto captured name)
    (base : Issue) : ∃ fields, (mergedRecord captured base).get? name = some (.record fields) :=
  exists_get?_of_below ((below_issueFinds plain).mpr deeper) base

/-- Elsewhere the merged record has the first text found for a field, and else the old value. -/
theorem get?_of_not_leadsInto (plain : '.' ∉ name) (shallow : ¬ LeadsInto captured name)
    (base : Issue) : (mergedRecord captured base).get? name =
      ((firstFound captured name).map .text).or (base.toRecord.get? name) := by
  have none : below name (issueFinds captured) = [] :=
    not_not.mp (mt (below_issueFinds plain).mp shallow)
  rw [get?_of_below none, firstAt_issueFinds plain]

/-- No text that was found is blank. -/
def AreSolid (captured : List Capture) : Prop :=
  ∀ path text, ⟨path, some text⟩ ∈ captured → ¬ Text.isAllBlank text

/-- The merged record holds fields of the issue, texts that were found and records. -/
theorem isEdited_mergedRecord (solid : AreSolid captured) (base : Issue) (name : Text) :
    Intake.IsEdited base name ((mergedRecord captured base).get? name) := by
  by_cases shallow : below name (issueFinds captured) = []
  · left
    rw [get?_of_below shallow]
    cases first : firstAt name (issueFinds captured) with
    | none => exact .inl rfl
    | some text =>
        obtain ⟨-, listed⟩ := mem_below.mp (mem_of_firstAlong first)
        obtain ⟨path, listed, -⟩ := mem_finds.mp listed
        exact .inr ⟨text, solid path text listed, rfl⟩
  · exact .inr (exists_get?_of_below shallow base)

/-- The merged record makes an issue exactly when nothing leads into a field that holds a text. -/
theorem exists_ofRecord_mergedRecord (valid : base.IsValid)
    (solid : AreSolid captured) :
    (∃ issue, Intake.ofRecord (mergedRecord captured base) = .ok issue) ↔
      ∀ name ∈ Intake.checks.keys, ¬ LeadsInto captured name := by
  rw [Intake.exists_ofRecord_of_isEdited valid (isEdited_mergedRecord solid base)]
  refine forall₂_congr fun name listed => ?_
  have plain := plain_of_known name (Intake.checks_subset listed)
  refine ⟨fun accepted deeper => ?_, fun shallow fields => ?_⟩
  · obtain ⟨fields, held⟩ := exists_get?_of_leadsInto plain deeper base
    exact accepted fields held
  · rw [get?_of_not_leadsInto plain shallow]
    cases firstFound captured name with
    | none => exact Intake.own_ne_record valid listed fields
    | some text => exact fun impossible => nomatch impossible

/-- The record under the name of the issue, where nothing was found for the issue itself. -/
theorem get?_merged (base : Issue)
    (inside : issueFinds captured = [] → firstAt issueKey (finds captured) = none) :
    ((issueContext base).merged (ofCaptures captured).data).get? issueKey =
      some (.record (mergedRecord captured base)) := by
  have distinct : (Value.plainFields (assignAll (finds captured) [])).keys.Nodup := by
    rw [Value.keys_plainFields]
    exact nodup_keys_assignAll _
  rw [Value.merged, data_ofCaptures, Value.get?_mergeFields distinct, Value.get?_plainFields,
    get?_assignAll]
  split_ifs with empty
  · have record : mergedRecord captured base = base.toRecord := by
      rw [mergedRecord, issueFinds, empty]
      rfl
    rw [inside empty, record]
    rfl
  · rfl

end Extraction

namespace Template

open Extraction

/-- No captured text is blank. -/
theorem areSolid_capturesOf (template document : Text) : AreSolid (capturesOf template document) :=
  fun _ _ listed => (isClean_of_mem_captures listed rfl).solid

/-- A document rebuilds the issue of the merged record. -/
theorem rebuild_eq_ofRecord (base : Issue)
    (inside : issueFinds (capturesOf template document) = [] →
      firstAt issueKey (finds (capturesOf template document)) = none) :
    rebuild template document base =
      (Intake.ofRecord (mergedRecord (capturesOf template document) base)).map
        fun issue => (issue, ofDocument template document) := by
  have merged := get?_merged base inside
  rw [rebuild, ofDocument]
  rw [capturesOf] at merged ⊢
  rw [merged, Option.getD_some, Issue.ofValue]
  cases Intake.ofRecord (mergedRecord (captures true document
    (dropBlankEnd (Segment.ofTemplate (withoutDirectives template)))) base) <;> rfl

/-- Where all slots are slots of fields, every document rebuilds a valid issue, and from the first
text found for each field. -/
theorem exists_rebuilt (valid : base.IsValid)
    (slots : ∀ path ∈ Segment.paths (Segment.ofTemplate (withoutDirectives template)),
      ∃ name ∈ Intake.allTakers.keys, path = issuePath name) (document : Text) :
    ∃ rebuilt, rebuild template document base = .ok (rebuilt, ofDocument template document) ∧
      ∀ entry ∈ Intake.allTakers, Finding.issueField rebuilt entry.1 =
        entry.2 (((firstFound (capturesOf template document) entry.1).map .text).or
          (base.toRecord.get? entry.1)) := by
  have fields : ∀ capture ∈ capturesOf template document,
      ∃ own, '.' ∉ own ∧ capture.path = issuePath own := by
    intro capture listed
    obtain ⟨own, known, path⟩ :=
      slots _ (map_path_capturesOf template document ▸ List.mem_map_of_mem listed)
    exact ⟨own, plain_of_known own known, path⟩
  have inside : firstAt issueKey (finds (capturesOf template document)) = none := by
    refine Option.eq_none_iff_forall_ne_some.mpr fun text first => ?_
    obtain ⟨path, listed, split⟩ := mem_finds.mp (mem_of_firstAlong first)
    obtain ⟨own, plain, rfl⟩ := fields _ listed
    cases split.symm.trans (splitOn_issuePath plain)
  have solid := areSolid_capturesOf template document
  obtain ⟨rebuilt, made⟩ := (exists_ofRecord_mergedRecord valid solid).mpr fun name _ =>
    not_leadsInto fields name
  refine ⟨rebuilt, ?_, fun entry known => ?_⟩
  · rw [rebuild_eq_ofRecord base fun _ => inside, made]
    rfl
  have plain := plain_of_known _ (List.mem_map_of_mem known)
  rw [Intake.issueField_of_isWritten made
      (Intake.isWritten_of_isEdited (isEdited_mergedRecord solid base)) entry known,
    get?_of_not_leadsInto plain (not_leadsInto fields entry.1)]

end Template

end Issuebook
