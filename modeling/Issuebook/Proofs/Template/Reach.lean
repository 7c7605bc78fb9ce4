import Issuebook.Proofs.Template.Rebuilding

/-!
# What documents reach

Which fields of an issue a document changes. When every slot of a template is that of a field under
the name that is written, a document changes no field but those that its slots found
(`rebuild_frames`). In any template, a text that one slot found for a field is taken when the slot
has that name; under the other name of the field, the slot shows the field and does not change it
(`rebuild_reaches`).
-/

namespace Issuebook

variable {name text template document : Text} {issue base rebuilt : Issue} {captured : List Capture}

/-! ## Names of fields -/

namespace Intake

/-- The names of fields in templates. -/
def fieldNames : List Text :=
  usualNames.keys ++ allTakers.keys

/-- The usual name of a usual name is the name itself. -/
theorem usualName_usualName (name : Text) : usualName (usualName name) = usualName name := by
  have settled : ∀ names ∈ usualNames, usualName names.2 = names.2 := by decide +kernel
  cases held : usualNames.get? name with
  | none =>
      have same : usualName name = name := by rw [usualName, held, Option.getD_none]
      rw [same, same]
  | some usual =>
      have same : usualName name = usual := by rw [usualName, held, Option.getD_some]
      rw [same]
      exact settled _ (Entries.mem_of_get? held)

/-- A name with a taker is the usual one. -/
theorem usualName_of_known : ∀ name ∈ allTakers.keys, usualName name = name := by
  decide +kernel

/-- Names of fields have no dots, and their usual names have takers. -/
theorem plain_fieldNames : ∀ name ∈ fieldNames, '.' ∉ name ∧ usualName name ∈ allTakers.keys := by
  decide +kernel

/-- A template shows a field under its names. -/
theorem fieldNames_subset (issue : Issue) :
    ∀ name, name ∈ issue.namedFields.keys ∨ name ∈ issue.toRecord.keys → name ∈ fieldNames := by
  have named : ∀ name ∈ (default : Issue).namedFields.keys, name ∈ fieldNames := by decide +kernel
  exact fun name known => known.elim (named name) (List.mem_append_right _)

/-- A template shows the same value under all names of a field. -/
theorem issueField_usualName (issue : Issue) : ∀ name ∈ fieldNames,
    Finding.issueField issue name = Finding.issueField issue (usualName name) := by
  refine List.forall_mem_append.mpr ⟨?_, fun name known => by rw [usualName_of_known name known]⟩
  simp only [usualNames, Entries.keys, List.map_cons, List.map_nil, List.forall_mem_cons]
  exact ⟨rfl, rfl, rfl, rfl, List.forall_mem_nil _⟩

/-- A field of the issue is as in the issue that a record makes. -/
def IsFieldOf (record : Entries Value) (name : Text) (issue : Issue) : Prop :=
  ∃ made, ofRecord record = .ok made ∧
    Finding.issueField issue name = Finding.issueField made name

/-- A field that is taken from a value is as in the issue that has this value in its place. -/
theorem isFieldOf_put {value : Value} {entry : Text × (Option Value → Value)}
    (valid : base.IsValid) (listed : name ∈ fieldNames)
    (edited : IsEdited base (usualName name) (some value))
    (fits : usualName name ∈ checks.keys → ∀ fields, value ≠ .record fields)
    (taken : entry ∈ allTakers) (named : entry.1 = usualName name)
    (shows : Finding.issueField issue (usualName name) = entry.2 (some value)) :
    IsFieldOf (base.toRecord.put (usualName name) value) name issue := by
  obtain ⟨normal, normalized, each⟩ := exists_ofRecord_put valid edited fits
  refine ⟨normal, normalized, ?_⟩
  have normalValue := each entry taken
  rw [named, if_pos rfl] at normalValue
  rw [issueField_usualName issue name listed, issueField_usualName normal name listed, shows,
    normalValue]

end Intake

/-! ## First texts -/

namespace Extraction

open Template

/-- The first text that is found was captured. -/
theorem mem_of_firstFound (first : firstFound captured name = some text) :
    ⟨issuePath name, some text⟩ ∈ captured := by
  obtain ⟨⟨path, held⟩, listed, shows⟩ := List.exists_of_findSome?_eq_some first
  dsimp only at shows
  split_ifs at shows with same
  rwa [same, shows] at listed

/-- Where something was captured there is a first text. -/
theorem exists_firstFound (found : ⟨issuePath name, some text⟩ ∈ captured) :
    ∃ first, firstFound captured name = some first := by
  by_contra none
  have absent := Option.eq_none_iff_forall_ne_some.mpr fun first held => none ⟨first, held⟩
  have here := List.findSome?_eq_none_iff.mp absent _ found
  rw [if_pos rfl] at here
  cases here

end Extraction

namespace Template

open Extraction Intake

/-- Where all slots are slots of fields, no field changes but those that slots found. -/
theorem rebuild_frames (valid : base.IsValid)
    (slots : ∀ path ∈ Segment.paths (Segment.ofTemplate (withoutDirectives template)),
      ∃ name ∈ base.toRecord.keys, path = issuePath name) (document : Text) :
    ∃ rebuilt, rebuild template document base = .ok (rebuilt, ofDocument template document) ∧
      ∀ name ∈ base.toRecord.keys,
        (∀ text, ⟨issuePath name, some text⟩ ∉ capturesOf template document) →
          Finding.issueField rebuilt name = Finding.issueField base name := by
  obtain ⟨rebuilt, made, values⟩ := exists_rebuilt valid slots document
  refine ⟨rebuilt, made, fun name known missed => ?_⟩
  obtain ⟨entry, listed, rfl⟩ : ∃ entry ∈ allTakers, entry.1 = name := List.mem_map.mp known
  have none : firstFound (capturesOf template document) entry.1 = none :=
    Option.eq_none_iff_forall_ne_some.mpr fun text first => missed text (mem_of_firstFound first)
  rw [values entry listed, none, issueField_own valid entry listed]
  rfl

/-- A task of one person. -/
def errand : Issue where
  id := "a-1"
  title := "T"
  description := none
  status := .opened
  kind := .task
  priority := .standard
  labels := none
  assignee := some "ann"
  createdAt := none
  updatedAt := none
  closedAt := none
  dependsOn := none
  blocks := none
  children := none
  parent := none
  source := none

/-- The errand is valid. -/
theorem isValid_errand : errand.IsValid := by
  constructor <;> decide

/-- A page with the title and the person of an issue. -/
def personPage : Text :=
  "# {issue.title}\nBy {issue.assignee}\n"

/-- A document that renames the errand and empties the slot of its person. -/
theorem errand_renamed :
    ∃ rebuilt,
      rebuild personPage "# New\nBy \n" errand =
        .ok (rebuilt, ofDocument personPage "# New\nBy \n") ∧
      Finding.issueField rebuilt "assignee" = Finding.issueField errand "assignee" := by
  have segments : Segment.ofTemplate (withoutDirectives personPage) =
      [.literal "# ", .slot (issuePath "title"), .literal "\nBy ", .slot (issuePath "assignee"),
        .literal "\n"] := by
    decide +kernel
  have captured : capturesOf personPage "# New\nBy \n" =
      [⟨issuePath "title", some "New"⟩, ⟨issuePath "assignee", none⟩] := by
    decide +kernel
  have slots : ∀ path ∈ Segment.paths (Segment.ofTemplate (withoutDirectives personPage)),
      ∃ name ∈ errand.toRecord.keys, path = issuePath name := by
    intro path listed
    rw [segments] at listed
    rcases List.mem_pair.mp listed with rfl | rfl
    · exact ⟨"title", by decide, rfl⟩
    · exact ⟨"assignee", by decide, rfl⟩
  obtain ⟨rebuilt, made, kept⟩ := rebuild_frames isValid_errand slots "# New\nBy \n"
  refine ⟨rebuilt, made, kept "assignee" (by decide) fun text listed => ?_⟩
  rw [captured] at listed
  rcases List.mem_pair.mp listed with same | same
  · exact absurd (issuePath_inj.mp (Capture.mk.inj same).1) (by decide)
  · cases (Capture.mk.inj same).2

/-- A text found for a field stands below the name of the issue. -/
theorem issueFinds_ne_nil (plain : '.' ∉ name) (found : ⟨issuePath name, some text⟩ ∈ captured) :
    issueFinds captured ≠ [] :=
  List.ne_nil_of_mem (mem_below.mpr
    ⟨List.cons_ne_nil _ _, mem_finds.mpr ⟨_, found, splitOn_issuePath plain⟩⟩)

/-- The fields of a rebuilt issue come from the merged record. -/
theorem issueField_rebuilt {extraction : Extraction}
    (inside : issueFinds (capturesOf template document) ≠ [])
    (made : rebuild template document base = .ok (rebuilt, extraction)) :
    ∀ entry ∈ allTakers, Finding.issueField rebuilt entry.1 =
      entry.2 ((mergedRecord (capturesOf template document) base).get? entry.1) := by
  rw [rebuild_eq_ofRecord base fun empty => absurd empty inside, Fault.map_eq_ok] at made
  obtain ⟨issue, made, same⟩ := made
  obtain ⟨rfl, -⟩ := Prod.mk.inj same
  exact issueField_of_isWritten made
    (isWritten_of_isEdited (isEdited_mergedRecord (areSolid_capturesOf template document) base))

/-- A document that says something of fields rebuilds a valid issue exactly when nothing that it
says leads into a field that holds a text. -/
theorem exists_rebuild_iff (valid : base.IsValid)
    (inside : issueFinds (capturesOf template document) ≠ []) :
    (∃ result, rebuild template document base = .ok result) ↔
      ∀ field ∈ checks.keys, ¬ LeadsInto (capturesOf template document) field := by
  rw [rebuild_eq_ofRecord base fun empty => absurd empty inside,
    ← exists_ofRecord_mergedRecord valid (areSolid_capturesOf template document)]
  simp only [Fault.map_eq_ok]
  exact ⟨fun ⟨_, issue, made, _⟩ => ⟨issue, made⟩, fun ⟨issue, made⟩ => ⟨_, issue, made, rfl⟩⟩

/-- What a document does to a field that one slot found a text for: the text is taken if the slot
has the name that is written, and not if it has the other name. Slots that lead into fields make
records of them, which no field that holds a text takes. -/
theorem rebuild_reaches (valid : base.IsValid)
    (known : name ∈ base.namedFields.keys ∨ name ∈ base.toRecord.keys)
    (found : ⟨issuePath name, some text⟩ ∈ capturesOf template document)
    (sole : ∀ other, usualName other = usualName name → ∀ held,
      ⟨issuePath other, some held⟩ ∈ capturesOf template document → other = name ∧ held = text) :
    ((∃ result, rebuild template document base = .ok result) ↔
        ∀ field ∈ checks.keys, ¬ LeadsInto (capturesOf template document) field) ∧
      ∀ rebuilt extraction, rebuild template document base = .ok (rebuilt, extraction) →
        if LeadsInto (capturesOf template document) (usualName name) then
          IsFieldOf (base.toRecord.put (usualName name) (.record [])) name rebuilt
        else if name = usualName name then
          IsFieldOf (base.toRecord.put name (.text text)) name rebuilt
        else Finding.issueField rebuilt name = Finding.issueField base name := by
  have listed := fieldNames_subset base name known
  obtain ⟨plain, usual⟩ := plain_fieldNames name listed
  have inside := issueFinds_ne_nil plain found
  have solid := areSolid_capturesOf template document
  have returns := exists_rebuild_iff valid inside
  refine ⟨returns, fun rebuilt extraction made => ?_⟩
  obtain ⟨entry, taken, named⟩ : ∃ entry ∈ allTakers, entry.1 = usualName name :=
    List.mem_map.mp usual
  have value := issueField_rebuilt inside made entry taken
  have plainUsual := plain_of_known _ usual
  rw [named] at value
  -- A deeper path makes the field a record; otherwise its usual name counts, and no other.
  split_ifs with deeper written
  · obtain ⟨fields, record⟩ := exists_get?_of_leadsInto plainUsual deeper base
    rw [record, takers_record fields entry taken] at value
    exact isFieldOf_put valid listed (.inr ⟨[], rfl⟩)
      (fun text => absurd deeper (returns.mp ⟨_, made⟩ _ text)) taken named value
  · obtain ⟨first, present⟩ := exists_firstFound found
    obtain ⟨-, rfl⟩ := sole name rfl first (mem_of_firstFound present)
    rw [get?_of_not_leadsInto plainUsual deeper, ← written, present] at value
    have put := isFieldOf_put valid listed (.inl (.inr ⟨first, solid _ _ found, rfl⟩))
      (fun _ _ impossible => nomatch impossible) taken named (written ▸ value)
    rwa [← written] at put
  · have none : firstFound (capturesOf template document) (usualName name) = none :=
      Option.eq_none_iff_forall_ne_some.mpr fun first present =>
        written (sole _ (usualName_usualName name) first (mem_of_firstFound present)).1.symm
    have own := issueField_own valid entry taken
    rw [get?_of_not_leadsInto plainUsual deeper, none] at value
    rw [issueField_usualName _ name listed, issueField_usualName base name listed, value, ← named]
    exact own.symm

/-- A page with the time of creation, under the name that is written. -/
def datePage : Text :=
  "C: {issue.createdAt}\n"

/-- The same page under the other name. -/
def otherDatePage : Text :=
  "C: {issue.created_at}\n"

/-- A document of both pages. -/
def datedDocument : Text :=
  "C: 2026-02-02\n"

/-- A document that dates the errand in a slot with the name that is written. -/
theorem errand_dated :
    ∃ rebuilt extraction,
      rebuild datePage datedDocument errand = .ok (rebuilt, extraction) ∧
      IsFieldOf (errand.toRecord.put "createdAt" (.text "2026-02-02")) "createdAt" rebuilt := by
  have captured : capturesOf datePage datedDocument =
      [⟨issuePath "createdAt", some "2026-02-02"⟩] := by
    decide +kernel
  have shallow : ∀ name, ¬ LeadsInto (capturesOf datePage datedDocument) name := by
    rw [captured]
    exact not_leadsInto (List.forall_mem_singleton.mpr ⟨"createdAt", by decide, rfl⟩)
  obtain ⟨returns, taken⟩ := rebuild_reaches isValid_errand (.inr (by decide))
    (captured ▸ List.mem_singleton_self _) fun other _ held listed => by
      rw [captured] at listed
      obtain ⟨path, text⟩ := Capture.mk.inj (List.mem_singleton.mp listed)
      exact ⟨issuePath_inj.mp path, Option.some.inj text⟩
  obtain ⟨⟨rebuilt, extraction⟩, made⟩ := returns.mpr fun field _ => shallow field
  have field := taken rebuilt extraction made
  rw [if_neg (shallow _), if_pos (by decide +kernel)] at field
  exact ⟨rebuilt, extraction, made, field⟩

/-- Under the other name the page shows the date of an errand, and a document that dates the errand
is matched whole, but the date is dropped. -/
theorem errand_undated :
    errand.IsValid ∧
      renderIssue otherDatePage { errand with createdAt := some "2026-02-02" } = .ok datedDocument ∧
      ⟨issuePath "created_at", some "2026-02-02"⟩ ∈ capturesOf otherDatePage datedDocument ∧
      rebuild otherDatePage datedDocument errand =
        .ok (errand, ofDocument otherDatePage datedDocument) ∧
      (ofDocument otherDatePage datedDocument).unmatched = [] ∧
      ¬ IsFieldOf (errand.toRecord.put "createdAt" (.text "2026-02-02")) "created_at" errand := by
  have captured : capturesOf otherDatePage datedDocument =
      [⟨issuePath "created_at", some "2026-02-02"⟩] := by
    decide +kernel
  have found : ⟨issuePath "created_at", some "2026-02-02"⟩ ∈
      capturesOf otherDatePage datedDocument :=
    captured ▸ List.mem_singleton_self _
  have made : Intake.ofRecord (mergedRecord
      [⟨issuePath "created_at", some "2026-02-02"⟩] errand) = .ok errand :=
    Fault.toOption_eq_some.mp (by decide +kernel)
  refine ⟨isValid_errand, Fault.toOption_eq_some.mp (by decide +kernel), found, ?_, ?_, ?_⟩
  · have inside := issueFinds_ne_nil (by decide) found
    rw [rebuild_eq_ofRecord errand fun empty => absurd empty inside, captured, made]
    rfl
  · change (ofCaptures (capturesOf otherDatePage datedDocument)).unmatched = []
    rw [captured]
    rfl
  · rintro ⟨normal, normalized, same⟩
    have dated : Intake.ofRecord (errand.toRecord.put "createdAt" (.text "2026-02-02")) =
        .ok { errand with createdAt := some "2026-02-02" } :=
      Fault.toOption_eq_some.mp (by decide +kernel)
    rw [dated] at normalized
    obtain rfl := Except.ok.inj normalized
    cases same

end Template

end Issuebook
