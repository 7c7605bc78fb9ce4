import Issuebook.Proofs.Document.Body
import Issuebook.Proofs.Issue.Validity
import Issuebook.Proofs.Store.Faithful

/-!
# Updating the store

In a faithful store an update leaves a copy that agrees with the file in every facet that a patch
can change, and that differs from the store's old copy in no other facet. The closing of an issue
is part of it.

A description is compared without its heading, on either side under the side's own title. So a patch
tells and settles every difference that it could carry, but for descriptions with a heading too
many: `between_settles_iff`.
-/

namespace Issuebook

namespace Issue

variable {issue other : Issue}

/-- The body depends on the title and the description alone. -/
theorem bodyText_congr (title : issue.title = other.title)
    (description : textOrEmpty issue.description = textOrEmpty other.description) :
    issue.bodyText = other.bodyText := by
  rw [bodyText, bodyText, title, description]

/-- The description holds nothing that a document adds. -/
def IsBare (issue : Issue) : Prop :=
  issue.bodyText = textOrEmpty issue.description

instance (issue : Issue) : Decidable issue.IsBare :=
  inferInstanceAs (Decidable (_ = _))

end Issue

namespace Patch

open Issue

variable {file beads target issue : Issue} {facet : Facet} {changed : List Facet}

/-- In the store the description is the body of the file. -/
theorem textOrEmpty_forStore (file : Issue) :
    textOrEmpty (forStore file).description = file.bodyText := by
  by_cases empty : file.bodyText = [] <;> simp [forStore, textOrEmpty, empty]

/-- The title is that of the file. -/
@[simp] theorem title_forStore (file : Issue) : (forStore file).title = file.title := by
  simp only [forStore]

/-- The status is that of the file. -/
@[simp] theorem status_forStore (file : Issue) : (forStore file).status = file.status := by
  simp only [forStore]

/-- The kind is that of the file. -/
@[simp] theorem kind_forStore (file : Issue) : (forStore file).kind = file.kind := by
  simp only [forStore]

/-- The priority is that of the file. -/
@[simp] theorem priority_forStore (file : Issue) : (forStore file).priority = file.priority := by
  simp only [forStore]

/-- The assignee is that of the file. -/
@[simp] theorem assignee_forStore (file : Issue) : (forStore file).assignee = file.assignee := by
  simp only [forStore]

/-- The labels are those of the file. -/
@[simp] theorem labels_forStore (file : Issue) : (forStore file).labels = file.labels := by
  simp only [forStore]

/-- A description that holds nothing which a document adds makes the same body in the store. -/
theorem bodyText_forStore (bare : file.IsBare) : (forStore file).bodyText = file.bodyText :=
  bodyText_congr (title_forStore file) ((textOrEmpty_forStore file).trans bare)

/-- The copy for the store agrees with the file in every facet. -/
theorem value_forStore (bare : file.IsBare) (facet : Facet) :
    facet.value (forStore file) = facet.value file := by
  cases facet with
  | description => simp only [Facet.value, bodyText_forStore bare]
  | _ => simp only [Facet.value, forStore]

/-- An issue with some of the facets of another. -/
def patched (target issue : Issue) (changed : List Facet) : Issue :=
  { issue with
    title := if .title ∈ changed then target.title else issue.title
    status := if .status ∈ changed then target.status else issue.status
    kind := if .kind ∈ changed then target.kind else issue.kind
    priority := if .priority ∈ changed then target.priority else issue.priority
    description := if .description ∈ changed then target.description else issue.description
    assignee := if .assignee ∈ changed then target.assignee else issue.assignee
    labels := if .labels ∈ changed then target.labels else issue.labels }

/-- A facet is found by its name. -/
theorem find?_name (facet : Facet) :
    (Facet.all.find? fun other => other.name = facet.name) = some facet := by
  cases facet <;> decide +kernel

/-- Setting the field of a facet's name sets the facet. -/
theorem setField_name (issue : Issue) (value : Value) (facet : Facet) :
    setField issue facet.name value = setFacet issue value facet := by
  rw [setField, find?_name]

/-- An optional text is read back. -/
theorem scalarText?_ofText? (field : Option Text) : (Value.ofText? field).scalarText? = field := by
  cases field <;> rfl

/-- Setting a facet to its value in another issue copies it. -/
theorem setFacet_fieldValue (clean : HasCleanItems target.labels) (carried : facet ∈ facets)
    (issue : Issue) : setFacet issue (fieldValue target facet) facet =
      patched target issue [facet] := by
  cases facet with
  | title => rfl
  | status =>
      have read : Status.ofValue (fieldValue target .status) = target.status :=
        Intake.ofValue_statusName target.status
      simp [setFacet, patched, read]
  | kind =>
      have read : Kind.ofValue (fieldValue target .kind) = target.kind :=
        Intake.ofValue_kindName target.kind
      simp [setFacet, patched, read]
  | priority =>
      have read : Priority.ofValue? (fieldValue target .priority) = some target.priority :=
        Intake.ofValue?_priority target.priority
      simp [setFacet, patched, read]
  | description =>
      have read : (fieldValue target .description).scalarText? = target.description :=
        scalarText?_ofText? target.description
      simp [setFacet, patched, read]
  | assignee =>
      have read : (fieldValue target .assignee).scalarText? = target.assignee :=
        scalarText?_ofText? target.assignee
      simp [setFacet, patched, read]
  | labels =>
      have read : (fieldValue target .labels).idList? = target.labels :=
        Intake.bind_idList?_ofTexts? clean
      simp [setFacet, patched, read]
  | _ => exact absurd carried (by decide)

/-- Facets that are patched one behind the other are patched together. -/
theorem patched_patched (target issue : Issue) (facet : Facet) (changed : List Facet) :
    patched target (patched target issue [facet]) changed =
      patched target issue (facet :: changed) := by
  have merge {α : Type} (which : Facet) (new old : α) :
      (if which ∈ changed then new else if which ∈ [facet] then new else old) =
        if which ∈ facet :: changed then new else old := by
    by_cases later : which ∈ changed <;> by_cases first : which = facet <;> simp [later, first]
  simp only [patched, merge]

/-- A patch of facets copies them and nothing else. -/
theorem apply_ofFacets (clean : HasCleanItems target.labels)
    (carried : ∀ facet ∈ changed, facet ∈ facets) (issue : Issue) :
    (ofFacets target changed).apply issue = patched target issue changed := by
  induction changed generalizing issue with
  | nil => simp [ofFacets, apply, patched]
  | cons facet changed inductionHypothesis =>
      obtain ⟨first, later⟩ := List.forall_mem_cons.mp carried
      change (ofFacets target changed).apply
        (setField issue facet.name (fieldValue target facet)) = _
      rw [setField_name, setFacet_fieldValue clean first, inductionHypothesis later,
        patched_patched]

/-- A facet is sent when it can be sent and differs. -/
theorem mem_changedFacets : facet ∈ changedFacets target (some beads) ↔
    facet ∈ facets ∧ facet.agrees beads target = false := by
  simp [changedFacets]

/-- The store's copy after an update. -/
def updated (file beads : Issue) : Issue :=
  patched (forStore file) beads (changedFacets (forStore file) (some beads))

/-- An issue that is closed has all other facets patched, and then its status. -/
theorem closing_patched (closing : closes file (some beads)) :
    { patched (forStore file) beads
        ((changedFacets (forStore file) (some beads)).filter fun facet => !(facet == .status)) with
      status := .closed } = updated file beads := by
  obtain ⟨closed, changed⟩ := Bool.and_eq_true_iff.mp closing
  have status : (forStore file).status = .closed :=
    (by simpa using closed : file.status = .closed)
  have present : .status ∈ changedFacets (forStore file) (some beads) := by simpa using changed
  have apart {which : Facet} (other : which ≠ .status) :
      which ∈ ((changedFacets (forStore file) (some beads)).filter fun facet =>
        !(facet == .status)) ↔ which ∈ changedFacets (forStore file) (some beads) := by
    simp [other]
  simp only [updated, patched, if_pos present, status, apart (show Facet.title ≠ .status by decide),
    apart (show Facet.kind ≠ .status by decide), apart (show Facet.priority ≠ .status by decide),
    apart (show Facet.description ≠ .status by decide),
    apart (show Facet.assignee ≠ .status by decide),
    apart (show Facet.labels ≠ .status by decide)]

end Patch

namespace StoreStep

open Patch

variable {file beads : Issue} {beadsIssues : List Issue}

/-- The calls of an update bring the store's copy to the file's. -/
theorem effect_update (clean : Issue.HasCleanItems file.labels)
    (stored : Issue.lastWithId? file.id beadsIssues = some beads) :
    (update beadsIssues file).effect (some beads) = some (updated file beads) := by
  have carried : ∀ facet ∈ changedFacets (forStore file) (some beads), facet ∈ facets :=
    fun facet present => (mem_changedFacets.mp present).1
  have sent (changed : List Facet) (part : ∀ facet ∈ changed, facet ∈ facets) :
      (if changed.isEmpty then ([] : List (Operation × Call))
        else [(.update, .update file.id (ofFacets (forStore file) changed))]).foldl
        (fun entry call => call.2.effect entry) (some beads) =
      some (patched (forStore file) beads changed) := by
    split_ifs with empty
    · rw [List.isEmpty_iff.mp empty]
      simp [patched]
    · have cleanTarget : Issue.HasCleanItems (forStore file).labels := clean
      exact congrArg some (apply_ofFacets cleanTarget part beads)
  rw [effect, update, stored]
  unfold updateCalls
  dsimp only
  rw [List.foldl_append]
  by_cases closing : closes file (some beads)
  · simp only [closing, Bool.true_and, if_true]
    rw [sent _ fun facet present => carried facet (List.mem_of_mem_filter present)]
    exact congrArg some (closing_patched closing)
  · have open_ : closes file (some beads) = false := by simpa using closing
    simp only [open_, Bool.false_and, Bool.not_false, List.filter_true]
    rw [sent _ carried]
    rfl

end StoreStep

namespace Patch

open Issue

variable {file beads : Issue} {facet : Facet}

/-- What is not sent is the same on both sides. -/
theorem value_eq_of_not_sent (carried : facet ∈ facets)
    (absent : facet ∉ changedFacets (forStore file) (some beads)) :
    facet.value beads = facet.value (forStore file) := by
  by_contra differs
  exact absent (mem_changedFacets.mpr ⟨carried, by simpa [Facet.agrees] using differs⟩)

/-- A facet that is not sent keeps its value. -/
theorem value_updated_of_not_mem (other : facet ∉ facets) :
    facet.value (updated file beads) = facet.value beads := by
  cases facet with
  | dependsOn | blocks | parent => rfl
  | _ => exact absurd (by decide) other

/-- After an update the store's copy agrees with the file in all that a patch can change, but for
the description. -/
theorem value_updated_of_ne (carried : facet ∈ facets) (other : facet ≠ .description) :
    facet.value (updated file beads) = facet.value file := by
  -- What was not sent was the same before.
  have settled {α β : Type} (read : α → β) {facet : Facet} (carried : facet ∈ facets)
      {new old own : α} (sent : new = own)
      (same : facet.value beads = facet.value (forStore file) → read old = read new) :
      read (if facet ∈ changedFacets (forStore file) (some beads) then new else old) =
        read own := by
    subst sent
    split_ifs with changed
    · rfl
    · exact same (value_eq_of_not_sent carried changed)
  cases facet with
  | title =>
      have title : (updated file beads).title = file.title :=
        settled (fun title => title) carried (title_forStore file) FacetValue.text.inj
      exact congrArg FacetValue.text title
  | status =>
      have status : (updated file beads).status.name = file.status.name :=
        settled Status.name carried (status_forStore file) FacetValue.text.inj
      exact congrArg FacetValue.text status
  | kind =>
      have kind : (updated file beads).kind.name = file.kind.name :=
        settled Kind.name carried (kind_forStore file) FacetValue.text.inj
      exact congrArg FacetValue.text kind
  | priority =>
      have priority : (updated file beads).priority = file.priority :=
        settled (fun level => level) carried (priority_forStore file) FacetValue.priority.inj
      exact congrArg FacetValue.priority priority
  | assignee =>
      have assignee : (updated file beads).assignee = file.assignee :=
        settled (fun name => name) carried (assignee_forStore file) FacetValue.option.inj
      exact congrArg FacetValue.option assignee
  | labels =>
      have labels : itemsOrNone (updated file beads).labels = itemsOrNone file.labels :=
        settled itemsOrNone carried (labels_forStore file) FacetValue.texts.inj
      exact congrArg FacetValue.texts labels
  | description => exact absurd rfl other
  | _ => exact absurd carried (by decide)

/-- After an update the title is that of the file. -/
theorem title_updated (file beads : Issue) : (updated file beads).title = file.title := by
  have titles : Facet.title.value (updated file beads) = Facet.title.value file :=
    value_updated_of_ne (by decide) (by decide)
  exact FacetValue.text.inj titles

/-- After an update the store's copy has the body of what was sent; where no description was sent,
that of its own description under the title of the file. -/
theorem bodyText_updated (file beads : Issue) : (updated file beads).bodyText =
    if beads.bodyText = (forStore file).bodyText then
      bodyText { beads with title := file.title }
    else (forStore file).bodyText := by
  have sent : .description ∈ changedFacets (forStore file) (some beads) ↔
      beads.bodyText ≠ (forStore file).bodyText := by
    rw [mem_changedFacets]
    simp [facets, Facet.agrees, Facet.value]
  by_cases same : beads.bodyText = (forStore file).bodyText
  · rw [if_pos same]
    refine bodyText_congr (title_updated file beads) ?_
    simp only [updated, patched, sent, same, ne_eq, not_true_eq_false, if_false]
  · rw [if_neg same]
    refine bodyText_congr ((title_updated file beads).trans (title_forStore file).symm) ?_
    simp only [updated, patched, sent, same, ne_eq, not_false_eq_true, if_true]

/-- After an update the store's copy agrees with the file in what a patch can change. -/
theorem value_updated_of_mem (fileBare : file.IsBare) (beadsBare : beads.IsBare)
    (carried : facet ∈ facets) : facet.value (updated file beads) = facet.value file := by
  by_cases other : facet = .description
  · subst other
    have bodies : (updated file beads).bodyText = file.bodyText := by
      rw [bodyText_updated, bodyText_forStore fileBare]
      split_ifs with same
      · refine bodyText_congr rfl ?_
        rw [← beadsBare, ← fileBare]
        exact same
      · rfl
    exact congrArg FacetValue.text bodies
  · exact value_updated_of_ne carried other

/-- An update leaves only differences that no patch can carry. -/
theorem agrees_updated (fileBare : file.IsBare) (beadsBare : beads.IsBare) (facet : Facet) :
    facet.agrees (updated file beads) file = (facet ∈ facets || facet.agrees beads file) := by
  by_cases carried : facet ∈ facets
  · simp [Facet.agrees, value_updated_of_mem fileBare beadsBare carried, carried]
  · simp [Facet.agrees, value_updated_of_not_mem carried, carried]

/-- Copies that agree in what a patch can change need no call. -/
theorem updateCalls_eq_nil (agree : ∀ facet ∈ facets, facet.value beads = facet.value file)
    (bare : file.IsBare) : updateCalls file (some beads) = [] := by
  have none : changedFacets (forStore file) (some beads) = [] := by
    rw [changedFacets, List.filter_eq_nil_iff]
    intro facet carried
    simp [Facet.agrees, agree facet carried, value_forStore bare facet]
  simp [updateCalls, closes, none]

end Patch

namespace Patch

open Issue

variable {file beads : Issue} {facet : Facet}

/-! ## Differences that are told and sent -/

/-- The facets in which two copies differ and that a patch can change. -/
def carriedDifferences (beads file : Issue) : List Facet :=
  (Facet.differing beads file).filter fun facet => facet ∈ facets

/-- A facet is a difference that is carried when it can be sent and its values differ. -/
theorem mem_carriedDifferences : facet ∈ carriedDifferences beads file ↔
    facet ∈ facets ∧ facet.value beads ≠ facet.value file := by
  have listed : facet ∈ Facet.all := by cases facet <;> decide
  simp [carriedDifferences, Facet.differing, Facet.agrees, listed]

/-- Such differences are the facets that do not agree. -/
theorem carriedDifferences_eq (beads file : Issue) : carriedDifferences beads file =
    facets.filter fun facet => !facet.agrees beads file := by
  have order : (Facet.all.filter fun facet => facet ∈ facets) = facets := by decide
  conv_rhs => rw [← order]
  rw [carriedDifferences, Facet.differing, List.filter_filter, List.filter_filter]
  exact List.filter_congr fun facet _ => Bool.and_comm _ _

/-- A name belongs to one facet. -/
theorem name_injective : Function.Injective Facet.name := by
  intro one other same
  have found := find?_name one
  rw [same, find?_name] at found
  exact (Option.some.inj found).symm

/-- The copy for the store differs from the file's in its description at most. -/
theorem value_forStore_of_ne (other : facet ≠ .description) :
    facet.value (forStore file) = facet.value file := by
  cases facet with
  | description => exact absurd rfl other
  | _ => simp only [Facet.value, forStore]

/-- A patch has the fields that differ exactly when the body that is sent is the store's just where
the body of the file is. -/
theorem keys_between_iff : (between file (some beads)).map Prod.fst =
      (carriedDifferences beads file).map Facet.name ↔
    (beads.bodyText = (forStore file).bodyText ↔ beads.bodyText = file.bodyText) := by
  have names : (between file (some beads)).map Prod.fst =
      (changedFacets (forStore file) (some beads)).map Facet.name := by
    simp [between, ofFacets]
  rw [names, name_injective.list_map.eq_iff, changedFacets, carriedDifferences_eq]
  constructor
  · intro same
    have described : Facet.description ∈ facets := by decide
    have told := congrArg (Facet.description ∈ ·) same
    simpa [described, Facet.agrees, Facet.value, not_iff_not] using told
  · intro bodies
    refine List.filter_congr fun facet _ => ?_
    by_cases other : facet = .description
    · subst other
      simp [Facet.agrees, Facet.value, bodies]
    · rw [Facet.agrees, Facet.agrees, value_forStore_of_ne other]

/-- A patch makes the store's copy what an update makes of it. -/
theorem apply_between (clean : HasCleanItems file.labels) (beads : Issue) :
    (between file (some beads)).apply beads = updated file beads := by
  have cleanTarget : HasCleanItems (forStore file).labels := clean
  exact apply_ofFacets cleanTarget (fun facet present => (mem_changedFacets.mp present).1) beads

/-- After an update only the description may differ, and does if its body is not that of the
file. -/
theorem mem_carriedDifferences_updated : facet ∈ carriedDifferences (updated file beads) file ↔
    facet = .description ∧ (updated file beads).bodyText ≠ file.bodyText := by
  rw [mem_carriedDifferences]
  by_cases other : facet = .description
  · subst other
    have described : Facet.description ∈ facets := by decide
    simp [described, Facet.value]
  · refine iff_of_false (fun ⟨carried, differs⟩ => ?_) fun ⟨same, _⟩ => other same
    exact differs (value_updated_of_ne carried other)

/-- The body stays the same in the store exactly when the description does not repeat the title. -/
theorem bodyText_forStore_iff :
    (forStore file).bodyText = file.bodyText ↔ ¬ file.RepeatsTitle :=
  bodyText_of_body (title_forStore file) (textOrEmpty_forStore file)

/-- A patch has exactly the fields that differ, unless the body of the file begins with a heading of
the title, and the store's body is the file's with or without it. It leaves no difference that it
could carry exactly if there is no such heading and, where the bodies agree, the store's description
has the same body under the title of the file. None but the description is ever left. -/
theorem between_settles_iff (valid : file.IsValid) (beads : Issue) :
    ((between file (some beads)).map Prod.fst = (carriedDifferences beads file).map Facet.name ↔
      (file.RepeatsTitle →
        beads.bodyText ≠ file.bodyText ∧ beads.bodyText ≠ (forStore file).bodyText)) ∧
    ((between file (some beads)).map Prod.fst = (carriedDifferences beads file).map Facet.name ∧
        carriedDifferences ((between file (some beads)).apply beads) file = [] ↔
      ¬ file.RepeatsTitle ∧ (beads.bodyText = file.bodyText →
        bodyText { beads with title := file.title } = file.bodyText)) ∧
    ∀ facet ∈ carriedDifferences ((between file (some beads)).apply beads) file,
      facet = .description := by
  have settled : carriedDifferences (updated file beads) file = [] ↔
      (updated file beads).bodyText = file.bodyText := by
    rw [List.eq_nil_iff_forall_not_mem]
    simp only [mem_carriedDifferences_updated, forall_eq, not_and, not_not]
  rw [apply_between valid.labels, keys_between_iff, settled, bodyText_updated]
  refine ⟨?_, ?_, fun facet left => (mem_carriedDifferences_updated.mp left).1⟩
  · by_cases repeats : file.RepeatsTitle
    · have apart : (forStore file).bodyText ≠ file.bodyText := fun same =>
        bodyText_forStore_iff.mp same repeats
      constructor
      · intro bodies _
        exact ⟨fun same => apart ((bodies.mpr same).symm.trans same),
          fun same => apart (same.symm.trans (bodies.mp same))⟩
      · intro differs
        exact iff_of_false (differs repeats).2 (differs repeats).1
    · rw [bodyText_forStore_iff.mpr repeats]
      exact iff_of_true Iff.rfl fun impossible => absurd impossible repeats
  · by_cases repeats : file.RepeatsTitle
    · refine iff_of_false ?_ fun ⟨single, _⟩ => single repeats
      rintro ⟨bodies, left⟩
      refine bodyText_forStore_iff.mp ?_ repeats
      split_ifs at left with same
      · exact same.symm.trans (bodies.mp same)
      · exact left
    · rw [bodyText_forStore_iff.mpr repeats, and_iff_right Iff.rfl, and_iff_right repeats]
      split_ifs with same
      · exact ⟨fun kept _ => kept, fun kept => kept same⟩
      · exact iff_of_true rfl fun impossible => absurd impossible same

/-- An issue with a heading of an older title in its description. -/
def renamedFile : Issue :=
  { (default : Issue) with
    id := "a-1"
    title := "New"
    labels := some ["x"]
    description := some "# New\n\n# Old\n\nText\n\n## Related Issues\n- b" }

/-- The same issue in the store, under the older title. -/
def renamedBeads : Issue :=
  { (default : Issue) with
    id := "a-1"
    title := "Old"
    description := some "Text" }

/-- An issue of which three facets differ, before its update and after. -/
theorem renamedFile_settled : renamedFile.IsValid ∧ renamedBeads.id = renamedFile.id ∧
    (between renamedFile (some renamedBeads)).map Prod.fst = ["title", "description", "labels"] ∧
    carriedDifferences ((between renamedFile (some renamedBeads)).apply renamedBeads)
      renamedFile = [] := by
  have valid : renamedFile.IsValid := by
    constructor <;> decide
  obtain ⟨-, settles, -⟩ := between_settles_iff valid renamedBeads
  obtain ⟨keys, nothingLeft⟩ := settles.mpr (by decide +kernel)
  exact ⟨valid, rfl, keys.trans (by decide +kernel), nothingLeft⟩

/-- An issue whose title stands twice in front of its description. -/
def twiceHeadedFile : Issue :=
  { (default : Issue) with
    id := "a-1"
    title := "T"
    description := some "# T\n\n# T\n\nText" }

/-- The same issue in the store, without headings. -/
def unheadedBeads : Issue :=
  { (default : Issue) with
    id := "a-1"
    title := "T"
    description := some "Text" }

/-- The description differs and is not sent. And a description that begins with a heading of the
title is not sent along with another title, under which it differs. -/
theorem twiceHeadedFile_unsettled :
    twiceHeadedFile.IsValid ∧ unheadedBeads.id = twiceHeadedFile.id ∧
      carriedDifferences unheadedBeads twiceHeadedFile = [.description] ∧
      between twiceHeadedFile (some unheadedBeads) = [] ∧
      let retitled := { unheadedBeads with title := "New" }
      let headed := { twiceHeadedFile with description := some "# T\n\nText" }
      (between retitled (some headed)).map Prod.fst = ["title"] ∧
        carriedDifferences ((between retitled (some headed)).apply headed) retitled =
          [.description] := by
  refine ⟨by constructor <;> decide, rfl, ?_⟩
  decide +kernel

end Patch

end Issuebook
