import Issuebook.Proofs.Document.Stability
import Issuebook.Proofs.Reconciliation.Planning
import Issuebook.Proofs.Reconciliation.Updating
import Mathlib.Data.List.Dedup

/-!
# How copies settle

A reconciliation in both directions treats every identifier by itself: what both sides hold
afterwards is decided by the two copies from before, `ReconcileOptions.settle`. A copy in a file
that is written is read from the file again.
-/

namespace Issuebook

namespace Contents

/-- The contents of a list of issues. -/
def ofIssues (issues : List Issue) : Contents :=
  fun id => Issue.lastWithId? id issues

/-- A list holds exactly what is there, under distinct identifiers. -/
structure AreListed (contents : Contents) (issues : List Issue) : Prop where
  /-- Identifiers are distinct. -/
  distinct : (issues.map Issue.id).Nodup
  /-- Every entry is there. -/
  entries : ofIssues issues = contents

/-- Contents that are found under their identifiers, and under no others than some that are known,
can be listed. -/
theorem exists_areListed {contents : Contents} {ids : List Text}
    (own : ∀ id issue, contents id = some issue → issue.id = id)
    (known : ∀ id, (contents id).isSome → id ∈ ids) : ∃ issues, contents.AreListed issues := by
  have keys : (ids.dedup.filterMap contents).map Issue.id =
      ids.dedup.filter fun id => (contents id).isSome := by
    rw [List.map_filterMap, ← List.filterMap_eq_filter]
    refine List.filterMap_congr fun id _ => ?_
    cases found : contents id with
    | none => simp [Option.guard, found]
    | some issue => simp [Option.guard, found, own id issue found]
  have distinct : ((ids.dedup.filterMap contents).map Issue.id).Nodup :=
    keys ▸ List.filter_sublist.nodup (List.nodup_dedup ids)
  refine ⟨_, distinct, funext fun id => Option.ext fun issue => ?_⟩
  rw [ofIssues, Issue.lastWithId?_eq_some distinct, List.mem_filterMap]
  constructor
  · rintro ⟨⟨key, -, found⟩, rfl⟩
    rwa [own key issue found]
  · intro found
    have place : id ∈ ids.dedup := List.mem_dedup.mpr (known id (by rw [found]; rfl))
    exact ⟨⟨id, place, found⟩, own id issue found⟩

end Contents

namespace Issue

variable {issue : Issue}

/-- The issue that is read from the file written for an issue. -/
def reread? (issue : Issue) : Option Issue :=
  (Document.readIssue (issue.withSource .file).toDocument).toOption.map (withSource .file)

/-- An issue that a document carries whole. -/
structure IsCarried (issue : Issue) : Prop where
  /-- It was taken in. -/
  valid : issue.IsValid
  /-- No metadata breaks a line. -/
  unbroken : issue.IsUnbroken
  /-- The title stands on one line. -/
  single : Text.IsSingleLine issue.title
  /-- The description is the body. -/
  bare : issue.IsBare

/-- A valid issue is valid with another source. -/
theorem isValid_withSource (valid : issue.IsValid) (side : Side) :
    (issue.withSource side).IsValid :=
  { valid with }

/-- The source is no facet. -/
@[simp] theorem value_withSource (issue : Issue) (side : Side) (facet : Facet) :
    facet.value (issue.withSource side) = facet.value issue := by
  cases facet <;> rfl

/-- A file gives the issue that it was written for. -/
theorem exists_reread (carried : issue.IsCarried) :
    ∃ copy, issue.reread? = some copy ∧ Facet.differing issue copy = [] := by
  obtain ⟨copy, made, same, body⟩ :=
    exists_copy (isValid_withSource carried.valid .file) carried.unbroken carried.single
  refine ⟨copy.withSource .file, ?_, ?_⟩
  · rw [reread?, made]
    rfl
  · rw [← differing_eq_nil same body]
    simp [Facet.differing, Facet.agrees]

end Issue

/-- Both copies of an issue, as far as they are there. -/
structure Copies where
  /-- The copy in the store. -/
  beads : Option Issue
  /-- The copy in a file. -/
  file : Option Issue

namespace ReconcileOptions

variable {options : ReconcileOptions} {beads file : Issue} {beadsIssues fileIssues : List Issue}
  {id : Text}

/-- What becomes of the copies of an issue. -/
def settle (options : ReconcileOptions) : Copies → Copies
  | ⟨some beads, some file⟩ =>
    match options.keptSide? beads file with
    | none => ⟨some beads, some file⟩
    | some .beads => ⟨some beads, beads.reread?⟩
    | some .file => ⟨some (Patch.updated file beads), some file⟩
  | ⟨some beads, none⟩ => if options.deletes then ⟨none, none⟩ else ⟨some beads, beads.reread?⟩
  | ⟨none, some file⟩ =>
    if options.deletes then ⟨none, none⟩ else ⟨some (Patch.forStore file), some file⟩
  | ⟨none, none⟩ => ⟨none, none⟩

/-- The files after a plan, when every file that is written is read again. -/
def filesAfter (plan : Plan) (fileIssues : List Issue) : Contents :=
  fun id =>
    if plan.fileRemovals.contains id then none
    else
      match Issue.lastWithId? id plan.fileWrites with
      | some issue => issue.reread?
      | none => Issue.lastWithId? id fileIssues

variable (both : options.direction = .bothWays)
  (beadsDistinct : (beadsIssues.map Issue.id).Nodup)
  (filesDistinct : (fileIssues.map Issue.id).Nodup)

section Store

/-- Every step of a plan calls for its own issue only. -/
theorem keepsToItself_ofPlan (plan : Plan) (beadsIssues : List Issue) :
    ∀ step ∈ StoreStep.ofPlan plan beadsIssues, step.KeepsToItself := by
  intro step present
  simp only [StoreStep.ofPlan, List.mem_append, List.mem_map] at present
  rcases present with (⟨file, -, rfl⟩ | ⟨file, -, rfl⟩) | ⟨id, -, rfl⟩
  · simp [StoreStep.KeepsToItself, StoreStep.create, Call.id, Patch.forStore]
  · intro entry called
    simp only [StoreStep.update, Patch.updateCalls, List.mem_append] at called
    rcases called with called | called <;> split_ifs at called
      <;> simp_all [Call.id, StoreStep.update]
  · simp [StoreStep.KeepsToItself, StoreStep.delete, Call.id]

/-- The steps of a plan are about the issues of its three lists. -/
theorem ids_ofPlan (plan : Plan) (beadsIssues : List Issue) :
    (StoreStep.ofPlan plan beadsIssues).map StoreStep.id =
      plan.beadsCreates.map Issue.id ++ plan.beadsUpdates.map Issue.id ++ plan.beadsDeletes := by
  simp only [StoreStep.ofPlan, List.map_append, List.map_map]
  congr 1
  exact List.map_id _

include filesDistinct in
/-- A file with an identifier and a property is the one that the identifier finds, with that
property. -/
theorem exists_of_id {holds : Issue → Prop} :
    (∃ file, (file ∈ fileIssues ∧ holds file) ∧ file.id = id) ↔
      ∃ file, Issue.lastWithId? id fileIssues = some file ∧ holds file := by
  refine exists_congr fun file => ?_
  rw [Issue.lastWithId?_eq_some filesDistinct, and_right_comm]

include both filesDistinct in
/-- An identifier is created exactly when only the files have it and deletions are not handled. -/
theorem mem_ids_beadsCreates :
    id ∈ (options.plan beadsIssues fileIssues).beadsCreates.map Issue.id ↔
      ∃ file, Issue.lastWithId? id fileIssues = some file ∧
        Issue.lastWithId? id beadsIssues = none ∧ options.deletes = false := by
  rw [plan_beadsCreates both]
  simp only [List.mem_map, List.mem_filter]
  rw [exists_of_id filesDistinct]
  refine exists_congr fun file => and_congr_right fun found => ?_
  rw [(Issue.of_lastWithId? found).2, Issue.lastWithId?_eq_none_iff_hasId]
  simp

include both filesDistinct in
/-- It is updated exactly when both sides have it and the file's copy is kept. -/
theorem mem_ids_beadsUpdates :
    id ∈ (options.plan beadsIssues fileIssues).beadsUpdates.map Issue.id ↔
      ∃ file, Issue.lastWithId? id fileIssues = some file ∧
        ∃ beads, Issue.lastWithId? id beadsIssues = some beads ∧
          options.keptSide? beads file = some .file := by
  simp only [List.mem_map, mem_beadsUpdates both filesDistinct]
  rw [exists_of_id filesDistinct]
  refine exists_congr fun file => and_congr_right fun found => ?_
  rw [(Issue.of_lastWithId? found).2]

include both beadsDistinct in
/-- It is deleted exactly when only the store has it and deletions are handled. -/
theorem mem_beadsDeletes :
    id ∈ (options.plan beadsIssues fileIssues).beadsDeletes ↔
      ∃ beads, Issue.lastWithId? id beadsIssues = some beads ∧
        Issue.lastWithId? id fileIssues = none ∧ options.deletes = true := by
  rw [plan_beadsDeletes both]
  simp only [List.mem_map, List.mem_filter]
  rw [exists_of_id beadsDistinct]
  refine exists_congr fun beads => and_congr_right fun found => ?_
  rw [(Issue.of_lastWithId? found).2, Issue.lastWithId?_eq_none_iff_hasId]
  simp

include both filesDistinct in
/-- Its file is removed exactly when only the files have it and deletions are handled. -/
theorem mem_fileRemovals :
    id ∈ (options.plan beadsIssues fileIssues).fileRemovals ↔
      ∃ file, Issue.lastWithId? id fileIssues = some file ∧
        Issue.lastWithId? id beadsIssues = none ∧ options.deletes = true := by
  rw [plan_fileRemovals both]
  simp only [List.mem_map, List.mem_filter]
  rw [exists_of_id filesDistinct]
  refine exists_congr fun file => and_congr_right fun found => ?_
  rw [(Issue.of_lastWithId? found).2, Issue.lastWithId?_eq_none_iff_hasId]
  simp

include both beadsDistinct filesDistinct in
/-- No issue is changed in the store by two steps. -/
theorem nodup_ids_ofPlan : ((StoreStep.ofPlan (options.plan beadsIssues fileIssues)
    beadsIssues).map StoreStep.id).Nodup := by
  have part {issues : List Issue} (distinct : (issues.map Issue.id).Nodup)
      (chosen : Issue → Bool) : ((issues.filter chosen).map Issue.id).Nodup :=
    distinct.sublist (List.filter_sublist.map Issue.id)
  rw [ids_ofPlan, List.nodup_append, List.nodup_append]
  refine ⟨⟨?_, ?_, ?_⟩, ?_, ?_⟩
  · rw [plan_beadsCreates both]
    exact part filesDistinct _
  · rw [plan_beadsUpdates both filesDistinct, List.map_append, List.nodup_append]
    refine ⟨part filesDistinct _, part filesDistinct _, ?_⟩
    rintro _ newer _ winning rfl
    obtain ⟨file, chosen, same⟩ := List.mem_map.mp newer
    obtain ⟨other, wins, rfl⟩ := List.mem_map.mp winning
    obtain ⟨present, found⟩ := List.mem_filter.mp chosen
    obtain ⟨otherPresent, conflict⟩ := List.mem_filter.mp wins
    obtain rfl := Issue.eq_of_same_id filesDistinct present otherPresent same
    rw [winsConflict, of_decide_eq_true found] at conflict
    cases conflict
  · rintro _ created _ updated rfl
    obtain ⟨_, _, absent, _⟩ := (mem_ids_beadsCreates both filesDistinct).mp created
    obtain ⟨_, _, _, stored, _⟩ := (mem_ids_beadsUpdates both filesDistinct).mp updated
    exact Option.some_ne_none _ (stored.symm.trans absent)
  · rw [plan_beadsDeletes both]
    exact part beadsDistinct _
  · rintro _ changed _ deleted rfl
    obtain ⟨_, _, absent, _⟩ := (mem_beadsDeletes both beadsDistinct).mp deleted
    rcases List.mem_append.mp changed with created | updated
    · obtain ⟨_, found, _⟩ := (mem_ids_beadsCreates both filesDistinct).mp created
      exact Option.some_ne_none _ (found.symm.trans absent)
    · obtain ⟨_, found, _⟩ := (mem_ids_beadsUpdates both filesDistinct).mp updated
      exact Option.some_ne_none _ (found.symm.trans absent)

variable {contents : Contents}

include both beadsDistinct filesDistinct in
/-- Where no step is about an issue, its entry stays. -/
theorem applied_of_unplanned {id : Text}
    (creates : ¬ ∃ file, Issue.lastWithId? id fileIssues = some file ∧
      Issue.lastWithId? id beadsIssues = none ∧ options.deletes = false)
    (updates : ¬ ∃ file, Issue.lastWithId? id fileIssues = some file ∧
      ∃ beads, Issue.lastWithId? id beadsIssues = some beads ∧
        options.keptSide? beads file = some .file)
    (deletes : ¬ ∃ beads, Issue.lastWithId? id beadsIssues = some beads ∧
      Issue.lastWithId? id fileIssues = none ∧ options.deletes = true) :
    StorePhase.applied (Contents.ofIssues beadsIssues)
        (StoreStep.ofPlan (options.plan beadsIssues fileIssues) beadsIssues) id =
      Issue.lastWithId? id beadsIssues := by
  rw [← mem_ids_beadsCreates both filesDistinct] at creates
  rw [← mem_ids_beadsUpdates both filesDistinct] at updates
  rw [← mem_beadsDeletes both beadsDistinct] at deletes
  refine StorePhase.applied_of_absent (keepsToItself_ofPlan _ _) _ ?_
  rw [ids_ofPlan, List.mem_append, List.mem_append]
  exact fun present => present.elim (fun present => present.elim creates updates) deletes

include both beadsDistinct filesDistinct in
/-- Each issue in the store settles by itself. -/
theorem applied_ofPlan (clean : ∀ file ∈ fileIssues, Issue.HasCleanItems file.labels) (id : Text) :
    StorePhase.applied (Contents.ofIssues beadsIssues)
        (StoreStep.ofPlan (options.plan beadsIssues fileIssues) beadsIssues) id =
      (options.settle
        ⟨Issue.lastWithId? id beadsIssues, Issue.lastWithId? id fileIssues⟩).beads := by
  have keep := keepsToItself_ofPlan (options.plan beadsIssues fileIssues) beadsIssues
  have distinct := nodup_ids_ofPlan both beadsDistinct filesDistinct
  have idle := @applied_of_unplanned _ _ _ both beadsDistinct filesDistinct id
  -- Steps have distinct identifiers: what becomes of one is told by its only step, or by none.
  have acts {step : StoreStep} (same : step.id = id)
      (present : step ∈ StoreStep.ofPlan (options.plan beadsIssues fileIssues) beadsIssues) :
      StorePhase.applied (Contents.ofIssues beadsIssues)
        (StoreStep.ofPlan (options.plan beadsIssues fileIssues) beadsIssues) id =
          step.effect (Issue.lastWithId? id beadsIssues) := by
    subst same
    exact StorePhase.applied_of_mem keep distinct _ present
  cases stored : Issue.lastWithId? id beadsIssues with
  | none =>
      cases found : Issue.lastWithId? id fileIssues with
      | none => simpa [settle, stored, found] using idle
      | some file =>
          cases deletes : options.deletes with
          | true => simpa [settle, stored, found, deletes] using idle
          | false =>
              obtain ⟨present, same⟩ := Issue.of_lastWithId? found
              have created : file ∈ (options.plan beadsIssues fileIssues).beadsCreates := by
                rw [plan_beadsCreates both, List.mem_filter, same,
                  Issue.lastWithId?_eq_none_iff_hasId.mp stored, deletes]
                exact ⟨present, rfl⟩
              rw [acts (show (StoreStep.create file).id = id from same) (List.mem_append_left _
                (List.mem_append_left _ (List.mem_map_of_mem created)))]
              simp [settle, deletes, StoreStep.effect, StoreStep.create, Call.effect]
  | some beads =>
      cases found : Issue.lastWithId? id fileIssues with
      | none =>
          cases deletes : options.deletes with
          | false => simpa [settle, stored, found, deletes] using idle
          | true =>
              have deleted := (mem_beadsDeletes both beadsDistinct).mpr
                ⟨beads, stored, found, deletes⟩
              rw [acts (show (StoreStep.delete id).id = id from rfl)
                (List.mem_append_right _ (List.mem_map_of_mem deleted))]
              simp [settle, deletes, StoreStep.effect, StoreStep.delete, Call.effect]
      | some file =>
          rw [stored, found] at idle
          cases kept : options.keptSide? beads file with
          | none => simpa [settle, kept] using idle
          | some side =>
              cases side with
              | beads => simpa [settle, kept] using idle
              | file =>
                  obtain ⟨present, same⟩ := Issue.of_lastWithId? found
                  have updated : file ∈ (options.plan beadsIssues fileIssues).beadsUpdates :=
                    (mem_beadsUpdates both filesDistinct).mpr
                      ⟨present, beads, same ▸ stored, kept⟩
                  rw [acts (show (StoreStep.update beadsIssues file).id = id from same)
                    (List.mem_append_left _
                      (List.mem_append_right _ (List.mem_map_of_mem updated))),
                    stored, StoreStep.effect_update (clean file present) (same ▸ stored)]
                  simp [settle, kept]

end Store

section Files

include both in
/-- Only issues of the store are written. -/
theorem mem_of_mem_fileWrites
    (written : beads ∈ (options.plan beadsIssues fileIssues).fileWrites) :
    beads ∈ beadsIssues := by
  rcases (mem_fileWrites both).mp written with ⟨present, _⟩ | ⟨_, _, stored, _⟩
  · exact present
  · exact (Issue.of_lastWithId? stored).1

include both beadsDistinct filesDistinct in
/-- The issue that a plan writes under an identifier. -/
theorem lastWithId?_fileWrites :
    Issue.lastWithId? id (options.plan beadsIssues fileIssues).fileWrites = some beads ↔
      Issue.lastWithId? id beadsIssues = some beads ∧
        ((Issue.lastWithId? id fileIssues = none ∧ options.deletes = false) ∨
          ∃ file, Issue.lastWithId? id fileIssues = some file ∧
            options.keptSide? beads file = some .beads) := by
  constructor
  · intro found
    obtain ⟨written, rfl⟩ := Issue.of_lastWithId? found
    refine ⟨(Issue.lastWithId?_eq_some beadsDistinct).mpr
      ⟨mem_of_mem_fileWrites both written, rfl⟩, ?_⟩
    rcases (mem_fileWrites both).mp written with ⟨_, absent, keeps⟩ | ⟨file, present, stored, kept⟩
    · exact .inl ⟨Issue.lastWithId?_eq_none_iff_hasId.mpr absent, keeps⟩
    · have same : file.id = beads.id := (Issue.of_lastWithId? stored).2.symm
      exact .inr ⟨file, (Issue.lastWithId?_eq_some filesDistinct).mpr ⟨present, same⟩, kept⟩
  · rintro ⟨stored, reason⟩
    obtain ⟨present, rfl⟩ := Issue.of_lastWithId? stored
    have written : beads ∈ (options.plan beadsIssues fileIssues).fileWrites := by
      refine (mem_fileWrites both).mpr (reason.imp ?_ ?_)
      · rintro ⟨absent, keeps⟩
        exact ⟨present, Issue.lastWithId?_eq_none_iff_hasId.mp absent, keeps⟩
      · rintro ⟨file, found, kept⟩
        obtain ⟨filePresent, same⟩ := Issue.of_lastWithId? found
        exact ⟨file, filePresent, same ▸ stored, kept⟩
    cases found : Issue.lastWithId? beads.id (options.plan beadsIssues fileIssues).fileWrites with
    | none => exact absurd rfl (Issue.lastWithId?_eq_none.mp found beads written)
    | some other =>
        obtain ⟨otherWritten, same⟩ := Issue.of_lastWithId? found
        rw [Issue.eq_of_same_id beadsDistinct (mem_of_mem_fileWrites both otherWritten)
          present same]

include both beadsDistinct filesDistinct in
/-- Each issue in files settles by itself. -/
theorem filesAfter_plan (id : Text) :
    filesAfter (options.plan beadsIssues fileIssues) fileIssues id =
      (options.settle
        ⟨Issue.lastWithId? id beadsIssues, Issue.lastWithId? id fileIssues⟩).file := by
  have removed : id ∈ (options.plan beadsIssues fileIssues).fileRemovals ↔ _ :=
    mem_fileRemovals both filesDistinct
  have written (beads : Issue) :
      Issue.lastWithId? id (options.plan beadsIssues fileIssues).fileWrites = some beads ↔ _ :=
    lastWithId?_fileWrites both beadsDistinct filesDistinct
  unfold filesAfter
  -- Only a stored issue is ever written, and only one that is not stored is removed.
  cases stored : Issue.lastWithId? id beadsIssues with
  | none =>
      have unwritten :
          Issue.lastWithId? id (options.plan beadsIssues fileIssues).fileWrites = none := by
        rw [Option.eq_none_iff_forall_ne_some]
        intro beads found
        exact Option.some_ne_none _ (((written beads).mp found).1.symm.trans stored)
      cases found : Issue.lastWithId? id fileIssues with
      | none => simp [removed, unwritten, settle, found]
      | some file =>
          cases deletes : options.deletes <;>
            simp [removed, unwritten, settle, found, stored, deletes]
  | some beads =>
      have stays : ¬ (options.plan beadsIssues fileIssues).fileRemovals.contains id = true := by
        rw [List.contains_iff_mem, removed]
        simp [stored]
      have unwritten (kept : ¬ ((Issue.lastWithId? id fileIssues = none ∧ options.deletes = false) ∨
          ∃ file, Issue.lastWithId? id fileIssues = some file ∧
            options.keptSide? beads file = some .beads)) :
          Issue.lastWithId? id (options.plan beadsIssues fileIssues).fileWrites = none := by
        rw [Option.eq_none_iff_forall_ne_some]
        intro other found
        obtain ⟨same, reason⟩ := (written other).mp found
        obtain rfl := Option.some.inj (stored.symm.trans same)
        exact kept reason
      rw [if_neg stays]
      cases found : Issue.lastWithId? id fileIssues with
      | none =>
          cases deletes : options.deletes with
          | false =>
              rw [(written beads).mpr ⟨stored, .inl ⟨found, deletes⟩⟩]; simp [settle, deletes]
          | true => rw [unwritten (by simp [found, deletes])]; simp [settle, deletes]
      | some file =>
          cases kept : options.keptSide? beads file with
          | none => rw [unwritten (by simp [found, kept])]; simp [settle, kept]
          | some side =>
              cases side with
              | beads =>
                  rw [(written beads).mpr ⟨stored, .inr ⟨file, found, kept⟩⟩]
                  simp [settle, kept]
              | file => rw [unwritten (by simp [found, kept])]; simp [settle, kept]

end Files

/-- A lone pair of which the file stays: the store takes the copy in the file over. -/
theorem settled_pair {options : ReconcileOptions} {beads file : Issue}
    (both : options.direction = .bothWays) (same : beads.id = file.id)
    (clean : Issue.HasCleanItems file.labels) (kept : options.keptSide? beads file = some .file) :
    StorePhase.applied (Contents.ofIssues [beads])
        (StoreStep.ofPlan (options.plan [beads] [file]) [beads]) =
      Contents.ofIssues [Patch.updated file beads] := by
  have lone (issue : Issue) (id : Text) :
      Issue.lastWithId? id [issue] = if issue.id = id then some issue else none := by
    by_cases own : issue.id = id <;> simp [Issue.lastWithId?, own]
  have updatedId : (Patch.updated file beads).id = beads.id := rfl
  funext id
  rw [applied_ofPlan both (by simp) (by simp) (by simpa using clean), Contents.ofIssues, lone,
    lone, lone, updatedId, same]
  split_ifs <;> simp [settle, kept]

/-! ## What is left between settled copies -/

/-- The facets in which settled copies still differ: those that no patch carries, where the copy
in the file stays. -/
def leftover (options : ReconcileOptions) : Copies → List Facet
  | ⟨some beads, some file⟩ =>
    if options.keptSide? beads file = some .file then
      (Facet.differing beads file).filter fun facet => facet ∉ Patch.facets
    else []
  | _ => []

/-- Only relations to other issues can be left. -/
theorem mem_leftover {copies : Copies} {facet : Facet} (left : facet ∈ options.leftover copies) :
    facet = .dependsOn ∨ facet = .blocks ∨ facet = .parent := by
  unfold leftover at left
  split at left
  · split_ifs at left
    · have uncarried := of_decide_eq_true (List.mem_filter.mp left).2
      revert uncarried
      cases facet <;> decide
    · cases left
  · cases left

/-- After an update the copies differ in the facets that are not sent, as before. -/
theorem differing_updated (fileBare : file.IsBare) (beadsBare : beads.IsBare) :
    Facet.differing (Patch.updated file beads) file =
      (Facet.differing beads file).filter fun facet => facet ∉ Patch.facets := by
  rw [Facet.differing, Facet.differing, List.filter_filter]
  refine List.filter_congr fun facet _ => ?_
  rw [Patch.agrees_updated fileBare beadsBare]
  by_cases carried : facet ∈ Patch.facets <;> simp [carried]

/-- Of copies that agree none is kept against the other. -/
theorem keptSide?_of_agreed (agreed : Facet.differing beads file = []) :
    options.keptSide? beads file = none := by
  simp [keptSide?, agreed]

/-- Where none is kept, the copies agree. -/
theorem differing_of_keptSide?_eq_none (agreed : options.keptSide? beads file = none) :
    Facet.differing beads file = [] := by
  unfold keptSide? at agreed
  split_ifs at agreed with empty
  exact List.isEmpty_iff.mp empty

/-- An update does not change which side is kept, while there is a difference. -/
theorem keptSide?_updated (kept : options.keptSide? beads file = some .file)
    (differs : Facet.differing (Patch.updated file beads) file ≠ []) :
    options.keptSide? (Patch.updated file beads) file = some .file := by
  unfold keptSide? at kept
  split_ifs at kept
  have remains : (Facet.differing (Patch.updated file beads) file).isEmpty = false := by
    simpa using differs
  rw [keptSide?, remains]
  exact kept

/-- Settled copies are both gone, or both there. They differ in nothing but what is left, and in
that the file is kept again, without a call that would help. -/
theorem settle_cases (options : ReconcileOptions) {copies : Copies}
    (beadsCarried : ∀ beads ∈ copies.beads, beads.IsCarried)
    (fileCarried : ∀ file ∈ copies.file, file.IsCarried) :
    (options.settle copies = ⟨none, none⟩ ∧ options.leftover copies = []) ∨
      ∃ beads file, options.settle copies = ⟨some beads, some file⟩ ∧
        Facet.differing beads file = options.leftover copies ∧
        (options.leftover copies ≠ [] → options.keptSide? beads file = some .file ∧
          Patch.updateCalls file (some beads) = []) := by
  rcases copies with ⟨_ | beads, _ | file⟩
  · exact .inl ⟨rfl, rfl⟩
  · dsimp only [settle, leftover]
    split_ifs
    · exact .inl ⟨rfl, rfl⟩
    · refine .inr ⟨_, _, rfl, ?_, fun left => absurd rfl left⟩
      have bare := (fileCarried file rfl).bare
      simp [Facet.differing, Facet.agrees, Patch.value_forStore bare]
  · dsimp only [settle, leftover]
    split_ifs
    · exact .inl ⟨rfl, rfl⟩
    · obtain ⟨copy, read, same⟩ := Issue.exists_reread (beadsCarried beads rfl)
      rw [read]
      exact .inr ⟨_, _, rfl, same, fun left => absurd rfl left⟩
  -- Only where both sides have a copy and the file is kept can anything be left.
  · have fileBare := (fileCarried file rfl).bare
    have beadsBare := (beadsCarried beads rfl).bare
    simp only [settle, leftover]
    cases kept : options.keptSide? beads file with
    | none =>
        exact .inr ⟨_, _, rfl, differing_of_keptSide?_eq_none kept, fun left => absurd rfl left⟩
    | some side =>
        cases side with
        | beads =>
            obtain ⟨copy, read, same⟩ := Issue.exists_reread (beadsCarried beads rfl)
            dsimp only
            rw [read]
            exact .inr ⟨_, _, rfl, same, fun left => absurd rfl left⟩
        | file =>
            rw [if_pos rfl, ← differing_updated fileBare beadsBare]
            refine .inr ⟨_, _, rfl, rfl, fun left => ⟨keptSide?_updated kept left, ?_⟩⟩
            exact Patch.updateCalls_eq_nil (fun facet carried =>
              Patch.value_updated_of_mem fileBare beadsBare carried) fileBare

end ReconcileOptions

end Issuebook
