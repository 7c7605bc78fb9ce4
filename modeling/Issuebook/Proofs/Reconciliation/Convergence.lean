import Issuebook.Proofs.Reconciliation.Filing
import Issuebook.Proofs.Reconciliation.Foretelling

/-!
# Convergence

After one reconciliation in both directions with a faithful store, whose writes keep out of each
other's way, both sides hold the same identifiers, and the copies of an issue differ only where the
copy in the file stayed and the store's copy was different in what no patch carries. A second
reconciliation has no effect: `reconcile_settles`. What the store holds follows from its calls, and
what the book holds is loaded from the disk that the run left.
-/

namespace Issuebook

namespace Changes

/-- No changes. -/
def empty : Changes :=
  ⟨[], [], [], [], []⟩

/-- Changes are none when all their lists are empty. -/
theorem eq_empty {changes : Changes} (toBeads : changes.toBeads = [])
    (toFiles : changes.toFiles = []) (conflicts : changes.conflicts = [])
    (beadsOnly : changes.beadsOnly = []) (filesOnly : changes.filesOnly = []) :
    changes = empty := by
  obtain ⟨_, _, _, _, _⟩ := changes
  dsimp only at *
  subst toBeads toFiles conflicts beadsOnly filesOnly
  rfl

end Changes

namespace ReconcileOptions

variable {options : ReconcileOptions} {beads file : Issue} {beadsIssues fileIssues : List Issue}
  {id : Text}

/-! ## Agreement -/

/-- Where nothing changed, both sides have the same identifiers. -/
theorem hasId_eq_of_unchanged (unchanged : options.changes beadsIssues fileIssues = Changes.empty)
    (id : Text) : Issue.hasId id beadsIssues = Issue.hasId id fileIssues := by
  have filesOnly : id ∉ (options.changes beadsIssues fileIssues).filesOnly := by
    simp [unchanged, Changes.empty]
  have beadsOnly : id ∉ (options.changes beadsIssues fileIssues).beadsOnly := by
    simp [unchanged, Changes.empty]
  rw [mem_filesOnly] at filesOnly
  rw [mem_beadsOnly] at beadsOnly
  cases stored : Issue.hasId id beadsIssues <;> cases filed : Issue.hasId id fileIssues <;>
    simp_all

/-- Where nothing changed, no side of an issue is kept against the other. -/
theorem keptSide?_eq_none_of_unchanged
    (unchanged : options.changes beadsIssues fileIssues = Changes.empty)
    (present : file ∈ fileIssues)
    (stored : Issue.lastWithId? file.id beadsIssues = some beads) :
    options.keptSide? beads file = none := by
  have noConflict : options.verdict beadsIssues file ≠ .conflicting beads := by
    intro found
    have listed := mem_conflicts.mpr ⟨file, present, beads, found, rfl⟩
    simp [unchanged, Changes.empty] at listed
  cases kept : options.keptSide? beads file with
  | none => rfl
  | some side =>
      cases side with
      | beads =>
          rcases (keptSide?_eq_beads stored).mp kept with found | ⟨found, -⟩
          · have taken : beads ∈ (options.changes beadsIssues fileIssues).toFiles := by
              rw [changes_toFiles]
              exact List.mem_append_left _ (mem_pulled.mpr ⟨file, present, found⟩)
            simp [unchanged, Changes.empty] at taken
          · exact absurd found noConflict
      | file =>
          rcases (keptSide?_eq_file stored).mp kept with found | ⟨found, -⟩
          · have sent : file ∈ (options.changes beadsIssues fileIssues).toBeads := by
              rw [changes_toBeads]
              exact List.mem_filter.mpr ⟨present, by simp [found]⟩
            simp [unchanged, Changes.empty] at sent
          · exact absurd found noConflict

/-- Nothing changed where every issue of the files agrees with the store, and neither side has
issues of its own. -/
theorem changes_eq_empty_of_agreed
    (agreed : ∀ file ∈ fileIssues, options.verdict beadsIssues file = .agreed)
    (sameIds : ∀ id, Issue.hasId id beadsIssues = Issue.hasId id fileIssues) :
    options.changes beadsIssues fileIssues = Changes.empty := by
  have filed : ∀ beads ∈ beadsIssues, Issue.hasId beads.id fileIssues = true := fun beads place =>
    (sameIds beads.id).symm.trans (Issue.hasId_of_mem place)
  refine Changes.eq_empty ?_ ?_ ?_ ?_ ?_
  · rw [changes_toBeads, List.filter_eq_nil_iff]
    intro file present
    simp [agreed file present]
  · rw [changes_toFiles, List.append_eq_nil_iff, List.filter_eq_nil_iff,
      List.eq_nil_iff_forall_not_mem]
    refine ⟨fun beads taken => ?_, fun beads place => by simp [filed beads place]⟩
    obtain ⟨file, present, found⟩ := mem_pulled.mp taken
    rw [agreed file present] at found
    cases found
  · rw [List.eq_nil_iff_forall_not_mem]
    intro conflict listed
    obtain ⟨file, present, beads, found, -⟩ := mem_conflicts.mp listed
    rw [agreed file present] at found
    cases found
  · rw [List.eq_nil_iff_forall_not_mem]
    intro id only
    obtain ⟨stored, absent⟩ := mem_beadsOnly.mp only
    rw [sameIds id, absent] at stored
    cases stored
  · rw [List.eq_nil_iff_forall_not_mem]
    intro id only
    obtain ⟨filed, absent⟩ := mem_filesOnly.mp only
    rw [sameIds id, filed] at absent
    cases absent

/-- No changes are found exactly when both sides have the same identifiers and their copies do
not differ. -/
theorem changes_eq_empty (beadsDistinct : (beadsIssues.map Issue.id).Nodup) :
    options.changes beadsIssues fileIssues = Changes.empty ↔
      (∀ id, Issue.hasId id beadsIssues = Issue.hasId id fileIssues) ∧
        ∀ beads ∈ beadsIssues, ∀ file ∈ fileIssues, beads.id = file.id →
          Facet.differing beads file = [] := by
  constructor
  · intro unchanged
    refine ⟨hasId_eq_of_unchanged unchanged, ?_⟩
    intro beads beadsPresent file filePresent same
    have stored : Issue.lastWithId? file.id beadsIssues = some beads :=
      (Issue.lastWithId?_eq_some beadsDistinct).mpr ⟨beadsPresent, same⟩
    exact differing_of_keptSide?_eq_none
      (keptSide?_eq_none_of_unchanged unchanged filePresent stored)
  · rintro ⟨sameIds, agree⟩
    refine changes_eq_empty_of_agreed (fun file present => ?_) sameIds
    obtain ⟨beads, place, same⟩ :=
      Issue.hasId_iff.mp ((sameIds file.id).trans (Issue.hasId_of_mem present))
    have stored := (Issue.lastWithId?_eq_some beadsDistinct).mpr ⟨place, same⟩
    rw [verdict_of_present stored, agree beads place file present same]
    rfl

end ReconcileOptions

/-- A plan that changes nothing: it has no action but updates, and no update takes a call. -/
structure Plan.IsIdle (plan : Plan) (beadsIssues : List Issue) : Prop where
  /-- Nothing is written. -/
  fileWrites : plan.fileWrites = []
  /-- No file is removed. -/
  fileRemovals : plan.fileRemovals = []
  /-- Nothing is created. -/
  beadsCreates : plan.beadsCreates = []
  /-- Updates take no call. -/
  beadsUpdates : ∀ file ∈ plan.beadsUpdates, (StoreStep.update beadsIssues file).calls = []
  /-- Nothing is deleted. -/
  beadsDeletes : plan.beadsDeletes = []

/-- Steps without calls make none. -/
theorem StorePhase.callsMade_of_idle {State : Type} {steps : List StoreStep}
    (idle : ∀ step ∈ steps, step.calls = []) (backend : Backend State) (state : State) :
    callsMade backend state steps = [] := by
  induction steps generalizing state with
  | nil => rfl
  | cons step steps inductionHypothesis =>
      obtain ⟨first, later⟩ := List.forall_mem_cons.mp idle
      have performed : step.perform backend state = (⟨[], .idle⟩, state) := by
        rw [StoreStep.perform, first]
        rfl
      rw [callsMade, performed, first]
      exact inductionHypothesis later state

/-- An idle plan has no effect. -/
theorem ReconcileRun.effectsOf_of_idle {State : Type} {plan : Plan} {beadsIssues : List Issue}
    (idle : plan.IsIdle beadsIssues) (disk : Disk) (today : Date) (backend : Backend State)
    (state : State) (options : ReconcileOptions) (entries : List Book.Entry)
    (conflicts : List Conflict) :
    effectsOf disk today backend state options beadsIssues entries plan conflicts = [] := by
  have steps : ∀ step ∈ StoreStep.ofPlan plan beadsIssues, step.calls = [] := by
    rw [StoreStep.ofPlan, idle.beadsCreates, idle.beadsDeletes]
    simpa using idle.beadsUpdates
  have files (summary : Summary) :
      FilePhase.effects disk today options entries plan summary = [] := by
    rw [FilePhase.effects, idle.fileWrites, idle.fileRemovals]
    rfl
  unfold effectsOf
  split_ifs
  · rfl
  · dsimp only
    rw [StorePhase.callsMade_of_idle steps]
    split
    · rfl
    · exact files _

namespace ReconcileRun

variable {State : Type} {backend : Backend State} {contents : State → Contents}

section CarryingOut

variable (faithful : backend.IsFaithful contents) (disk : Disk) (today : Date) (state : State)
  {options : ReconcileOptions} (real : options.isDry = false) (beadsIssues : List Issue)
  (entries : List Book.Entry) (plan : Plan) (conflicts : List Conflict)
include faithful real

/-- With a faithful store the steps of the plan are followed by its files. -/
theorem carryOut_of_isFaithful :
    let phase := StorePhase.run backend state (StoreStep.ofPlan plan beadsIssues)
    carryOut disk today backend state options beadsIssues entries plan conflicts =
      finish disk today options entries plan phase.state phase.notices
        (Summary.ofStorePhase conflicts phase) := by
  intro phase
  have noFault : phase.fault = none :=
    (StorePhase.run_of_isFaithful faithful state (StoreStep.ofPlan plan beadsIssues)).1
  rw [carryOut, if_neg (by simp [real])]
  dsimp only
  rw [show (StorePhase.run backend state (StoreStep.ofPlan plan beadsIssues)).fault = none from
    noFault]

/-- A faithful store holds what the steps of the plan make of it. -/
theorem contents_carryOut :
    contents (carryOut disk today backend state options beadsIssues entries plan conflicts).state =
      StorePhase.applied (contents state) (StoreStep.ofPlan plan beadsIssues) := by
  rw [carryOut_of_isFaithful faithful disk today state real]
  exact (StorePhase.run_of_isFaithful faithful state (StoreStep.ofPlan plan beadsIssues)).2

end CarryingOut

end ReconcileRun

namespace ReconcileOptions

variable {options : ReconcileOptions} {beadsIssues fileIssues beadsAfter fileAfter : List Issue}

/-- The copies of an issue on both sides. -/
def copiesOf (beadsIssues fileIssues : List Issue) (id : Text) : Copies :=
  ⟨Issue.lastWithId? id beadsIssues, Issue.lastWithId? id fileIssues⟩

/-- A settled issue has the identifier of the copies that it comes from. -/
theorem id_of_settle {copies : Copies} {id : Text} {issue : Issue}
    (beadsId : ∀ beads ∈ copies.beads, beads.id = id) (fileId : ∀ file ∈ copies.file, file.id = id)
    (settled : (options.settle copies).beads = some issue) : issue.id = id := by
  rcases copies with ⟨_ | beads, _ | file⟩ <;> dsimp only [settle] at settled
  · cases settled
  · split_ifs at settled
    obtain rfl := Option.some.inj settled
    exact fileId file rfl
  · split_ifs at settled
    exact beadsId issue settled
  · split at settled
    · exact beadsId issue settled
    · exact beadsId issue settled
    · obtain rfl := Option.some.inj settled
      exact beadsId beads rfl

/-- A store in which every copy settled can be listed. -/
theorem exists_areListed_of_settle {contents : Contents} (held : ∀ id,
    contents id = (options.settle (copiesOf beadsIssues fileIssues id)).beads) :
    ∃ issues, contents.AreListed issues := by
  refine @Contents.exists_areListed contents ((beadsIssues ++ fileIssues).map Issue.id)
    (fun id issue found => ?_) fun id found => ?_
  · rw [held] at found
    exact id_of_settle (fun beads stored => (Issue.of_lastWithId? stored).2)
      (fun file filed => (Issue.of_lastWithId? filed).2) found
  · by_contra absent
    rw [List.map_append, List.mem_append, not_or] at absent
    have missing {issues : List Issue} (absent : id ∉ issues.map Issue.id) :
        Issue.lastWithId? id issues = none :=
      Issue.lastWithId?_eq_none.mpr fun issue place same =>
        absent (List.mem_map.mpr ⟨issue, place, same⟩)
    rw [held, copiesOf, missing absent.1, missing absent.2] at found
    cases found

/-- Both sides hold what their copies settled into. -/
structure AreSettled (options : ReconcileOptions)
    (beadsIssues fileIssues beadsAfter fileAfter : List Issue) : Prop where
  /-- Identifiers in the store are distinct. -/
  beadsDistinct : (beadsAfter.map Issue.id).Nodup
  /-- Identifiers in files are distinct. -/
  filesDistinct : (fileAfter.map Issue.id).Nodup
  /-- Every pair of copies is what the pair from before settled into. -/
  copies : ∀ id, copiesOf beadsAfter fileAfter id =
    options.settle (copiesOf beadsIssues fileIssues id)

variable (beadsCarried : ∀ beads ∈ beadsIssues, beads.IsCarried)
  (filesCarried : ∀ file ∈ fileIssues, file.IsCarried)
  (settled : options.AreSettled beadsIssues fileIssues beadsAfter fileAfter)
include beadsCarried filesCarried settled

/-- What is there under an identifier after both sides settled. -/
theorem AreSettled.cases (id : Text) :
    (Issue.lastWithId? id beadsAfter = none ∧ Issue.lastWithId? id fileAfter = none ∧
        options.leftover (copiesOf beadsIssues fileIssues id) = []) ∨
      ∃ beads file, Issue.lastWithId? id beadsAfter = some beads ∧
        Issue.lastWithId? id fileAfter = some file ∧
        Facet.differing beads file = options.leftover (copiesOf beadsIssues fileIssues id) ∧
        (options.leftover (copiesOf beadsIssues fileIssues id) ≠ [] →
          options.keptSide? beads file = some .file ∧
            Patch.updateCalls file (some beads) = []) := by
  have copies := settled.copies id
  have beadsWhole : ∀ beads ∈ (copiesOf beadsIssues fileIssues id).beads, beads.IsCarried :=
    fun beads stored => beadsCarried beads (Issue.of_lastWithId? stored).1
  have fileWhole : ∀ file ∈ (copiesOf beadsIssues fileIssues id).file, file.IsCarried :=
    fun file found => filesCarried file (Issue.of_lastWithId? found).1
  rcases settle_cases options beadsWhole fileWhole with
    ⟨gone, none⟩ | ⟨beads, file, left, differ, again⟩
  · rw [gone] at copies
    exact .inl ⟨congrArg Copies.beads copies, congrArg Copies.file copies, none⟩
  · rw [left] at copies
    exact .inr ⟨beads, file, congrArg Copies.beads copies, congrArg Copies.file copies,
      differ, again⟩

/-- Settled sides have the same identifiers. -/
theorem AreSettled.hasId_eq (id : Text) : Issue.hasId id beadsAfter = Issue.hasId id fileAfter := by
  rcases settled.cases beadsCarried filesCarried id with
    ⟨stored, found, -⟩ | ⟨beads, file, stored, found, -⟩
  · rw [Issue.lastWithId?_eq_none_iff_hasId.mp stored, Issue.lastWithId?_eq_none_iff_hasId.mp found]
  · obtain ⟨beadsPresent, rfl⟩ := Issue.of_lastWithId? stored
    obtain ⟨filePresent, same⟩ := Issue.of_lastWithId? found
    rw [Issue.hasId_of_mem beadsPresent, ← same, Issue.hasId_of_mem filePresent]

/-- Settled copies differ in what a run leaves over of the copies before. -/
theorem AreSettled.differing_eq {beads file : Issue} (beadsPresent : beads ∈ beadsAfter)
    (filePresent : file ∈ fileAfter) (same : beads.id = file.id) :
    Facet.differing beads file = options.leftover (copiesOf beadsIssues fileIssues beads.id) := by
  have stored := (Issue.lastWithId?_eq_some settled.beadsDistinct).mpr ⟨beadsPresent, rfl⟩
  have found := (Issue.lastWithId?_eq_some settled.filesDistinct).mpr ⟨filePresent, same.symm⟩
  rcases settled.cases beadsCarried filesCarried beads.id with
    ⟨absent, -⟩ | ⟨other, another, otherStored, anotherFound, differ, -⟩
  · exact absurd (stored.symm.trans absent) (Option.some_ne_none _)
  · obtain rfl := Option.some.inj (stored.symm.trans otherStored)
    obtain rfl := Option.some.inj (found.symm.trans anotherFound)
    exact differ

/-- No changes are found exactly when nothing is left. -/
theorem AreSettled.changes_eq_empty (next : ReconcileOptions) :
    next.changes beadsAfter fileAfter = Changes.empty ↔
      ∀ id, options.leftover (copiesOf beadsIssues fileIssues id) = [] := by
  rw [ReconcileOptions.changes_eq_empty settled.beadsDistinct]
  constructor
  · rintro ⟨-, agree⟩ id
    rcases settled.cases beadsCarried filesCarried id with
      ⟨-, -, none⟩ | ⟨beads, file, stored, found, differ, -⟩
    · exact none
    · obtain ⟨beadsPresent, rfl⟩ := Issue.of_lastWithId? stored
      obtain ⟨filePresent, same⟩ := Issue.of_lastWithId? found
      rw [← differ]
      exact agree beads beadsPresent file filePresent same.symm
  · intro none
    refine ⟨settled.hasId_eq beadsCarried filesCarried, ?_⟩
    intro beads beadsPresent file filePresent same
    rw [settled.differing_eq beadsCarried filesCarried beadsPresent filePresent same, none]

/-- The plan for settled sides is idle. -/
theorem AreSettled.isIdle_plan (both : options.direction = .bothWays) :
    (options.plan beadsAfter fileAfter).IsIdle beadsAfter := by
  have sameIds := settled.hasId_eq beadsCarried filesCarried
  have filed : ∀ beads ∈ beadsAfter, Issue.hasId beads.id fileAfter = true := fun beads place =>
    (sameIds beads.id).symm.trans (Issue.hasId_of_mem place)
  have stored : ∀ file ∈ fileAfter, Issue.hasId file.id beadsAfter = true := fun file place =>
    (sameIds file.id).trans (Issue.hasId_of_mem place)
  -- A pair that is still different keeps the file again, and no call would help.
  have again {beads file : Issue} (place : file ∈ fileAfter)
      (same : Issue.lastWithId? file.id beadsAfter = some beads) {side : Side}
      (kept : options.keptSide? beads file = some side) :
      side = .file ∧ Patch.updateCalls file (some beads) = [] := by
    have found := (Issue.lastWithId?_eq_some settled.filesDistinct).mpr ⟨place, rfl⟩
    rcases settled.cases beadsCarried filesCarried file.id with
      ⟨absent, -⟩ | ⟨other, another, otherStored, anotherFound, differ, again⟩
    · exact absurd (same.symm.trans absent) (Option.some_ne_none _)
    · obtain rfl := Option.some.inj (same.symm.trans otherStored)
      obtain rfl := Option.some.inj (found.symm.trans anotherFound)
      have left : options.leftover (copiesOf beadsIssues fileIssues file.id) ≠ [] := by
        intro none
        rw [none] at differ
        rw [keptSide?_of_agreed differ] at kept
        cases kept
      obtain ⟨keptAgain, calls⟩ := again left
      exact ⟨Option.some.inj (kept.symm.trans keptAgain), calls⟩
  constructor
  · rw [List.eq_nil_iff_forall_not_mem]
    intro beads written
    rcases (mem_fileWrites both).mp written with ⟨place, absent, -⟩ | ⟨file, place, same, kept⟩
    · rw [filed beads place] at absent
      cases absent
    · cases (again place same kept).1
  · rw [plan_fileRemovals both, List.map_eq_nil_iff, List.filter_eq_nil_iff]
    intro file place
    simp [stored file place]
  · rw [plan_beadsCreates both, List.filter_eq_nil_iff]
    intro file place
    simp [stored file place]
  · intro file updated
    obtain ⟨place, beads, same, kept⟩ :=
      (mem_beadsUpdates both settled.filesDistinct).mp updated
    rw [StoreStep.update, same]
    exact (again place same kept).2
  · rw [plan_beadsDeletes both, List.map_eq_nil_iff, List.filter_eq_nil_iff]
    intro beads place
    simp [filed beads place]

end ReconcileOptions

/-- The plan for no changes does nothing. -/
theorem Plan.isIdle_ofChanges_empty (direction : Direction) (deletes : Bool)
    (beadsIssues fileIssues : List Issue) :
    (Plan.ofChanges Changes.empty direction deletes beadsIssues fileIssues).IsIdle
      beadsIssues := by
  constructor <;> simp [Plan.ofChanges, Changes.empty]

namespace ReconcileRun

open ReconcileOptions

section Loaded

variable {State : Type} {disk : Disk} (today : Date) (backend : Backend State) (state : State)
  {options : ReconcileOptions} {beadsIssues : List Issue} {entries : List Book.Entry}
  (listed : (StoreLog.load disk options.beadsRoot).value = .ok beadsIssues)
  (filed : (Book.load disk options.todoRoot).value = .ok entries)
include listed filed

/-- When both sides can be read, the plan for them is carried out. -/
theorem reconcile_of_loaded :
    let plan := options.plan beadsIssues (entries.map Book.Entry.issue)
    let conflicts := (options.changes beadsIssues (entries.map Book.Entry.issue)).conflicts
    let run :=
      carryOut disk today backend state options beadsIssues entries plan conflicts
    (reconcile disk today backend state options).disk = run.disk ∧
      (reconcile disk today backend state options).state = run.state ∧
      (reconcile disk today backend state options).summary = run.summary := by
  unfold reconcile
  dsimp only
  rw [listed]
  dsimp only
  rw [filed]
  exact ⟨rfl, rfl, rfl⟩

/-- A reconciliation whose plan is idle has no effect, and leaves the disk and the store. -/
theorem reconcile_of_idle
    (idle : (options.plan beadsIssues (entries.map Book.Entry.issue)).IsIdle beadsIssues) :
    effects disk today backend state options = [] ∧
      (reconcile disk today backend state options).disk = disk ∧
      (reconcile disk today backend state options).state = state := by
  have none : effects disk today backend state options = [] := by
    rw [effects_of_loaded options listed filed]
    exact effectsOf_of_idle idle disk today backend state options entries _
  have performed := reconcile_performs disk today backend state options
  rw [none] at performed
  exact ⟨none, congrArg Prod.fst performed.symm, congrArg Prod.snd performed.symm⟩

end Loaded

/-- Both sides as a reconciliation with some options leaves them, when the copies under an
identifier may still differ in some facets. -/
structure AreAtRest (options : ReconcileOptions) (leftAt : Text → List Facet)
    (beadsAfter : List Issue) (entriesAfter : List Book.Entry) : Prop where
  /-- Both sides have the same identifiers. -/
  sameIds : ∀ id,
    Issue.hasId id beadsAfter = Issue.hasId id (entriesAfter.map Book.Entry.issue)
  /-- Two copies differ in what is left. -/
  differing : ∀ beads ∈ beadsAfter, ∀ file ∈ entriesAfter.map Book.Entry.issue,
    beads.id = file.id → Facet.differing beads file = leftAt beads.id
  /-- No changes are found exactly when nothing is left. -/
  changes : ∀ strategy lastAgreedAt window,
    Changes.between beadsAfter (entriesAfter.map Book.Entry.issue) strategy lastAgreedAt window =
      Changes.empty ↔ ∀ id, leftAt id = []
  /-- Where both sides are found like that, a reconciliation with the same options has no effect,
  and neither has one with any others when nothing is left. -/
  again : ∀ {Other : Type} (other : Backend Other) (found : Other) (left : Disk) (later : Date)
    (next : ReconcileOptions), (next = options ∨ ∀ id, leftAt id = []) →
    (StoreLog.load left next.beadsRoot).value = .ok beadsAfter →
    (Book.load left next.todoRoot).value = .ok entriesAfter →
    effects left later other found next = [] ∧
      (reconcile left later other found next).disk = left ∧
      (reconcile left later other found next).state = found

/-- Sides that a run has settled are at rest for the next one. -/
theorem areAtRest_of_areSettled {options : ReconcileOptions}
    {beadsIssues fileIssues beadsAfter : List Issue} {entriesAfter : List Book.Entry}
    (both : options.direction = .bothWays)
    (beadsCarried : ∀ beads ∈ beadsIssues, beads.IsCarried)
    (filesCarried : ∀ file ∈ fileIssues, file.IsCarried)
    (settled : options.AreSettled beadsIssues fileIssues beadsAfter
      (entriesAfter.map Book.Entry.issue)) :
    AreAtRest options (fun id => options.leftover (copiesOf beadsIssues fileIssues id)) beadsAfter
      entriesAfter := by
  have unchanged (next : ReconcileOptions) :=
    settled.changes_eq_empty beadsCarried filesCarried next
  constructor
  case sameIds => exact settled.hasId_eq beadsCarried filesCarried
  case differing =>
    intro beads beadsPlace file filePlace same
    exact settled.differing_eq beadsCarried filesCarried beadsPlace filePlace same
  case changes =>
    intro strategy lastAgreedAt window
    exact unchanged { options with strategy, lastAgreedAt, window }
  case again =>
    intro Other other found left later next allowed listed filed
    refine reconcile_of_idle later other found listed filed ?_
    rcases allowed with rfl | none
    · exact settled.isIdle_plan beadsCarried filesCarried both
    · change (Plan.ofChanges (next.changes beadsAfter (entriesAfter.map Book.Entry.issue))
        next.direction next.deletes beadsAfter (entriesAfter.map Book.Entry.issue)).IsIdle
          beadsAfter
      rw [(unchanged next).mpr none]
      exact Plan.isIdle_ofChanges_empty _ _ _ _

end ReconcileRun

open ReconcileOptions ReconcileRun

namespace ReconcileRun

open Book (titled)

/-- Where the issue files of the project are. -/
def todoHome : Place :=
  ["p", ".todo"]

/-- The place of the book is tidy. -/
theorem isTidy_todoHome : todoHome.IsTidy := by
  unfold Place.IsTidy
  decide

/-- It is reached in a project that is there. -/
theorem reaches_todoHome {disk : Disk} (project : disk.node? ["p"] = some .directory) :
    disk.Reaches todoHome where
  length := by decide +kernel
  passes := Disk.passes_cons.mpr ⟨rfl, by decide +kernel,
    Disk.passes_cons.mpr ⟨project, by decide +kernel, Disk.passes_nil _ _⟩⟩

/-- The uneven project has a flat book. -/
theorem uneven_isBook : uneven.IsBook todoHome := by
  refine .of_flat ["b-2.md", "c-3.md"] isTidy_todoHome (by decide +kernel) (.of_linkCount rfl _)
    (reaches_todoHome rfl) (by decide +kernel) (by decide +kernel) (by decide) ?_ rfl
  unfold Place.IsTidy
  decide +kernel

/-- An issue with nothing but an identifier and a title. -/
theorem isCarried_titled {id title : Text} (side : Side) (clean : Text.IsClean id)
    (unbroken : (titled id title).IsUnbroken) (single : Text.IsSingleLine title) :
    ((titled id title).withSource side).IsCarried where
  valid := Issue.isValid_withSource (Book.isValid_titled clean) side
  unbroken := unbroken
  single := single
  bare := rfl

/-- Its issues can be carried from one side to the other. -/
theorem uneven_carried :
    ∀ issue ∈ unevenStore ++ unevenBook.map Book.Entry.issue, issue.IsCarried := by
  refine List.forall_mem_append.mpr ⟨?_, ?_⟩
  all_goals
    exact List.forall_mem_cons.mpr ⟨isCarried_titled _ (by decide) (by decide) (by decide),
      List.forall_mem_singleton.mpr
        (isCarried_titled _ (by decide) (by decide) (by decide))⟩

/-- The write of the issue without a file. -/
def unevenWrite : PlannedWrite :=
  ⟨(titled "a-1" "A").withSource .beads, ⟨.root, ["p", ".todo", "a-1.md"]⟩, "a-1.md"⟩

/-- The run plans to write one file. -/
theorem uneven_planned :
    FilePhase.writeOptions uneven filesFirst (FilePhase.filesById unevenBook)
        unevenPlan.fileWrites = .ok unevenOptions ∧
      Book.plan uneven ⟨2024, 1, 1⟩ filesFirst.todoRoot unevenOptions unevenPlan.fileWrites =
        .ok [unevenWrite] :=
  ⟨uneven_writeOptions false, uneven_named false⟩

/-- It writes that file. -/
theorem uneven_written :
    let run := Book.writeAll uneven filesFirst.todoRoot unevenOptions.previousPaths [unevenWrite]
    run.fault = none ∧ run.report.failed = [] ∧
      FilePhase.namesWithin run.disk filesFirst.todoRoot run.report.written = .ok ["a-1.md"] := by
  decide +kernel

/-- It comes to its end without a failure. -/
theorem uneven_done : ∃ done : Summary,
    (reconcile uneven ⟨2024, 1, 1⟩ Backend.plain (Contents.ofIssues unevenStore)
        filesFirst).summary = .ok done ∧ done.isOk = true := by
  obtain ⟨decided, planned⟩ := uneven_planned
  obtain ⟨noFault, failed, names⟩ := uneven_written
  have wrote (summary : Summary) : (FilePhase.write uneven ⟨2024, 1, 1⟩ filesFirst
      (FilePhase.filesById unevenBook) unevenPlan.fileWrites summary).summary =
        .ok ((summary.withFailures []).withWritten ["a-1.md"] ["a-1"]
          (FilePhase.filesById unevenBook).has) := by
    rw [FilePhase.write, if_neg (by decide), decided]
    dsimp only
    rw [if_neg (by decide), FilePhase.makeWrites, Book.write, planned]
    dsimp only
    rw [noFault]
    dsimp only
    rw [failed, names]
    rfl
  rw [summary_of_loaded filesFirst uneven_loaded.1 uneven_loaded.2,
    carryOut_of_isFaithful Backend.isFaithful_plain _ _ _ rfl]
  dsimp only [finish]
  change ∃ done, (FilePhase.run uneven _ filesFirst unevenBook unevenPlan _).summary = _ ∧ _
  rw [FilePhase.run]
  dsimp only
  rw [wrote]
  exact ⟨_, rfl, rfl⟩

/-- What the store holds of the issue that waits in its file alone. -/
def waitingOnlyStored : Issue :=
  (titled "a-1" "T").withSource .beads

/-- Two copies that differ in what the issue waits for can be carried. -/
theorem waitingOnly_carried :
    ∀ issue ∈ [waitingOnlyStored, waitingOnlyEntry.issue], issue.IsCarried := by
  refine List.forall_mem_cons.mpr ⟨isCarried_titled _ (by decide) (by decide) (by decide),
    List.forall_mem_singleton.mpr ?_⟩
  constructor
  · constructor <;> decide
  · decide
  · decide
  · decide

/-- The file's copy is kept. -/
theorem waitingOnly_kept :
    filesFirst.keptSide? waitingOnlyStored waitingOnlyEntry.issue = some .file := by
  decide +kernel

end ReconcileRun

end Issuebook
