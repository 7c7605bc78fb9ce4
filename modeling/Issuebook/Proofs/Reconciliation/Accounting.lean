import Issuebook.Proofs.Book.Surviving
import Issuebook.Proofs.Reconciliation.Damage
import Issuebook.Proofs.Reconciliation.Ledger

/-!
# Accounting

The ledgers of the parts of a run. With a store whose faults concern one call each, every change of
the store is tried whatever becomes of the others: `StorePhase.accounts_run`. The files' part tries
every write of a plan that is made, and every removal, and tells in its summary what became of each:
`FilePhase.exists_ledger_run`.
-/

namespace Issuebook

open Effect (AllSucceed allSucceed_cons performAll)

variable {State : Type} {backend : Backend State} {root : Path} {disk : Disk} {state : State}
  {stopped : Option Fault}

/-- A store whose faults concern one call each: a batch goes on after any of them. -/
def Backend.IsSurvivable (backend : Backend State) : Prop :=
  ∀ state call fault, (backend.answer state call).1.value = .error fault →
    fault.isSurvivable = true

/-! ## The store's part -/

namespace StoreStep

/-- A step of the store whose calls all belong to its action. -/
structure IsDirect (step : StoreStep) : Prop where
  /-- It changes the store. -/
  inStore : step.operation = .create ∨ step.operation = .update ∨ step.operation = .delete
  /-- Each call belongs to the action. -/
  about : ∀ call ∈ step.calls.map Prod.snd,
    (Effect.call call).attempted = (step.operation, step.id)

/-- The calls of an update belong to it. -/
theorem isDirect_update (beadsIssues : List Issue) (file : Issue) :
    (update beadsIssues file).IsDirect where
  inStore := .inr (.inl rfl)
  about call present := by
    obtain ⟨made, listed, rfl⟩ := List.mem_map.mp present
    have action : (Effect.call made.2).action ∈ (update beadsIssues file).actions :=
      List.mem_map_of_mem listed
    unfold Effect.attempted
    rcases List.mem_cons.mp ((actions_update beadsIssues file).subset action) with
      updates | closes
    · rw [updates]
      rfl
    · rw [List.mem_singleton.mp closes]
      rfl

/-- The steps of a plan take only calls that belong to their actions. -/
theorem isDirect_of_mem_ofPlan {plan : Plan} {beadsIssues : List Issue} {step : StoreStep}
    (present : step ∈ ofPlan plan beadsIssues) : step.IsDirect := by
  rcases List.mem_append.mp present with present | deletes
  · rcases List.mem_append.mp present with creates | updates
    · obtain ⟨issue, -, rfl⟩ := List.mem_map.mp creates
      refine ⟨.inl rfl, fun call called => ?_⟩
      rw [List.mem_singleton.mp called]
      rfl
    · obtain ⟨file, -, rfl⟩ := List.mem_map.mp updates
      exact isDirect_update beadsIssues file
  · obtain ⟨id, -, rfl⟩ := List.mem_map.mp deletes
    refine ⟨.inr (.inr rfl), fun call called => ?_⟩
    rw [List.mem_singleton.mp called]
    rfl

/-- Calls that are all accepted succeed. -/
theorem allSucceed_of_done {calls : List (Operation × Call)}
    (done : (makeCalls backend state calls).1.value = .done) :
    AllSucceed backend root (disk, state) (callsMade backend state calls) := by
  induction calls generalizing state with
  | nil => exact .nil _
  | cons first calls inductionHypothesis =>
      obtain ⟨operation, call⟩ := first
      rw [makeCalls] at done
      rw [callsMade]
      rcases given : backend.answer state call with ⟨⟨notices, fault | answer⟩, next⟩
      · rw [given] at done
        cases done
      · rw [given] at done
        dsimp only at done ⊢
        by_cases accepted : answer.accepted = true
        · rw [if_pos accepted] at done ⊢
          refine .cons ⟨notices, answer, by rw [given], accepted⟩ ?_
          rw [Effect.perform, given]
          exact inductionHypothesis done
        · rw [if_neg accepted] at done
          cases done

/-- With such a store no call ends the run. -/
theorem survives_makeCalls (survivable : backend.IsSurvivable) (state : State)
    (calls : List (Operation × Call)) :
    StorePhase.endingFault? (makeCalls backend state calls).1.value = none := by
  induction calls generalizing state with
  | nil => rfl
  | cons first calls inductionHypothesis =>
      obtain ⟨operation, call⟩ := first
      have survives := survivable state call
      rw [makeCalls]
      rcases given : backend.answer state call with ⟨⟨notices, fault | answer⟩, next⟩
      · rw [given] at survives
        exact if_pos (survives fault rfl)
      · dsimp only
        split_ifs
        · exact inductionHypothesis next
        · rfl

/-- No step ends it. -/
theorem survives_perform (survivable : backend.IsSurvivable) (state : State) (step : StoreStep) :
    StorePhase.endingFault? (step.perform backend state).1.value = none := by
  unfold perform
  split_ifs
  · rfl
  · exact survives_makeCalls survivable state step.calls

/-- Calls that are made are not nothing. -/
theorem makeCalls_ne_idle (backend : Backend State) (state : State)
    (calls : List (Operation × Call)) :
    (makeCalls backend state calls).1.value ≠ .idle := by
  induction calls generalizing state with
  | nil => exact fun impossible => by cases impossible
  | cons first calls inductionHypothesis =>
      obtain ⟨operation, call⟩ := first
      rw [makeCalls]
      rcases backend.answer state call with ⟨⟨notices, fault | answer⟩, next⟩
      · exact fun impossible => by cases impossible
      · dsimp only
        split_ifs
        · exact inductionHypothesis next
        · exact fun impossible => by cases impossible

/-- What an outcome says of its step, unless it took no call. -/
def attempt? (step : StoreStep) (outcome : StoreOutcome) : Option Attempt :=
  if outcome = .idle then none
  else some ⟨step.operation, step.id, step.failure? outcome⟩

/-- A step that was tried has no failure exactly when it is done. -/
theorem failure?_eq_none {step : StoreStep} {outcome : StoreOutcome} (tried : outcome ≠ .idle) :
    step.failure? outcome = none ↔ outcome = .done := by
  cases outcome <;> simp_all [failure?]

/-- A failure is told under the identifier of its step. -/
theorem id_of_failure? {step : StoreStep} {outcome : StoreOutcome} {failure : Failure}
    (failed : step.failure? outcome = some failure) : failure.id = step.id := by
  cases outcome with
  | rejected | failed => exact congrArg Failure.id (Option.some.inj failed).symm
  | _ => cases failed

/-- A step with calls is tried. -/
theorem perform_ne_idle (backend : Backend State) (state : State) {step : StoreStep}
    (calls : ¬step.calls.isEmpty = true) : (step.perform backend state).1.value ≠ .idle := by
  rw [perform, if_neg calls]
  exact makeCalls_ne_idle backend state step.calls

/-- A step that takes a call is the action of its calls. -/
theorem IsDirect.accounts_cons {step : StoreStep} (direct : step.IsDirect)
    (calls : ¬step.calls.isEmpty = true) {effects : List Effect} {ledger : Ledger}
    (later : Accounts backend root stopped (disk, (step.perform backend state).2) effects ledger) :
    Accounts backend root stopped (disk, state) (callsMade backend state step.calls ++ effects)
      (⟨step.operation, step.id, step.failure? (step.perform backend state).1.value⟩ ::
        ledger) := by
  have tried := perform_ne_idle backend state calls
  have performed : step.perform backend state = makeCalls backend state step.calls :=
    if_neg calls
  rw [performed] at later tried ⊢
  refine .tried ?_ ?_ ?_ ?_ ?_ ?_
  · cases given : step.calls with
    | nil => exact absurd (List.isEmpty_iff.mpr given) calls
    | cons first others => simp [callsMade]
  · intro effect made
    obtain ⟨call, called, rfl⟩ := mem_callsMade backend made
    exact direct.about call called
  · intro write
    rcases direct.inStore with same | same | same <;> cases same.symm.trans write
  · rw [failure?_eq_none tried]
    exact ⟨allSucceed_of_done, makeCalls_of_allSucceed⟩
  · exact fun failure failed => id_of_failure? failed
  · rw [performAll_callsMade]
    exact later

end StoreStep

namespace StorePhase

/-- The ledger of the store's part. -/
def ledger (phase : StorePhase State) : Ledger :=
  phase.outcomes.filterMap fun (step, outcome) => step.attempt? outcome

/-- Every step that takes a call is tried, whatever becomes of the others. -/
theorem accounts_run (survivable : backend.IsSurvivable) {steps : List StoreStep}
    (direct : ∀ step ∈ steps, step.IsDirect) :
    (run backend state steps).fault = none ∧
      (run backend state steps).ledger.actions =
        (steps.filter fun step => !step.calls.isEmpty).map
          (fun step => (step.operation, step.id)) ∧
      Accounts backend root stopped (disk, state) (callsMade backend state steps)
        (run backend state steps).ledger := by
  induction steps generalizing state with
  | nil => exact ⟨rfl, rfl, .nil _⟩
  | cons step steps inductionHypothesis =>
      obtain ⟨own, others⟩ := List.forall_mem_cons.mp direct
      have survives := StoreStep.survives_perform survivable state step
      obtain ⟨noFault, actions, accounts⟩ :=
        (inductionHypothesis others : (run backend (step.perform backend state).2 steps).fault =
          none ∧ _)
      rw [run, callsMade]
      dsimp only
      rw [survives]
      refine ⟨noFault, ?_⟩
      unfold ledger Ledger.actions at actions ⊢
      dsimp only
      rw [List.filterMap_cons, List.filter_cons]
      by_cases idle : step.calls.isEmpty = true
      · have performed : step.perform backend state = (⟨[], .idle⟩, state) := if_pos idle
        rw [performed] at actions accounts ⊢
        rw [List.isEmpty_iff.mp idle]
        exact ⟨actions, accounts⟩
      · have tried := StoreStep.perform_ne_idle backend state idle
        rw [StoreStep.attempt?, if_neg tried, if_pos (by simpa using idle)]
        exact ⟨congrArg (_ :: ·) actions, own.accounts_cons idle accounts⟩

/-- The identifiers that are done with an operation are those that the ledger has as done. -/
theorem doneIds_eq (phase : StorePhase State) (operation : Operation) :
    phase.doneIds operation =
      (phase.ledger.done.filter fun attempt => attempt.operation = operation).map
        Attempt.id := by
  unfold doneIds Ledger.done ledger
  rw [List.filter_filterMap, List.filter_filterMap, List.map_filterMap]
  refine congrArg (List.filterMap · phase.outcomes) (funext ?_)
  rintro ⟨step, outcome⟩
  by_cases same : step.operation = operation <;>
    cases outcome <;> simp [StoreStep.attempt?, StoreStep.failure?, same, Option.filter]

/-- The summary of the store's part tells its ledger. -/
theorem tells_ofStorePhase {phase : StorePhase State} (hadFile : Text → Bool)
    (conflicts : List Conflict)
    (inStore : ∀ attempt ∈ phase.ledger, attempt.operation = .create ∨
      attempt.operation = .update ∨ attempt.operation = .delete) :
    (Summary.ofStorePhase conflicts phase).Tells hadFile phase.ledger where
  lists listing := by
    have shape (operation : Operation) (same : ∀ attempt ∈ phase.ledger,
        attempt.operation = operation ↔ attempt.listing hadFile = listing) :
        phase.doneIds operation = phase.ledger.listed hadFile listing := by
      rw [doneIds_eq, Ledger.listed]
      refine congrArg (List.map Attempt.id) (List.filter_congr fun attempt present => ?_)
      exact decide_eq_decide.mpr (same attempt (List.mem_of_mem_filter present))
    cases listing with
    | created =>
        refine shape .create fun attempt present => ?_
        unfold Attempt.listing
        rcases inStore attempt present with same | same | same <;> simp [same]
    | updated =>
        refine shape .update fun attempt present => ?_
        unfold Attempt.listing
        rcases inStore attempt present with same | same | same <;> simp [same]
    | deleted =>
        refine shape .delete fun attempt present => ?_
        unfold Attempt.listing
        rcases inStore attempt present with same | same | same <;> simp [same]
  failures := by
    change phase.failures = phase.ledger.failures
    unfold failures Ledger.failures ledger
    rw [List.filterMap_filterMap]
    refine congrArg (List.filterMap · phase.outcomes) (funext ?_)
    rintro ⟨step, outcome⟩
    cases outcome <;> simp [StoreStep.attempt?, StoreStep.failure?]

end StorePhase

/-! ## Writing files -/

/-- The ledger of a batch of files. -/
def WriteReport.ledger (report : WriteReport) : Ledger :=
  report.map fun (planned, outcome) =>
    ⟨.write, planned.issue.id,
      match outcome with
      | .failed fault => some ⟨planned.issue.id, .write, fault.message⟩
      | .written _ => none⟩

/-- The ledger of a batch has the failures of its report. -/
theorem WriteReport.failures_ledger (report : WriteReport) :
    report.ledger.failures = report.failed.map fun (id, detail) => ⟨id, .write, detail⟩ := by
  unfold ledger Ledger.failures failed
  rw [List.filterMap_map, List.map_filterMap]
  refine congrArg (List.filterMap · report) (funext fun (planned, outcome) => ?_)
  cases outcome <;> rfl

namespace Book

/-- Every file of a plan that is not ended early is tried. -/
theorem accounts_writeAll {former : Entries Path} {planned : List PlannedWrite}
    (ended : (writeAll disk root former planned).fault = none) :
    (writeAll disk root former planned).report.ledger.actions =
        planned.map (fun write => (.write, write.issue.id)) ∧
      Accounts backend root none (disk, state) (writesMade root former disk planned)
        (writeAll disk root former planned).report.ledger := by
  induction planned generalizing disk with
  | nil => exact ⟨rfl, .nil _⟩
  | cons write later inductionHypothesis =>
      rw [writeAll] at ended ⊢
      rw [writesMade]
      rcases tried : writeOne disk root former write with ⟨fault | outcome, left⟩
      · rw [tried] at ended
        cases ended
      · rw [tried] at ended
        obtain ⟨actions, accounts⟩ := inductionHypothesis ended
        have performed : (Effect.write former write).perform backend root (disk, state) =
            (left, state) := by
          rw [Effect.perform, tried]
        rw [← performed] at accounts
        refine ⟨congrArg (_ :: ·) actions, accounts.single rfl (fun _ => rfl) ?_ ?_⟩
        · rw [Effect.Succeeds, tried]
          cases outcome <;> simp
        · intro failure failed
          cases outcome with
          | failed fault => exact congrArg Failure.id (Option.some.inj failed).symm
          | written stale => cases failed

end Book

namespace FilePhase

variable {today : Date} {options : ReconcileOptions} {files : Entries Path} {writing : List Issue}
  {before after : Summary} {earlier : Ledger}

/-- What stops the files of a part from being planned. -/
def planFault? (disk : Disk) (today : Date) (options : ReconcileOptions) (files : Entries Path)
    (writing : List Issue) : Option Fault :=
  if writing.isEmpty then none
  else
    match writeOptions disk options files writing with
    | .error _ => none
    | .ok how =>
      match Book.plan disk today options.todoRoot how writing with
      | .error fault => some fault
      | .ok _ => none

/-- The ledger of writes that are not planned. -/
def unplanned (fault : Fault) (writing : List Issue) : Ledger :=
  writing.map fun issue => ⟨.write, issue.id, some ⟨issue.id, .write, fault.message⟩⟩

/-- A batch that cannot be planned is accounted for without an effect. -/
theorem accounts_unplanned {fault : Fault} (expected : fault.isExpected = true)
    (writing : List Issue) : Accounts backend root (some fault) (disk, state) []
      (unplanned fault writing) := by
  induction writing with
  | nil => exact .nil _
  | cons issue writing inductionHypothesis =>
      exact .unplanned issue.id rfl expected inductionHypothesis

section Making

variable {how : WriteOptions} {hadFile : Text → Bool}

/-- Where the files are not planned, every write fails with the reason. -/
theorem tells_makeWrites_of_error {fault : Fault}
    (made : Book.plan disk today root how writing = .error fault)
    (tells : before.Tells hadFile earlier)
    (ended : (makeWrites disk today root how hadFile writing before).summary = .ok after) :
    fault.isExpected = true ∧ after.Tells hadFile (earlier ++ unplanned fault writing) := by
  unfold makeWrites Book.write at ended
  rw [made] at ended
  dsimp only [allFailed] at ended
  split_ifs at ended with expected
  obtain rfl := Except.ok.inj ended
  have failures : (unplanned fault writing).failures =
      writing.map fun issue => ⟨issue.id, .write, fault.message⟩ := by
    unfold unplanned Ledger.failures
    rw [List.filterMap_map, ← List.filterMap_eq_map]
    rfl
  rw [← failures]
  refine ⟨expected, tells.withFailures fun attempt present => ?_⟩
  obtain ⟨issue, -, rfl⟩ := List.mem_map.mp present
  rfl

/-- Where the files are planned, every write is tried. -/
theorem accounts_makeWrites {planned : List PlannedWrite} (backend : Backend State) (state : State)
    (made : Book.plan disk today root how writing = .ok planned)
    (tells : before.Tells hadFile earlier)
    (distinct : (earlier.map Attempt.id ++ writing.map Issue.id).Nodup)
    (ended : (makeWrites disk today root how hadFile writing before).summary = .ok after) :
    let ledger := (Book.writeAll disk root how.previousPaths planned).report.ledger
    ledger.actions = writing.map (fun issue => (.write, issue.id)) ∧
      Accounts backend root none (disk, state)
        (Book.writesMade root how.previousPaths disk planned) ledger ∧
      after.Tells hadFile (earlier ++ ledger) := by
  intro ledger
  unfold makeWrites Book.write at ended
  rw [made] at ended
  dsimp only at ended
  cases fault : (Book.writeAll disk root how.previousPaths planned).fault with
  | some fault =>
      rw [fault] at ended
      dsimp only [allFailed] at ended
      rw [if_neg (by rw [Book.isExpected_of_writeAll ‹_›]; decide)] at ended
      cases ended
  | none =>
      rw [fault] at ended
      dsimp only at ended
      obtain ⟨names, -, rfl⟩ := Fault.map_eq_ok.mp ended
      have issues := (Book.of_planFrom (Book.of_plan made).choose_spec.2).1
      obtain ⟨actions, accounts⟩ : _ ∧ Accounts backend root none (disk, state) _ _ :=
        Book.accounts_writeAll fault
      have own : ledger.actions = writing.map fun issue => (.write, issue.id) := by
        rw [actions, ← issues, List.map_map]
        rfl
      have ids : ledger.map Attempt.id = writing.map Issue.id := by
        rw [← Ledger.ids_actions, own, List.map_map]
        rfl
      refine ⟨own, accounts, ?_⟩
      rw [← WriteReport.failures_ledger, ← ids]
      refine tells.withWritten accounts.isNamed (fun attempt present => ?_) ?_ names
      · obtain ⟨entry, -, rfl⟩ := List.mem_map.mp present
        rfl
      · rw [List.map_append, ids]
        exact distinct

end Making

/-- Every write is tried where the files are planned, and otherwise every write fails. -/
theorem exists_ledger_write (backend : Backend State) (state : State)
    (real : options.isDry = false) (tells : before.Tells files.has earlier)
    (distinct : (earlier.map Attempt.id ++ writing.map Issue.id).Nodup)
    (ended : (write disk today options files writing before).summary = .ok after) :
    ∃ ledger : Ledger, ledger.actions = writing.map (fun issue => (.write, issue.id)) ∧
      Accounts backend options.todoRoot (planFault? disk today options files writing)
        (disk, state) (writesMade disk today options files writing) ledger ∧
      after.Tells files.has (earlier ++ ledger) := by
  unfold write at ended
  unfold planFault? writesMade
  by_cases empty : writing.isEmpty = true
  · rw [if_pos empty] at ended
    rw [if_pos empty, if_pos empty]
    obtain rfl := Except.ok.inj ended
    refine ⟨[], by rw [List.isEmpty_iff.mp empty]; rfl, .nil _, ?_⟩
    rwa [List.append_nil]
  · rw [if_neg empty] at ended
    rw [if_neg empty, if_neg empty]
    cases decided : writeOptions disk options files writing with
    | error fault =>
        rw [decided] at ended
        cases ended
    | ok how =>
        rw [decided] at ended
        dsimp only at ended ⊢
        rw [real, if_neg (by decide)] at ended
        cases made : Book.plan disk today options.todoRoot how writing with
        | error fault =>
            obtain ⟨expected, told⟩ := tells_makeWrites_of_error made tells ended
            exact ⟨unplanned fault writing, List.map_map, accounts_unplanned expected writing, told⟩
        | ok planned => exact ⟨_, accounts_makeWrites backend state made tells distinct ended⟩

/-! ## Removing files -/

/-- A removal that does not end the phase is tried, and told with what became of it. -/
theorem exists_attempt_removeOne (backend : Backend State) (state : State)
    {hadFile : Text → Bool} {id : Text} {path : Path} {between : Summary}
    (tells : before.Tells hadFile earlier) (found : files.get? id = some path)
    (ended : (removeOne root false files disk before id).summary = .ok between) :
    ∃ attempt : Attempt, attempt.action = (.remove, id) ∧
      (attempt.failure? = none ↔
        (Effect.delete id path).Succeeds backend root (disk, state)) ∧
      (∀ failure ∈ attempt.failure?, failure.id = attempt.id) ∧
      between.Tells hadFile (earlier ++ [attempt]) ∧
      (removeOne root false files disk before id).disk = (Book.deleteFile disk root path).2 ∧
      ∀ ids, deletionsMade root files disk (id :: ids) =
        .delete id path :: deletionsMade root files (Book.deleteFile disk root path).2 ids := by
  unfold removeOne at ended ⊢
  rw [Effect.Succeeds]
  simp only [deletionsMade]
  rw [found] at ended ⊢
  dsimp only at ended ⊢
  rw [if_neg (by decide)] at ended ⊢
  rcases tried : Book.deleteFile disk root path with ⟨⟨notices, fault | done⟩, left⟩ <;>
    rw [tried] at ended
  · dsimp only at ended ⊢
    by_cases survives : fault.isSurvivable = true
    · rw [if_pos survives] at ended ⊢
      obtain rfl := Except.ok.inj ended
      let failure : Failure := ⟨id, .remove, fault.message⟩
      refine ⟨⟨.remove, id, some failure⟩, rfl, by simp, ?_, ?_, rfl, fun ids => ?_⟩
      · exact fun other same => congrArg Failure.id (Option.some.inj same).symm
      · have failed : ∀ attempt ∈ [(⟨.remove, id, some failure⟩ : Attempt)],
            attempt.failure?.isSome := fun attempt same => by
          rw [List.mem_singleton.mp same]
          rfl
        exact tells.withFailures failed
      · rw [if_pos survives]
    · rw [if_neg survives] at ended
      cases ended
  · obtain rfl := Except.ok.inj ended
    refine ⟨⟨.remove, id, none⟩, rfl, iff_of_true rfl rfl, ?_, tells.withDeleted id, rfl,
      fun ids => rfl⟩
    exact fun other impossible => by cases impossible

/-- Every file of an issue that is to be removed is tried, whatever becomes of the others. -/
theorem exists_ledger_remove (backend : Backend State) (state : State) (stopped : Option Fault)
    {hadFile : Text → Bool} {ids : List Text} (tells : before.Tells hadFile earlier)
    (filed : ∀ id ∈ ids, ∃ path, files.get? id = some path)
    (ended : (remove root false files disk before ids).summary = .ok after) :
    ∃ ledger : Ledger, ledger.actions = ids.map (fun id => (.remove, id)) ∧
      Accounts backend root stopped (disk, state) (deletionsMade root files disk ids) ledger ∧
      after.Tells hadFile (earlier ++ ledger) := by
  induction ids generalizing disk before earlier with
  | nil =>
      obtain rfl := Except.ok.inj ended
      exact ⟨[], rfl, .nil _, by rwa [List.append_nil]⟩
  | cons id ids inductionHypothesis =>
      obtain ⟨⟨path, found⟩, others⟩ := List.forall_mem_cons.mp filed
      rw [remove] at ended
      dsimp only at ended
      cases first : (removeOne root false files disk before id).summary with
      | error fault =>
          rw [first] at ended
          cases first.symm.trans ended
      | ok between =>
          rw [first] at ended
          obtain ⟨attempt, action, told, named, tellsFirst, left, made⟩ :=
            exists_attempt_removeOne backend state tells found first
          obtain ⟨ledger, actions, accounts, tellsAll⟩ :=
            inductionHypothesis tellsFirst others ended
          rw [left] at accounts
          rw [List.append_assoc] at tellsAll
          rw [made]
          refine ⟨attempt :: ledger, ?_, accounts.single action.symm ?_ told named, tellsAll⟩
          · rw [Ledger.actions, List.map_cons, action]
            exact congrArg (_ :: ·) actions
          · intro write
            cases (congrArg Prod.fst action).symm.trans write

/-- The files' part tries every write, unless planning is stopped, and every removal. -/
theorem exists_ledger_run (backend : Backend State) (state : State)
    (real : options.isDry = false) {entries : List Book.Entry} {plan : Plan}
    (filed : ∀ id ∈ plan.fileRemovals, ∃ path, (filesById entries).get? id = some path)
    (tells : before.Tells (filesById entries).has earlier)
    (distinct : (earlier.map Attempt.id ++ plan.fileWrites.map Issue.id).Nodup)
    (ended : (run disk today options entries plan before).summary = .ok after) :
    ∃ ledger : Ledger,
      ledger.actions = plan.fileWrites.map (fun issue => (.write, issue.id)) ++
        plan.fileRemovals.map (fun id => (.remove, id)) ∧
      Accounts backend options.todoRoot
        (planFault? disk today options (filesById entries) plan.fileWrites) (disk, state)
        (effects disk today options entries plan before) ledger ∧
      after.Tells (filesById entries).has (earlier ++ ledger) := by
  unfold run at ended
  unfold effects
  dsimp only at ended ⊢
  have performed : performAll backend options.todoRoot (disk, state)
      (writesMade disk today options (filesById entries) plan.fileWrites) = _ :=
    performAll_writesMade backend disk state real plan.fileWrites before
  cases wrote : (write disk today options (filesById entries) plan.fileWrites before).summary with
  | error fault =>
      rw [wrote] at ended
      cases wrote.symm.trans ended
  | ok between =>
      rw [wrote, real] at ended
      dsimp only at ended
      obtain ⟨writes, writeActions, writesAccount, tellsWrites⟩ :=
        exists_ledger_write backend state real tells distinct wrote
      obtain ⟨removals, removeActions, removalsAccount, tellsAll⟩ :=
        exists_ledger_remove backend state
          (planFault? disk today options (filesById entries) plan.fileWrites) tellsWrites filed
          ended
      rw [← performed] at removalsAccount
      refine ⟨writes ++ removals, ?_, writesAccount.append removalsAccount, ?_⟩
      · rw [Ledger.actions_append, writeActions, removeActions]
      · rw [← List.append_assoc]
        exact tellsAll

end FilePhase

/-! ## Whole runs -/

/-- An update takes no call exactly where its patch is empty. -/
theorem Patch.isEmpty_updateCalls (file : Issue) (beads : Option Issue) :
    (updateCalls file beads).isEmpty = (between file beads).isEmpty := by
  rw [between, ofFacets, List.isEmpty_map, updateCalls]
  cases closing : closes file beads with
  | true =>
      -- Closing is a change of the status, so the patch is not empty.
      have status : Facet.status ∈ changedFacets (forStore file) beads :=
        List.contains_iff_mem.mp (Bool.and_eq_true_iff.mp closing).2
      rw [List.isEmpty_eq_false_iff_exists_mem.mpr ⟨_, status⟩]
      simp
  | false =>
      cases changed : changedFacets (forStore file) beads <;> simp

namespace Plan

/-- The plan without updates whose patch is empty. -/
def withoutIdle (plan : Plan) (beadsIssues : List Issue) : Plan :=
  { plan with
    beadsUpdates := plan.beadsUpdates.filter fun file =>
      !(Patch.between file (Issue.lastWithId? file.id beadsIssues)).isEmpty }

/-- A plan without its empty updates has actions of the plan, in their order. -/
theorem actions_withoutIdle_sublist (plan : Plan) (beadsIssues : List Issue) :
    (plan.withoutIdle beadsIssues).actions.Sublist plan.actions :=
  (List.Sublist.refl _).append ((List.filter_sublist.map _).append (.refl _))

/-- The steps with calls, the writes and the removals are the actions of that plan. -/
theorem actions_of_steps (plan : Plan) (beadsIssues : List Issue) :
    ((StoreStep.ofPlan plan beadsIssues).filter fun step => !step.calls.isEmpty).map
        (fun step => (step.operation, step.id)) ++
      (plan.fileWrites.map (fun issue => (.write, issue.id)) ++
        plan.fileRemovals.map fun id => (.remove, id)) =
      (plan.withoutIdle beadsIssues).actions := by
  simp [StoreStep.ofPlan, withoutIdle, actions, StoreStep.create, StoreStep.delete,
    StoreStep.update, Patch.isEmpty_updateCalls, List.filter_map, Function.comp_def]

end Plan

namespace ReconcileRun

variable {today : Date} {options : ReconcileOptions} {beadsIssues : List Issue}
  {entries : List Book.Entry}

/-- A run that ends in a summary has tried every action of its plan, and tells each of them. -/
theorem exists_ledger_carryOut (survivable : backend.IsSurvivable)
    (real : options.isDry = false) {plan : Plan} {conflicts : List Conflict}
    (filed : ∀ id ∈ plan.fileRemovals, ∃ path,
      (FilePhase.filesById entries).get? id = some path)
    (once : plan.ActsOnce) {done : Summary}
    (ended : (carryOut disk today backend state options beadsIssues entries plan
      conflicts).summary = .ok done) :
    ∃ ledger : Ledger, ledger.actions = (plan.withoutIdle beadsIssues).actions ∧
      Accounts backend options.todoRoot
        (FilePhase.planFault? disk today options (FilePhase.filesById entries) plan.fileWrites)
        (disk, state)
        (effectsOf disk today backend state options beadsIssues entries plan conflicts) ledger ∧
      done.Tells (FilePhase.filesById entries).has ledger := by
  have direct : ∀ step ∈ StoreStep.ofPlan plan beadsIssues, step.IsDirect :=
    fun step => StoreStep.isDirect_of_mem_ofPlan
  obtain ⟨noFault, stepActions, stepsAccount⟩ : _ ∧ _ ∧ Accounts backend options.todoRoot
      (FilePhase.planFault? disk today options (FilePhase.filesById entries) plan.fileWrites)
      (disk, state) _ _ := StorePhase.accounts_run survivable direct
  have whole := plan.actions_of_steps beadsIssues
  rw [← stepActions] at whole
  rw [carryOut, if_neg (by rw [real]; decide)] at ended
  rw [effectsOf, if_neg (by rw [real]; decide)]
  dsimp only [finish] at ended ⊢
  rw [noFault] at ended ⊢
  have performed := StorePhase.performAll_callsMade backend options.todoRoot disk state
    (StoreStep.ofPlan plan beadsIssues)
  generalize StorePhase.run backend state (StoreStep.ofPlan plan beadsIssues) = phase
    at ended stepActions stepsAccount whole performed ⊢
  -- The attempts of the store's part make no writes, so its lists and those of the files are apart.
  have inStore : ∀ attempt ∈ phase.ledger, attempt.operation = .create ∨
      attempt.operation = .update ∨ attempt.operation = .delete := by
    intro attempt present
    have listed : attempt.action ∈ phase.ledger.actions := List.mem_map_of_mem present
    rw [stepActions] at listed
    obtain ⟨step, tried, same⟩ := List.mem_map.mp listed
    have operation : step.operation = attempt.operation := congrArg Prod.fst same
    exact operation ▸ (direct step (List.mem_of_mem_filter tried)).inStore
  have distinct : (phase.ledger.map Attempt.id ++ plan.fileWrites.map Issue.id).Nodup := by
    have ids := ((plan.actions_withoutIdle_sublist beadsIssues).map Prod.snd).nodup once
    rw [← whole, List.map_append, List.map_append, Ledger.ids_actions, List.map_map,
      ← List.append_assoc] at ids
    exact ids.of_append_left
  obtain ⟨files, fileActions, filesAccount, tells⟩ := FilePhase.exists_ledger_run backend
    phase.state real filed (StorePhase.tells_ofStorePhase _ conflicts inStore) distinct ended
  rw [← performed] at filesAccount
  refine ⟨phase.ledger ++ files, ?_, stepsAccount.append filesAccount, tells⟩
  rw [Ledger.actions_append, fileActions]
  exact whole

end ReconcileRun

end Issuebook
