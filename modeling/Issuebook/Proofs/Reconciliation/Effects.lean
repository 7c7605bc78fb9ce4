import Issuebook.Reconciliation.Run
import Mathlib.Tactic.SplitIfs

/-!
# Effects of a reconciliation

Every call, write and deletion of a reconciliation in order, also those that are rejected or
fail. Performing them one after the other leads to the disk and the store that the reconciliation
leaves behind, so it changes neither in any other way: `reconcile_performs`.
-/

namespace Issuebook

variable {State : Type}

/-- What a reconciliation does to the store or to a file. -/
inductive Effect where
  /-- A call to the store. -/
  | call (call : Call)
  /-- The write of an issue, with the files that issues had before. -/
  | write (former : Entries Path) (planned : PlannedWrite)
  /-- The deletion of the file of an issue. -/
  | delete (id : Text) (path : Path)

namespace Effect

/-- The disk and the store after an effect. -/
def perform (backend : Backend State) (root : Path) : Disk × State → Effect → Disk × State
  | (disk, state), .call asked => (disk, (backend.answer state asked).2)
  | (disk, state), .write former planned => ((Book.writeOne disk root former planned).2, state)
  | (disk, state), .delete _ path => ((Book.deleteFile disk root path).2, state)

/-- The disk and the store after effects in order. -/
def performAll (backend : Backend State) (root : Path) (start : Disk × State)
    (effects : List Effect) : Disk × State :=
  effects.foldl (perform backend root) start

/-- Effects are performed one behind the other. -/
theorem performAll_cons (backend : Backend State) (root : Path) (start : Disk × State)
    (effect : Effect) (effects : List Effect) :
    performAll backend root start (effect :: effects) =
      performAll backend root (perform backend root start effect) effects :=
  rfl

/-- So are two parts of them. -/
theorem performAll_append (backend : Backend State) (root : Path) (start : Disk × State)
    (effects later : List Effect) :
    performAll backend root start (effects ++ later) =
      performAll backend root (performAll backend root start effects) later :=
  List.foldl_append

end Effect

open Effect (perform performAll performAll_cons performAll_append)

namespace StoreStep

variable (backend : Backend State)

/-- The calls that are made, up to the first that is not accepted. -/
def callsMade (state : State) : List (Operation × Call) → List Effect
  | [] => []
  | (_, call) :: calls =>
    .call call ::
      match backend.answer state call with
      | (⟨_, .ok answer⟩, next) => if answer.accepted then callsMade next calls else []
      | (⟨_, .error _⟩, _) => []

/-- Calls change the store as making them does, and not the disk. -/
theorem performAll_callsMade (root : Path) (disk : Disk) (state : State)
    (calls : List (Operation × Call)) :
    performAll backend root (disk, state) (callsMade backend state calls) =
      (disk, (makeCalls backend state calls).2) := by
  induction calls generalizing state with
  | nil => rfl
  | cons first calls inductionHypothesis =>
      obtain ⟨operation, call⟩ := first
      rw [callsMade, makeCalls, performAll_cons, Effect.perform]
      rcases backend.answer state call with ⟨⟨notices, fault | answer⟩, next⟩
      · rfl
      · dsimp only
        split_ifs
        · exact inductionHypothesis next
        · rfl

/-- A step changes the store by its calls. -/
theorem perform_state (state : State) (step : StoreStep) :
    (step.perform backend state).2 = (makeCalls backend state step.calls).2 := by
  unfold StoreStep.perform
  split_ifs with idle
  · rw [List.isEmpty_iff.mp idle]
    rfl
  · rfl

/-- Only calls of the step are made. -/
theorem mem_callsMade {state : State} {calls : List (Operation × Call)} {effect : Effect}
    (made : effect ∈ callsMade backend state calls) :
    ∃ call ∈ calls.map Prod.snd, effect = .call call := by
  induction calls generalizing state with
  | nil => cases made
  | cons first calls inductionHypothesis =>
      obtain ⟨operation, call⟩ := first
      rw [callsMade] at made
      rcases List.mem_cons.mp made with rfl | later
      · exact ⟨call, List.mem_cons_self, rfl⟩
      · split at later
        · split_ifs at later
          · obtain ⟨other, present, same⟩ := inductionHypothesis later
            exact ⟨other, List.mem_cons_of_mem _ present, same⟩
          · cases later
        · cases later

end StoreStep

namespace StorePhase

variable (backend : Backend State)

/-- The calls that are made for steps, up to one that ends the phase. -/
def callsMade (state : State) : List StoreStep → List Effect
  | [] => []
  | step :: steps =>
    StoreStep.callsMade backend state step.calls ++
      match endingFault? (step.perform backend state).1.value with
      | some _ => []
      | none => callsMade (step.perform backend state).2 steps

/-- All steps change the store as their run does. -/
theorem performAll_callsMade (root : Path) (disk : Disk) (state : State)
    (steps : List StoreStep) :
    performAll backend root (disk, state) (callsMade backend state steps) =
      (disk, (run backend state steps).state) := by
  induction steps generalizing state with
  | nil => rfl
  | cons step steps inductionHypothesis =>
      rw [callsMade, performAll_append, StoreStep.performAll_callsMade,
        ← StoreStep.perform_state, run]
      dsimp only
      cases endingFault? (step.perform backend state).1.value with
      | some fault => rfl
      | none => exact inductionHypothesis _

/-- Only calls of steps are made. -/
theorem mem_callsMade {state : State} {steps : List StoreStep} {effect : Effect}
    (made : effect ∈ callsMade backend state steps) :
    ∃ step ∈ steps, ∃ call ∈ step.calls.map Prod.snd, effect = .call call := by
  induction steps generalizing state with
  | nil => cases made
  | cons step steps inductionHypothesis =>
      rw [callsMade] at made
      rcases List.mem_append.mp made with own | later
      · exact ⟨step, List.mem_cons_self, StoreStep.mem_callsMade backend own⟩
      · split at later
        · cases later
        · obtain ⟨other, present, rest⟩ := inductionHypothesis later
          exact ⟨other, List.mem_cons_of_mem _ present, rest⟩

end StorePhase

namespace Book

/-- The writes that are tried, up to one that ends the batch. -/
def writesMade (root : Path) (former : Entries Path) (disk : Disk) :
    List PlannedWrite → List Effect
  | [] => []
  | planned :: later =>
    .write former planned ::
      match writeOne disk root former planned with
      | (.ok _, left) => writesMade root former left later
      | (.error _, _) => []

/-- Writes change the disk as the batch does. -/
theorem performAll_writesMade (backend : Backend State) (root : Path) (former : Entries Path)
    (disk : Disk) (state : State) (planned : List PlannedWrite) :
    performAll backend root (disk, state) (writesMade root former disk planned) =
      ((writeAll disk root former planned).disk, state) := by
  induction planned generalizing disk with
  | nil => rfl
  | cons first later inductionHypothesis =>
      rw [writesMade, writeAll, performAll_cons, Effect.perform]
      rcases writeOne disk root former first with ⟨fault | outcome, left⟩
      · rfl
      · exact inductionHypothesis left

/-- Only planned writes are tried. -/
theorem mem_writesMade {root : Path} {former : Entries Path} {disk : Disk}
    {planned : List PlannedWrite} {effect : Effect}
    (made : effect ∈ writesMade root former disk planned) :
    ∃ write ∈ planned, effect = .write former write := by
  induction planned generalizing disk with
  | nil => cases made
  | cons first later inductionHypothesis =>
      rw [writesMade] at made
      rcases List.mem_cons.mp made with rfl | rest
      · exact ⟨first, List.mem_cons_self, rfl⟩
      · split at rest
        · obtain ⟨write, present, same⟩ := inductionHypothesis rest
          exact ⟨write, List.mem_cons_of_mem _ present, same⟩
        · cases rest

end Book

namespace FilePhase

variable {today : Date} {options : ReconcileOptions} {files : Entries Path}

/-- The writes of the files' part of a plan. -/
def writesMade (disk : Disk) (today : Date) (options : ReconcileOptions) (files : Entries Path)
    (writing : List Issue) : List Effect :=
  if writing.isEmpty then []
  else
    match writeOptions disk options files writing with
    | .error _ => []
    | .ok how =>
      match Book.plan disk today options.todoRoot how writing with
      | .error _ => []
      | .ok planned => Book.writesMade options.todoRoot how.previousPaths disk planned

/-- A phase in which everything failed leaves the disk. -/
@[simp]
theorem allFailed_disk (disk : Disk) (summary : Summary) (writing : List Issue) (fault : Fault) :
    (allFailed disk summary writing fault).disk = disk := by
  unfold allFailed
  split_ifs <;> rfl

/-- A phase of writes leaves the disk of the batch. -/
theorem makeWrites_disk (disk : Disk) (today : Date) (root : Path) (options : WriteOptions)
    (hadFile : Text → Bool) (writing : List Issue) (summary : Summary) :
    (makeWrites disk today root options hadFile writing summary).disk =
      (Book.write disk today root options writing).disk := by
  unfold makeWrites
  dsimp only
  split
  · exact allFailed_disk ..
  · rfl

/-- The writes of a phase change the disk as the phase does. -/
theorem performAll_writesMade (backend : Backend State) (disk : Disk) (state : State)
    (real : options.isDry = false) (writing : List Issue) (summary : Summary) :
    performAll backend options.todoRoot (disk, state)
        (writesMade disk today options files writing) =
      ((write disk today options files writing summary).disk, state) := by
  unfold writesMade write
  by_cases none : writing.isEmpty
  · rw [if_pos none, if_pos none]
    rfl
  · rw [if_neg none, if_neg none]
    cases writeOptions disk options files writing with
    | error fault => rfl
    | ok how =>
        simp only [real, Bool.false_eq_true, if_false, makeWrites_disk, Book.write]
        cases Book.plan disk today options.todoRoot how writing with
        | error fault => rfl
        | ok planned => exact Book.performAll_writesMade ..

/-- The deletions that are tried, up to one that ends the phase. -/
def deletionsMade (root : Path) (files : Entries Path) (disk : Disk) : List Text → List Effect
  | [] => []
  | id :: ids =>
    match files.get? id with
    | none => deletionsMade root files disk ids
    | some path =>
      .delete id path ::
        match Book.deleteFile disk root path with
        | (⟨_, .ok ()⟩, left) => deletionsMade root files left ids
        | (⟨_, .error fault⟩, left) =>
          if fault.isSurvivable then deletionsMade root files left ids else []

/-- So do its deletions. -/
theorem performAll_deletionsMade (backend : Backend State) (root : Path) (disk : Disk)
    (state : State) (summary : Summary) (ids : List Text) :
    performAll backend root (disk, state) (deletionsMade root files disk ids) =
      ((remove root false files disk summary ids).disk, state) := by
  induction ids generalizing disk summary with
  | nil => rfl
  | cons id ids inductionHypothesis =>
      rw [deletionsMade, remove, removeOne]
      cases files.get? id with
      | none => exact inductionHypothesis ..
      | some path =>
          dsimp only
          rw [performAll_cons, Effect.perform]
          rcases Book.deleteFile disk root path with ⟨⟨notices, fault | done⟩, left⟩
          · simp only [Bool.false_eq_true, if_false]
            split_ifs
            · exact inductionHypothesis ..
            · rfl
          · exact inductionHypothesis ..

/-- Only files of issues that are to be removed are deleted. -/
theorem mem_deletionsMade {root : Path} {disk : Disk} {ids : List Text} {effect : Effect}
    (made : effect ∈ deletionsMade root files disk ids) :
    ∃ id ∈ ids, ∃ path, files.get? id = some path ∧ effect = .delete id path := by
  induction ids generalizing disk with
  | nil => cases made
  | cons id ids inductionHypothesis =>
      have later {left : Disk} (rest : effect ∈ deletionsMade root files left ids) :
          ∃ other ∈ id :: ids, ∃ path, files.get? other = some path ∧
            effect = .delete other path := by
        obtain ⟨other, present, found⟩ := inductionHypothesis rest
        exact ⟨other, List.mem_cons_of_mem _ present, found⟩
      rw [deletionsMade] at made
      split at made
      · exact later made
      · next path found =>
          rcases List.mem_cons.mp made with rfl | rest
          · exact ⟨id, List.mem_cons_self, path, found, rfl⟩
          · split at rest
            · exact later rest
            · split_ifs at rest
              · exact later rest
              · cases rest

/-- The writes and deletions of the files' part of a plan. -/
def effects (disk : Disk) (today : Date) (options : ReconcileOptions)
    (entries : List Book.Entry) (plan : Plan) (summary : Summary) : List Effect :=
  let files := filesById entries
  let written := write disk today options files plan.fileWrites summary
  writesMade disk today options files plan.fileWrites ++
    match written.summary with
    | .error _ => []
    | .ok _ => deletionsMade options.todoRoot files written.disk plan.fileRemovals

/-- So do all its effects. -/
theorem performAll_effects (backend : Backend State) (disk : Disk) (today : Date) (state : State)
    (real : options.isDry = false) (entries : List Book.Entry) (plan : Plan)
    (summary : Summary) :
    performAll backend options.todoRoot (disk, state)
        (effects disk today options entries plan summary) =
      ((run disk today options entries plan summary).disk, state) := by
  unfold effects run
  dsimp only
  rw [performAll_append, performAll_writesMade backend disk state real _ summary, real]
  cases (write disk today options (filesById entries) plan.fileWrites summary).summary with
  | error fault => rfl
  | ok summary => exact performAll_deletionsMade ..

/-- A dry run leaves the disk as it is. -/
theorem write_disk_of_isDry (dry : options.isDry = true) (disk : Disk) (today : Date)
    (files : Entries Path) (writing : List Issue) (summary : Summary) :
    (write disk today options files writing summary).disk = disk := by
  unfold write
  by_cases none : writing.isEmpty
  · rw [if_pos none]
  · rw [if_neg none]
    cases writeOptions disk options files writing with
    | error fault => rfl
    | ok how =>
        dsimp only
        rw [if_pos dry, planWrites]
        split
        · exact allFailed_disk ..
        · rfl

/-- A dry run removes no file. -/
theorem removeOne_disk_of_isDry (root : Path) (files : Entries Path) (disk : Disk)
    (summary : Summary) (id : Text) :
    (removeOne root true files disk summary id).disk = disk := by
  unfold removeOne
  split <;> rfl

/-- It removes none of several. -/
theorem remove_disk_of_isDry (root : Path) (files : Entries Path) (disk : Disk)
    (summary : Summary) (ids : List Text) :
    (remove root true files disk summary ids).disk = disk := by
  induction ids generalizing disk summary with
  | nil => rfl
  | cons id ids inductionHypothesis =>
      rw [remove]
      dsimp only
      split
      · exact removeOne_disk_of_isDry ..
      · rw [inductionHypothesis, removeOne_disk_of_isDry]

/-- It leaves the disk as it is. -/
theorem run_disk_of_isDry (dry : options.isDry = true) (disk : Disk) (today : Date)
    (entries : List Book.Entry) (plan : Plan) (summary : Summary) :
    (run disk today options entries plan summary).disk = disk := by
  unfold run
  dsimp only
  split
  · exact write_disk_of_isDry dry ..
  · rw [dry, remove_disk_of_isDry]
    exact write_disk_of_isDry dry ..

end FilePhase

namespace ReconcileRun

/-- The effects of carrying out a plan. -/
def effectsOf (disk : Disk) (today : Date) (backend : Backend State) (state : State)
    (options : ReconcileOptions) (beadsIssues : List Issue) (entries : List Book.Entry)
    (plan : Plan) (conflicts : List Conflict) : List Effect :=
  if options.isDry then []
  else
    let steps := StoreStep.ofPlan plan beadsIssues
    let phase := StorePhase.run backend state steps
    StorePhase.callsMade backend state steps ++
      match phase.fault with
      | some _ => []
      | none =>
        FilePhase.effects disk today options entries plan (Summary.ofStorePhase conflicts phase)

/-- The effects of carrying out a plan are all that the run changes. -/
theorem performAll_effectsOf (disk : Disk) (today : Date) (backend : Backend State)
    (state : State) (options : ReconcileOptions) (beadsIssues : List Issue)
    (entries : List Book.Entry) (plan : Plan) (conflicts : List Conflict) :
    let run := carryOut disk today backend state options beadsIssues entries plan conflicts
    performAll backend options.todoRoot (disk, state)
        (effectsOf disk today backend state options beadsIssues entries plan conflicts) =
      (run.disk, run.state) := by
  unfold effectsOf carryOut
  cases dry : options.isDry with
  | true =>
      exact congrArg (·, state) (FilePhase.run_disk_of_isDry dry ..).symm
  | false =>
      simp only [Bool.false_eq_true, if_false, performAll_append,
        StorePhase.performAll_callsMade]
      cases (StorePhase.run backend state (StoreStep.ofPlan plan beadsIssues)).fault with
      | some fault => rfl
      | none => exact FilePhase.performAll_effects backend disk today _ dry entries plan _

/-- The effects of a reconciliation. -/
def effects (disk : Disk) (today : Date) (backend : Backend State) (state : State)
    (options : ReconcileOptions) : List Effect :=
  match (StoreLog.load disk options.beadsRoot).value, (Book.load disk options.todoRoot).value with
  | .ok beadsIssues, .ok entries =>
    let (plan, conflicts) := planFor options beadsIssues (entries.map Book.Entry.issue)
    effectsOf disk today backend state options beadsIssues entries plan conflicts
  | _, _ => []

section Loaded

variable {disk : Disk} (options : ReconcileOptions) {beadsIssues : List Issue}
  {entries : List Book.Entry}
  (stored : (StoreLog.load disk options.beadsRoot).value = .ok beadsIssues)
  (filed : (Book.load disk options.todoRoot).value = .ok entries)
include stored filed

/-- The effects of a run on what was loaded. -/
theorem effects_of_loaded (today : Date) (backend : Backend State) (state : State) :
    effects disk today backend state options =
      effectsOf disk today backend state options beadsIssues entries
        (planFor options beadsIssues (entries.map Book.Entry.issue)).1
        (planFor options beadsIssues (entries.map Book.Entry.issue)).2 := by
  rw [effects, stored, filed]

/-- The summary of such a run. -/
theorem summary_of_loaded (today : Date) (backend : Backend State) (state : State) :
    (reconcile disk today backend state options).summary =
      (carryOut disk today backend state options beadsIssues entries
        (planFor options beadsIssues (entries.map Book.Entry.issue)).1
        (planFor options beadsIssues (entries.map Book.Entry.issue)).2).summary := by
  unfold reconcile
  dsimp only
  rw [stored]
  dsimp only
  rw [filed]

end Loaded

end ReconcileRun

/-- A reconciliation changes the disk and the store by its effects alone. -/
theorem reconcile_performs (disk : Disk) (today : Date) (backend : Backend State) (state : State)
    (options : ReconcileOptions) :
    performAll backend options.todoRoot (disk, state)
        (ReconcileRun.effects disk today backend state options) =
      ((reconcile disk today backend state options).disk,
        (reconcile disk today backend state options).state) := by
  unfold ReconcileRun.effects reconcile
  dsimp only
  cases (StoreLog.load disk options.beadsRoot).value with
  | error fault => rfl
  | ok beadsIssues =>
      cases (Book.load disk options.todoRoot).value with
      | error fault => rfl
      | ok entries => exact ReconcileRun.performAll_effectsOf ..

end Issuebook
