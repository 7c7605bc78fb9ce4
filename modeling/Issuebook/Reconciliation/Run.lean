import Issuebook.Reconciliation.FilePhase
import Issuebook.Store.Log

/-!
# Reconciliations

Both sides are read, their differences sorted into a plan, and the plan carried out: first
in the store, then on files. A dry run tells the plan and changes neither.
-/

namespace Issuebook

/-- A reconciliation that was run. -/
structure ReconcileRun (State : Type) where
  /-- The notices in order. -/
  notices : List Notice
  /-- The disk. -/
  disk : Disk
  /-- The store. -/
  state : State
  /-- What was done, or the fault that ended it. -/
  summary : Except Fault Summary

namespace ReconcileRun

variable {State : Type}

/-- The notice that counts the actions of a plan. -/
def planNotice (plan : Plan) : Notice :=
  ⟨.info, ("dry run: " : Text) ++ Text.ofNat plan.beadsCreates.length ++ (" create, " : Text) ++
    Text.ofNat plan.beadsUpdates.length ++ (" update, " : Text) ++
    Text.ofNat (plan.beadsDeletes.length + plan.fileRemovals.length) ++ (" delete, " : Text) ++
    Text.ofNat plan.fileWrites.length ++ (" file write(s)" : Text)⟩

/-- The plan for what both sides hold, and the conflicts. -/
def planFor (options : ReconcileOptions) (beadsIssues fileIssues : List Issue) :
    Plan × List Conflict :=
  let changes :=
    Changes.between beadsIssues fileIssues options.strategy options.lastAgreedAt options.window
  (Plan.ofChanges changes options.direction options.deletes beadsIssues fileIssues,
    changes.conflicts)

/-- The run after the store's part, with its summary so far. -/
def finish (disk : Disk) (today : Date) (options : ReconcileOptions)
    (entries : List Book.Entry) (plan : Plan) (state : State) (notices : List Notice)
    (summary : Summary) : ReconcileRun State :=
  let phase := FilePhase.run disk today options entries plan summary
  ⟨notices ++ phase.notices, phase.disk, state, phase.summary⟩

/-- Carries out a plan. -/
def carryOut (disk : Disk) (today : Date) (backend : Backend State) (state : State)
    (options : ReconcileOptions) (beadsIssues : List Issue) (entries : List Book.Entry)
    (plan : Plan) (conflicts : List Conflict) : ReconcileRun State :=
  if options.isDry then
    finish disk today options entries plan state [planNotice plan]
      (Summary.ofPlan conflicts plan)
  else
    let phase := StorePhase.run backend state (StoreStep.ofPlan plan beadsIssues)
    match phase.fault with
    | some fault => ⟨phase.notices, disk, phase.state, .error fault⟩
    | none =>
      finish disk today options entries plan phase.state phase.notices
        (Summary.ofStorePhase conflicts phase)

end ReconcileRun

/-- Reconciles the issue files of a project with its store. -/
def reconcile {State : Type} (disk : Disk) (today : Date) (backend : Backend State)
    (state : State) (options : ReconcileOptions) : ReconcileRun State :=
  let beads := StoreLog.load disk options.beadsRoot
  match beads.value with
  | .error fault => ⟨beads.notices, disk, state, .error fault⟩
  | .ok beadsIssues =>
    let files := Book.load disk options.todoRoot
    match files.value with
    | .error fault => ⟨beads.notices ++ files.notices, disk, state, .error fault⟩
    | .ok entries =>
      let (plan, conflicts) :=
        ReconcileRun.planFor options beadsIssues (entries.map Book.Entry.issue)
      let run :=
        ReconcileRun.carryOut disk today backend state options beadsIssues entries plan conflicts
      { run with notices := beads.notices ++ files.notices ++ run.notices }

end Issuebook
