import Issuebook.Reconciliation.Facet
import Issuebook.Reconciliation.Plan
import Issuebook.Store.Backend

/-!
# Changing the store

The calls that bring the store's copy of an issue to the copy in its file. Only facets that
differ are sent, and closing is a call of its own.

The store's part of a plan, issue by issue: what is rejected or fails for one issue does not
keep the others from being tried.
-/

namespace Issuebook

/-- What is done to an issue on either side. -/
inductive Operation where
  /-- It is created in the store. -/
  | create
  /-- It is changed in the store. -/
  | update
  /-- It is closed in the store. -/
  | close
  /-- It is deleted from the store. -/
  | delete
  /-- It is written to a file. -/
  | write
  /-- Its file is removed. -/
  | remove
  deriving Repr, DecidableEq, Inhabited

/-- The written name of an operation. -/
def Operation.name : Operation → Text
  | .create => "create"
  | .update => "update"
  | .close => "close"
  | .delete => "delete"
  | .write => "write"
  | .remove => "remove"

namespace Patch

/-- The facets that a patch can change. -/
def facets : List Facet :=
  [.title, .status, .kind, .priority, .description, .assignee, .labels]

/-- The copy of an issue that is sent to the store: its description is the body alone. -/
def forStore (issue : Issue) : Issue :=
  let body := issue.bodyText
  { issue with description := if body.isEmpty then none else some body }

/-- The value of a facet in a patch. -/
def fieldValue (issue : Issue) : Facet → Value
  | .description => .ofText? issue.description
  | .labels => .ofTexts? issue.labels
  | facet => (facet.value issue).toValue

/-- The facets that a patch changes: all of them where the store has no copy. -/
def changedFacets (target : Issue) (beads : Option Issue) : List Facet :=
  match beads with
  | some beads => facets.filter fun facet => !facet.agrees beads target
  | none => facets

/-- The patch of facets to their values in an issue. -/
def ofFacets (target : Issue) (changed : List Facet) : Patch :=
  changed.map fun facet => (facet.name, fieldValue target facet)

/-- The patch that brings the store's copy to the copy in a file. -/
def between (file : Issue) (beads : Option Issue) : Patch :=
  ofFacets (forStore file) (changedFacets (forStore file) beads)

/-- Whether an update closes the issue. -/
def closes (file : Issue) (beads : Option Issue) : Bool :=
  file.status == .closed && (changedFacets (forStore file) beads).contains .status

/-- The calls of an update: a patch without the closing, and the closing. -/
def updateCalls (file : Issue) (beads : Option Issue) : List (Operation × Call) :=
  let closing := closes file beads
  let changed := (changedFacets (forStore file) beads).filter fun facet =>
    !(closing && facet == .status)
  (if changed.isEmpty then []
    else [(.update, .update file.id (ofFacets (forStore file) changed))]) ++
  (if closing then [(.close, .close file.id)] else [])

end Patch

/-! ## Steps -/

/-- An issue for which something did not work. -/
structure Failure where
  /-- The identifier of the issue. -/
  id : Text
  /-- What was tried. -/
  operation : Operation
  /-- Why it did not work. -/
  detail : Text
  deriving Repr, DecidableEq

/-- A planned change of the store. -/
structure StoreStep where
  /-- The identifier of the issue. -/
  id : Text
  /-- What is done to it. -/
  operation : Operation
  /-- The calls it takes, each with the name of what it does. -/
  calls : List (Operation × Call)

/-- What became of a planned change of the store. -/
inductive StoreOutcome where
  /-- It took no call. -/
  | idle
  /-- All its calls were accepted. -/
  | done
  /-- The store rejected a call. -/
  | rejected (operation : Operation) (detail : Text)
  /-- A call failed. -/
  | failed (fault : Fault)
  deriving Repr, DecidableEq

namespace StoreStep

/-- The step that creates an issue. -/
def create (issue : Issue) : StoreStep :=
  ⟨issue.id, .create, [(.create, .create (Patch.forStore issue))]⟩

/-- The step that brings the store's copy of an issue to the copy in its file. -/
def update (beadsIssues : List Issue) (file : Issue) : StoreStep :=
  ⟨file.id, .update, Patch.updateCalls file (Issue.lastWithId? file.id beadsIssues)⟩

/-- The step that deletes an issue. -/
def delete (id : Text) : StoreStep :=
  ⟨id, .delete, [(.delete, .delete id)]⟩

/-- The steps of a plan. -/
def ofPlan (plan : Plan) (beadsIssues : List Issue) : List StoreStep :=
  plan.beadsCreates.map create ++ plan.beadsUpdates.map (update beadsIssues) ++
    plan.beadsDeletes.map delete

/-- The notice about an outcome, if there is anything to say. -/
def notice? (step : StoreStep) : StoreOutcome → Option Notice
  | .idle => some ⟨.debug, step.id ++ (": no beads-updatable fields changed" : Text)⟩
  | .done => none
  | .rejected operation detail =>
    some ⟨.warning, ("beads " : Text) ++ operation.name ++ (" failed for " : Text) ++ step.id ++
      (": " : Text) ++ detail⟩
  | .failed fault =>
    some ⟨.warning, step.operation.name ++ (" failed for " : Text) ++ step.id ++
      (": " : Text) ++ fault.message⟩

/-- The failure of an outcome, if it is one. -/
def failure? (step : StoreStep) : StoreOutcome → Option Failure
  | .idle | .done => none
  | .rejected operation detail => some ⟨step.id, operation, detail⟩
  | .failed fault => some ⟨step.id, step.operation, fault.message⟩

variable {State : Type}

/-- Makes calls in order until one is not accepted. -/
def makeCalls (backend : Backend State) (state : State) :
    List (Operation × Call) → Noted StoreOutcome × State
  | [] => (⟨[], .done⟩, state)
  | (operation, call) :: calls =>
    match backend.answer state call with
    | (⟨notices, .ok answer⟩, next) =>
      if answer.accepted then
        let (later, left) := makeCalls backend next calls
        (⟨notices ++ later.notices, later.value⟩, left)
      else (⟨notices, .rejected operation answer.detail⟩, next)
    | (⟨notices, .error fault⟩, next) => (⟨notices, .failed fault⟩, next)

/-- Carries out a step. -/
def perform (backend : Backend State) (state : State) (step : StoreStep) :
    Noted StoreOutcome × State :=
  if step.calls.isEmpty then (⟨[], .idle⟩, state) else makeCalls backend state step.calls

end StoreStep

/-- The store's part of a reconciliation. -/
structure StorePhase (State : Type) where
  /-- What became of each step. -/
  outcomes : List (StoreStep × StoreOutcome)
  /-- The notices in order. -/
  notices : List Notice
  /-- The store. -/
  state : State
  /-- The fault that ended the phase early. -/
  fault : Option Fault

namespace StorePhase

variable {State : Type}

/-- The fault of an outcome that no step survives. -/
def endingFault? : StoreOutcome → Option Fault
  | .failed fault => if fault.isSurvivable then none else some fault
  | _ => none

/-- Carries out steps in order. -/
def run (backend : Backend State) (state : State) : List StoreStep → StorePhase State
  | [] => ⟨[], [], state, none⟩
  | step :: steps =>
    let (performed, next) := step.perform backend state
    match endingFault? performed.value with
    | some fault => ⟨[], performed.notices, next, some fault⟩
    | none =>
      let later := run backend next steps
      { later with
        outcomes := (step, performed.value) :: later.outcomes
        notices := performed.notices ++ (step.notice? performed.value).toList ++ later.notices }

/-- The identifiers of the issues for which an operation is done. -/
def doneIds (phase : StorePhase State) (operation : Operation) : List Text :=
  phase.outcomes.filterMap fun (step, outcome) =>
    if step.operation = operation ∧ outcome = .done then some step.id else none

/-- The failures in order. -/
def failures (phase : StorePhase State) : List Failure :=
  phase.outcomes.filterMap fun (step, outcome) => step.failure? outcome

end StorePhase

end Issuebook

/-!
## Summaries

What a reconciliation did, or would do: the identifiers of created, updated and deleted
issues, the files written, the conflicts, and what did not work.
-/

namespace Issuebook

/-- What a reconciliation did. -/
structure Summary where
  /-- The identifiers of new issues on either side. -/
  created : List Text
  /-- The identifiers of changed issues. -/
  updated : List Text
  /-- The identifiers of deleted issues. -/
  deleted : List Text
  /-- The names of the files written. -/
  filesWritten : List Text
  /-- The issues that changed on both sides. -/
  conflicts : List Conflict
  /-- What did not work. -/
  failures : List Failure
  /-- Whether nothing was changed and only the plan is told. -/
  isDry : Bool
  deriving Repr, DecidableEq

namespace Summary

/-- Whether everything worked. -/
def isOk (summary : Summary) : Bool :=
  summary.failures.isEmpty

/-- The summary of the store's part alone. -/
def ofStorePhase {State : Type} (conflicts : List Conflict) (phase : StorePhase State) :
    Summary where
  created := phase.doneIds .create
  updated := phase.doneIds .update
  deleted := phase.doneIds .delete
  filesWritten := []
  conflicts := conflicts
  failures := phase.failures
  isDry := false

/-- The summary of the store's part of a plan. -/
def ofPlan (conflicts : List Conflict) (plan : Plan) : Summary where
  created := plan.beadsCreates.map Issue.id
  updated := plan.beadsUpdates.map Issue.id
  deleted := plan.beadsDeletes
  filesWritten := []
  conflicts := conflicts
  failures := []
  isDry := true

/-- The identifiers with one more, unless it is there. -/
def withId (ids : List Text) (id : Text) : List Text :=
  if ids.contains id then ids else ids ++ [id]

/-- The summary with written files: an issue that had a file is updated, another created. -/
def withWritten (summary : Summary) (names ids : List Text) (hadFile : Text → Bool) :
    Summary :=
  { summary with
    filesWritten := summary.filesWritten ++ names
    created := (ids.filter fun id => !hadFile id).foldl withId summary.created
    updated := (ids.filter hadFile).foldl withId summary.updated }

/-- The summary with more failures. -/
def withFailures (summary : Summary) (failures : List Failure) : Summary :=
  { summary with failures := summary.failures ++ failures }

/-- The summary with one more deleted issue. -/
def withDeleted (summary : Summary) (id : Text) : Summary :=
  { summary with deleted := summary.deleted ++ [id] }

end Summary

end Issuebook
