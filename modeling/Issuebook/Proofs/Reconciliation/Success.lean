import Issuebook.Proofs.Reconciliation.Effects

/-!
# Reconciliations that succeed

What the parts of a reconciliation report when each of their effects succeeds: every step of the
store that takes a call is done, every file is written, and every file that is to go is deleted.
-/

namespace Issuebook

open Effect (perform performAll)

variable {State : Type}

/-- A store that accepts every call and keeps nothing. -/
def Backend.willing : Backend Unit where
  answer state _ := (⟨[], .ok ⟨true, []⟩⟩, state)

namespace Effect

/-- Whether an effect succeeds: a call is accepted, a file is written or deleted. -/
def Succeeds (backend : Backend State) (root : Path) : Disk × State → Effect → Prop
  | (_, state), .call asked =>
    ∃ notices answer, (backend.answer state asked).1 = ⟨notices, .ok answer⟩ ∧
      answer.accepted = true
  | (disk, _), .write former planned =>
    ∃ stale, (Book.writeOne disk root former planned).1 = .ok (.written stale)
  | (disk, _), .delete _ path => (Book.deleteFile disk root path).1.value = .ok ()

/-- Effects in order all succeed, each where the ones before it lead to. -/
inductive AllSucceed (backend : Backend State) (root : Path) :
    Disk × State → List Effect → Prop where
  /-- There is none. -/
  | nil (start : Disk × State) : AllSucceed backend root start []
  /-- The first succeeds, and then the others do. -/
  | cons {start : Disk × State} {effect : Effect} {effects : List Effect}
    (first : Succeeds backend root start effect)
    (later : AllSucceed backend root (perform backend root start effect) effects) :
    AllSucceed backend root start (effect :: effects)

/-- Effects all succeed when the first does, and then the others. -/
theorem allSucceed_cons {backend : Backend State} {root : Path} {start : Disk × State}
    {effect : Effect} {effects : List Effect} :
    AllSucceed backend root start (effect :: effects) ↔
      Succeeds backend root start effect ∧
        AllSucceed backend root (perform backend root start effect) effects := by
  constructor
  · rintro (_ | ⟨first, later⟩)
    exact ⟨first, later⟩
  · rintro ⟨first, later⟩
    exact .cons first later

/-- So do two parts of them. -/
theorem allSucceed_append {backend : Backend State} {root : Path} {start : Disk × State}
    {effects later : List Effect} :
    AllSucceed backend root start (effects ++ later) ↔
      AllSucceed backend root start effects ∧
        AllSucceed backend root (performAll backend root start effects) later := by
  induction effects generalizing start with
  | nil => exact ⟨fun rest => ⟨.nil start, rest⟩, And.right⟩
  | cons effect effects inductionHypothesis =>
      rw [List.cons_append, allSucceed_cons, allSucceed_cons, inductionHypothesis, and_assoc]
      rfl

/-- In a store that accepts every call, all calls succeed. -/
theorem allSucceed_of_accepts {backend : Backend State} {root : Path}
    (accepts : ∀ start asked, Succeeds backend root start (.call asked))
    {effects : List Effect} (calls : ∀ effect ∈ effects, ∃ asked, effect = .call asked)
    (disk : Disk) (state : State) : AllSucceed backend root (disk, state) effects := by
  induction effects generalizing state with
  | nil => exact .nil _
  | cons effect effects inductionHypothesis =>
      obtain ⟨⟨asked, rfl⟩, later⟩ := List.forall_mem_cons.mp calls
      exact .cons (accepts _ asked) (inductionHypothesis later _)

/-- A willing store accepts every call. -/
theorem succeeds_willing (root : Path) (start : Disk × Unit) (asked : Call) :
    Succeeds Backend.willing root start (.call asked) :=
  ⟨[], ⟨true, []⟩, rfl, rfl⟩

end Effect

open Effect (AllSucceed allSucceed_cons allSucceed_append)

variable {backend : Backend State} {root : Path} {disk : Disk} {state : State}

namespace StoreStep

/-- What becomes of a step whose calls are all accepted. -/
def accepted (step : StoreStep) : StoreOutcome :=
  if step.calls.isEmpty then .idle else .done

/-- Calls that all succeed are done. -/
theorem makeCalls_of_allSucceed {calls : List (Operation × Call)}
    (succeed : AllSucceed backend root (disk, state) (callsMade backend state calls)) :
    (makeCalls backend state calls).1.value = .done := by
  induction calls generalizing state with
  | nil => rfl
  | cons first calls inductionHypothesis =>
      obtain ⟨operation, call⟩ := first
      rw [callsMade] at succeed
      obtain ⟨⟨notices, answer, answered, accepted⟩, later⟩ := allSucceed_cons.mp succeed
      rw [makeCalls]
      rcases given : backend.answer state call with ⟨said, next⟩
      rw [Effect.perform, given] at later
      rw [given] at answered
      dsimp only at answered later ⊢
      subst answered
      simp only [accepted, if_true] at later ⊢
      exact inductionHypothesis later

/-- A step whose calls all succeed is accepted. -/
theorem perform_of_allSucceed {step : StoreStep}
    (succeed : AllSucceed backend root (disk, state) (callsMade backend state step.calls)) :
    (step.perform backend state).1.value = step.accepted := by
  unfold StoreStep.perform accepted
  split_ifs
  · rfl
  · exact makeCalls_of_allSucceed succeed

end StoreStep

namespace StorePhase

/-- An accepted step ends nothing. -/
theorem endingFault?_accepted (step : StoreStep) : endingFault? step.accepted = none := by
  unfold StoreStep.accepted
  split_ifs <;> rfl

/-- Where all calls are accepted, every step that takes one is done. -/
theorem run_of_allSucceed {steps : List StoreStep}
    (succeed : AllSucceed backend root (disk, state) (callsMade backend state steps)) :
    (run backend state steps).fault = none ∧
      (run backend state steps).outcomes = steps.map fun step => (step, step.accepted) := by
  induction steps generalizing state with
  | nil => exact ⟨rfl, rfl⟩
  | cons step steps inductionHypothesis =>
      rw [callsMade] at succeed
      obtain ⟨own, later⟩ := allSucceed_append.mp succeed
      have outcome := StoreStep.perform_of_allSucceed own
      rw [StoreStep.performAll_callsMade, ← StoreStep.perform_state, outcome,
        endingFault?_accepted] at later
      obtain ⟨noFault, outcomes⟩ := inductionHypothesis later
      rw [run]
      dsimp only
      rw [outcome, endingFault?_accepted]
      exact ⟨noFault, congrArg _ outcomes⟩

/-- When all steps are accepted, those with calls are done. -/
theorem doneIds_of_accepted {phase : StorePhase State} {steps : List StoreStep}
    (outcomes : phase.outcomes = steps.map fun step => (step, step.accepted))
    (operation : Operation) :
    phase.doneIds operation = (steps.filter fun step =>
      step.operation = operation && !step.calls.isEmpty).map StoreStep.id := by
  rw [doneIds, outcomes, List.filterMap_map, ← List.filterMap_eq_map, List.filterMap_filter]
  refine congrArg (List.filterMap · steps) (funext fun step => ?_)
  dsimp only [Function.comp]
  unfold StoreStep.accepted
  by_cases same : step.operation = operation <;> by_cases idle : step.calls.isEmpty <;>
    simp [same, idle]

/-- Then there is no failure. -/
theorem failures_of_accepted {phase : StorePhase State} {steps : List StoreStep}
    (outcomes : phase.outcomes = steps.map fun step => (step, step.accepted)) :
    phase.failures = [] := by
  rw [failures, outcomes, List.filterMap_map]
  refine List.filterMap_eq_nil_iff.mpr fun step _ => ?_
  change step.failure? step.accepted = none
  unfold StoreStep.accepted
  split_ifs <;> rfl

end StorePhase

namespace Book

/-- Where all writes succeed, the report tells them all. -/
theorem writeAll_of_allSucceed {former : Entries Path} {planned : List PlannedWrite}
    (succeed : AllSucceed backend root (disk, state) (writesMade root former disk planned)) :
    (writeAll disk root former planned).fault = none ∧
      (writeAll disk root former planned).report.written = planned.map PlannedWrite.path ∧
      (writeAll disk root former planned).report.failed = [] := by
  induction planned generalizing disk with
  | nil => exact ⟨rfl, rfl, rfl⟩
  | cons first later inductionHypothesis =>
      rw [writesMade] at succeed
      obtain ⟨⟨stale, wrote⟩, rest⟩ := allSucceed_cons.mp succeed
      rw [writeAll]
      rcases done : writeOne disk root former first with ⟨outcome, left⟩
      rw [Effect.perform, done] at rest
      rw [done] at wrote
      dsimp only at wrote rest ⊢
      subst wrote
      obtain ⟨noFault, written, failed⟩ := inductionHypothesis rest
      exact ⟨noFault, congrArg (first.path :: ·) written, failed⟩

end Book

namespace FilePhase

variable {files : Entries Path} {ids : List Text}

/-- The issues whose files are deleted, when every deletion succeeds. -/
def withFile (files : Entries Path) (ids : List Text) : List Text :=
  ids.filter fun id => (files.get? id).isSome

/-- Where all deletions succeed, the summary tells them all. -/
theorem remove_of_allSucceed (summary : Summary)
    (succeed : AllSucceed backend root (disk, state) (deletionsMade root files disk ids)) :
    (remove root false files disk summary ids).summary =
      .ok { summary with deleted := summary.deleted ++ withFile files ids } := by
  induction ids generalizing disk summary with
  | nil => simp [remove, withFile]
  | cons id ids inductionHypothesis =>
      rw [deletionsMade] at succeed
      rw [remove, removeOne, withFile]
      cases found : files.get? id with
      | none =>
          rw [found] at succeed
          simpa [found, withFile] using inductionHypothesis summary succeed
      | some path =>
          rw [found] at succeed
          obtain ⟨deleted, rest⟩ := allSucceed_cons.mp succeed
          rw [Effect.Succeeds] at deleted
          rcases done : Book.deleteFile disk root path with ⟨⟨notices, outcome⟩, left⟩
          rw [Effect.perform, done] at rest
          rw [done] at deleted
          obtain rfl : outcome = .ok () := deleted
          simpa [found, done, withFile, Summary.withDeleted] using
            inductionHypothesis (summary.withDeleted id) rest

/-- A dry run tells the same deletions. -/
theorem remove_of_isDry (root : Path) (files : Entries Path) (disk : Disk) (summary : Summary)
    (ids : List Text) :
    (remove root true files disk summary ids).summary =
      .ok { summary with deleted := summary.deleted ++ withFile files ids } := by
  induction ids generalizing disk summary with
  | nil => simp [remove, withFile]
  | cons id ids inductionHypothesis =>
      rw [remove, removeOne, withFile]
      cases found : files.get? id with
      | none => simpa [found, withFile] using inductionHypothesis disk summary
      | some path =>
          simpa [found, withFile, Summary.withDeleted] using
            inductionHypothesis disk (summary.withDeleted id)

end FilePhase

/-! ## Identifiers in a summary -/

namespace Summary

/-- Identifiers that are not among the early ones are added behind them. -/
theorem foldl_withId_append {ids early : List Text} (apart : ∀ id ∈ ids, id ∉ early)
    (late : List Text) : ids.foldl withId (early ++ late) = early ++ ids.foldl withId late := by
  induction ids generalizing late with
  | nil => rfl
  | cons id ids inductionHypothesis =>
      obtain ⟨other, others⟩ := List.forall_mem_cons.mp apart
      have next : withId (early ++ late) id = early ++ withId late id := by
        unfold withId
        by_cases known : late.contains id
        · rw [if_pos known, if_pos (by simpa using .inr (List.contains_iff_mem.mp known))]
        · rw [if_neg known, if_neg (by simpa [other] using known), List.append_assoc]
      rw [List.foldl_cons, List.foldl_cons, next, inductionHypothesis others]

end Summary

end Issuebook
