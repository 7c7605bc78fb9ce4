import Issuebook.Issue.Intake
import Issuebook.Reconciliation.StorePhase
import Mathlib.Tactic.SplitIfs

/-!
# Faithful stores

A store that carries out every call as it is told, described by the issues it holds. The store's
part of a reconciliation then has the effect of its calls, one after the other, and never fails:
`StorePhase.run_of_isFaithful`.
-/

namespace Issuebook

/-- The issues of a collection by their identifiers. -/
abbrev Contents := Text → Option Issue

namespace Contents

/-- The collection with another entry under an identifier. -/
def set (contents : Contents) (id : Text) (entry : Option Issue) : Contents :=
  fun other => if other = id then entry else contents other

/-- What is set is there. -/
@[simp] theorem set_same (contents : Contents) (id : Text) (entry : Option Issue) :
    contents.set id entry id = entry :=
  if_pos rfl

/-- Every other issue stays. -/
theorem set_other (contents : Contents) {id other : Text} (apart : other ≠ id)
    (entry : Option Issue) : contents.set id entry other = contents other :=
  if_neg apart

end Contents

namespace Patch

/-- The issue with a new value of a facet, where the value can be one. -/
def setFacet (issue : Issue) (value : Value) : Facet → Issue
  | .title => { issue with title := value.scalarText?.getD issue.title }
  | .status => { issue with status := Status.ofValue value }
  | .kind => { issue with kind := Kind.ofValue value }
  | .priority => { issue with priority := (Priority.ofValue? value).getD issue.priority }
  | .description => { issue with description := value.scalarText? }
  | .assignee => { issue with assignee := value.scalarText? }
  | .labels => { issue with labels := value.idList? }
  | .dependsOn => { issue with dependsOn := value.idList? }
  | .blocks => { issue with blocks := value.idList? }
  | .parent => { issue with parent := value.scalarText? }

/-- The issue with the value of a field, when the field is a facet. -/
def setField (issue : Issue) (field : Text) (value : Value) : Issue :=
  match Facet.all.find? fun facet => facet.name = field with
  | some facet => setFacet issue value facet
  | none => issue

/-- The issue with exactly the fields of a patch changed. -/
def apply (patch : Patch) (issue : Issue) : Issue :=
  patch.foldl (fun issue (field, value) => setField issue field value) issue

end Patch

namespace Call

/-- The identifier of the issue that a call is about. -/
def id : Call → Text
  | .create issue => issue.id
  | .update id _ => id
  | .close id => id
  | .delete id => id

/-- What a call makes of the entry of its issue. -/
def effect (entry : Option Issue) : Call → Option Issue
  | .create issue => some issue
  | .update _ patch => entry.map patch.apply
  | .close _ => entry.map fun issue => { issue with status := .closed }
  | .delete _ => none

/-- The collection after a call was carried out. -/
def applied (contents : Contents) (call : Call) : Contents :=
  contents.set call.id (call.effect (contents call.id))

end Call

/-- A store whose contents are known in every state accepts every call and carries it out. -/
structure Backend.IsFaithful {State : Type} (backend : Backend State)
    (contents : State → Contents) : Prop where
  /-- Every call is accepted. -/
  accepts : ∀ state call, ∃ notices detail,
    (backend.answer state call).1 = ⟨notices, .ok ⟨true, detail⟩⟩
  /-- Every call is carried out. -/
  carriesOut : ∀ state call,
    contents (backend.answer state call).2 = call.applied (contents state)

/-- A store that is nothing but its contents. -/
def Backend.plain : Backend Contents where
  answer contents call := (⟨[], .ok ⟨true, []⟩⟩, call.applied contents)

/-- The plain store does what it is called for. -/
theorem Backend.isFaithful_plain : Backend.plain.IsFaithful id where
  accepts _ _ := ⟨[], [], rfl⟩
  carriesOut _ _ := rfl

namespace StoreStep

/-- The collection after the calls of a step. -/
def applied (contents : Contents) (step : StoreStep) : Contents :=
  step.calls.foldl (fun contents entry => entry.2.applied contents) contents

/-- What the calls of a step make of the entry of its issue. -/
def effect (entry : Option Issue) (step : StoreStep) : Option Issue :=
  step.calls.foldl (fun entry call => call.2.effect entry) entry

/-- Every call of a step is about the issue of the step. -/
def KeepsToItself (step : StoreStep) : Prop :=
  ∀ entry ∈ step.calls, entry.2.id = step.id

variable {State : Type} {backend : Backend State} {contents : State → Contents}

/-- A faithful store does all calls, one behind the other. -/
theorem makeCalls_of_isFaithful (faithful : backend.IsFaithful contents) (state : State)
    (calls : List (Operation × Call)) :
    (makeCalls backend state calls).1.value = .done ∧
      contents (makeCalls backend state calls).2 =
        calls.foldl (fun contents entry => entry.2.applied contents) (contents state) := by
  induction calls generalizing state with
  | nil => exact ⟨rfl, rfl⟩
  | cons entry calls inductionHypothesis =>
      obtain ⟨operation, call⟩ := entry
      obtain ⟨notices, detail, answer⟩ := faithful.accepts state call
      obtain ⟨done, effect⟩ := inductionHypothesis (backend.answer state call).2
      have step : makeCalls backend state ((operation, call) :: calls) =
          (⟨notices ++ (makeCalls backend (backend.answer state call).2 calls).1.notices,
            (makeCalls backend (backend.answer state call).2 calls).1.value⟩,
            (makeCalls backend (backend.answer state call).2 calls).2) := by
        rw [makeCalls]
        split
        · rename_i noticesFound answerFound next found
          rw [found] at answer
          obtain ⟨rfl, same⟩ := Noted.mk.inj answer
          obtain rfl := Except.ok.inj same
          rw [found]
          rfl
        · rename_i found
          rw [found] at answer
          cases (Noted.mk.inj answer).2
      rw [step]
      refine ⟨done, ?_⟩
      rw [effect, faithful.carriesOut]
      rfl

/-- It does every step, which ends nothing. -/
theorem perform_of_isFaithful (faithful : backend.IsFaithful contents) (state : State)
    (step : StoreStep) :
    StorePhase.endingFault? (step.perform backend state).1.value = none ∧
      contents (step.perform backend state).2 = step.applied (contents state) := by
  unfold perform
  split_ifs with idle
  · refine ⟨rfl, ?_⟩
    rw [applied, List.isEmpty_iff.mp idle]
    rfl
  · obtain ⟨done, effect⟩ := makeCalls_of_isFaithful faithful state step.calls
    exact ⟨by rw [done]; rfl, effect⟩

/-- A step changes the entry of its issue and leaves other issues alone. -/
theorem applied_eq {step : StoreStep} (keeps : step.KeepsToItself) (contents : Contents) :
    step.applied contents = contents.set step.id (step.effect (contents step.id)) := by
  have calls : ∀ calls : List (Operation × Call), (∀ entry ∈ calls, entry.2.id = step.id) →
      ∀ contents : Contents,
      calls.foldl (fun contents entry => entry.2.applied contents) contents =
        contents.set step.id
          (calls.foldl (fun entry call => call.2.effect entry) (contents step.id)) := by
    intro calls own
    induction calls with
    | nil =>
        intro contents
        funext id
        by_cases same : id = step.id
        · rw [same, Contents.set_same]
          rfl
        · rw [contents.set_other same]
          rfl
    | cons entry calls inductionHypothesis =>
        intro contents
        obtain ⟨operation, call⟩ := entry
        obtain ⟨first, later⟩ := List.forall_mem_cons.mp own
        change call.id = step.id at first
        have one : call.applied contents =
            contents.set step.id (call.effect (contents step.id)) := by
          rw [Call.applied, first]
        rw [List.foldl_cons, List.foldl_cons, inductionHypothesis later]
        funext id
        by_cases same : id = step.id
        · rw [same, Contents.set_same, Contents.set_same, one, Contents.set_same]
        · rw [Contents.set_other _ same, Contents.set_other _ same, one,
            Contents.set_other _ same]
  exact calls step.calls keeps contents

end StoreStep

namespace StorePhase

variable {State : Type} {backend : Backend State} {contents : State → Contents}

/-- The collection after the calls of steps. -/
def applied (contents : Contents) (steps : List StoreStep) : Contents :=
  steps.foldl (fun contents step => step.applied contents) contents

/-- In a faithful store every step is carried out, in order. -/
theorem run_of_isFaithful (faithful : backend.IsFaithful contents) (state : State)
    (steps : List StoreStep) :
    (run backend state steps).fault = none ∧
      contents (run backend state steps).state = applied (contents state) steps := by
  induction steps generalizing state with
  | nil => exact ⟨rfl, rfl⟩
  | cons step steps inductionHypothesis =>
      obtain ⟨noFault, effect⟩ := StoreStep.perform_of_isFaithful faithful state step
      obtain ⟨later, rest⟩ := inductionHypothesis (step.perform backend state).2
      rw [run]
      dsimp only
      rw [noFault]
      refine ⟨later, ?_⟩
      change contents (run backend (step.perform backend state).2 steps).state = _
      rw [rest, effect]
      rfl

/-- What steps leave alone. -/
theorem applied_of_absent {steps : List StoreStep} (keep : ∀ step ∈ steps, step.KeepsToItself)
    (contents : Contents) {id : Text} (absent : id ∉ steps.map StoreStep.id) :
    applied contents steps id = contents id := by
  induction steps generalizing contents with
  | nil => rfl
  | cons step steps inductionHypothesis =>
      obtain ⟨keepsFirst, keepLater⟩ := List.forall_mem_cons.mp keep
      have parts : id ≠ step.id ∧ id ∉ steps.map StoreStep.id := by
        simpa using absent
      change applied (step.applied contents) steps id = _
      rw [inductionHypothesis keepLater _ parts.2, StoreStep.applied_eq keepsFirst,
        contents.set_other parts.1]

/-- Of steps about different issues, each does to its issue what it would do alone. -/
theorem applied_of_mem {steps : List StoreStep} (keep : ∀ step ∈ steps, step.KeepsToItself)
    (distinct : (steps.map StoreStep.id).Nodup) (contents : Contents) {step : StoreStep}
    (present : step ∈ steps) :
    applied contents steps step.id = step.effect (contents step.id) := by
  induction steps generalizing contents with
  | nil => cases present
  | cons first steps inductionHypothesis =>
      obtain ⟨keepsFirst, keepLater⟩ := List.forall_mem_cons.mp keep
      rw [List.map_cons] at distinct
      obtain ⟨absent, distinctLater⟩ := List.nodup_cons.mp distinct
      change applied (first.applied contents) steps step.id = _
      rcases List.mem_cons.mp present with rfl | later
      · rw [applied_of_absent keepLater _ absent, StoreStep.applied_eq keepsFirst,
          Contents.set_same]
      · have other : step.id ≠ first.id := by
          intro same
          exact absent (same ▸ List.mem_map_of_mem later)
        rw [inductionHypothesis keepLater distinctLater _ later, StoreStep.applied_eq keepsFirst,
          contents.set_other other]

end StorePhase

end Issuebook
