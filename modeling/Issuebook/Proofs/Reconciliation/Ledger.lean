import Issuebook.Proofs.Reconciliation.Repetition
import Issuebook.Proofs.Reconciliation.Success

/-!
# Ledgers

What becomes of every action that a run tries, as a list beside the effects of the run: an action
fails exactly where one of its effects does not succeed, and no effect belongs to another action. A
summary that tells a ledger tells each of its actions once, as done or as failed: `Tells.perm`.
-/

namespace Issuebook

open Effect (AllSucceed allSucceed_cons performAll)

/-- The lists of a summary that tell what is done. -/
inductive Listing where
  /-- New issues. -/
  | created
  /-- Changed issues. -/
  | updated
  /-- Deleted issues. -/
  | deleted
  deriving Repr, DecidableEq

/-- An action that was tried, with its failure if it has one. -/
structure Attempt where
  /-- What was tried. -/
  operation : Operation
  /-- The identifier of the issue. -/
  id : Text
  /-- Why it did not work. -/
  failure? : Option Failure
  deriving Repr, DecidableEq

namespace Attempt

/-- What was tried for which issue. -/
def action (attempt : Attempt) : Operation × Text :=
  (attempt.operation, attempt.id)

/-- The list that tells the action when it is done. An issue that is written is new, unless it had
a file before. -/
def listing (hadFile : Text → Bool) (attempt : Attempt) : Listing :=
  match attempt.operation with
  | .create => .created
  | .update | .close => .updated
  | .delete | .remove => .deleted
  | .write => if hadFile attempt.id then .updated else .created

end Attempt

/-- Attempts in order. -/
abbrev Ledger := List Attempt

namespace Ledger

variable {ledger others : Ledger} {hadFile : Text → Bool} {listing : Listing} {id : Text}

/-- The actions that were tried. -/
def actions (ledger : Ledger) : List (Operation × Text) :=
  ledger.map Attempt.action

/-- The failures in order. -/
def failures (ledger : Ledger) : List Failure :=
  ledger.filterMap Attempt.failure?

/-- The actions that are done. -/
def done (ledger : Ledger) : Ledger :=
  ledger.filter fun attempt => attempt.failure?.isNone

/-- The issues that a list of a summary tells. -/
def listed (hadFile : Text → Bool) (ledger : Ledger) (listing : Listing) : List Text :=
  (ledger.done.filter fun attempt => attempt.listing hadFile = listing).map Attempt.id

/-- Every failure names the issue of its action. -/
def IsNamed (ledger : Ledger) : Prop :=
  ∀ attempt ∈ ledger, ∀ failure ∈ attempt.failure?, failure.id = attempt.id

/-- The actions of two ledgers are those of the one and then those of the other. -/
theorem actions_append : actions (ledger ++ others) = ledger.actions ++ others.actions :=
  List.map_append

/-- So are their failures. -/
theorem failures_append : failures (ledger ++ others) = ledger.failures ++ others.failures :=
  List.filterMap_append

/-- A first attempt adds its failure, if it has one. -/
theorem failures_cons {attempt : Attempt} :
    failures (attempt :: ledger) = attempt.failure?.toList ++ ledger.failures := by
  unfold failures
  rw [List.filterMap_cons]
  cases attempt.failure? <;> rfl

/-- It adds its identifier to its listing, if it has none. -/
theorem listed_cons {attempt : Attempt} : listed hadFile (attempt :: ledger) listing =
    (if attempt.failure?.isNone ∧ attempt.listing hadFile = listing then [attempt.id] else []) ++
      ledger.listed hadFile listing := by
  unfold listed done
  rw [List.filter_cons]
  by_cases succeeds : attempt.failure?.isNone <;>
    by_cases place : attempt.listing hadFile = listing <;> simp [succeeds, place]

/-- Two ledgers are listed one behind the other. -/
theorem listed_append : listed hadFile (ledger ++ others) listing =
    ledger.listed hadFile listing ++ others.listed hadFile listing := by
  unfold listed done
  rw [List.filter_append, List.filter_append, List.map_append]

/-- What is listed was attempted. -/
theorem listed_subset : ledger.listed hadFile listing ⊆ ledger.map Attempt.id :=
  List.map_subset _ (List.filter_sublist.trans List.filter_sublist).subset

/-- The actions are about the attempts. -/
theorem ids_actions : ledger.actions.map Prod.snd = ledger.map Attempt.id :=
  List.map_map

/-- Where identifiers are distinct, those that are not among the failures are done. -/
theorem ids_done (named : ledger.IsNamed) (distinct : (ledger.map Attempt.id).Nodup) :
    (ledger.map Attempt.id).filter (fun id => !(ledger.failures.map Failure.id).contains id) =
      ledger.done.map Attempt.id := by
  rw [List.filter_map]
  refine congrArg (List.map Attempt.id) (List.filter_congr fun attempt present => ?_)
  rw [Function.comp_apply, Bool.eq_iff_iff, Bool.not_eq_true', ← Bool.not_eq_true,
    List.contains_iff_mem, Option.isNone_iff_eq_none, Option.eq_none_iff_forall_not_mem]
  constructor
  · intro absent failure failed
    refine absent (List.mem_map.mpr ⟨failure, ?_, named attempt present failure failed⟩)
    exact List.mem_filterMap.mpr ⟨attempt, present, failed⟩
  · intro done failed
    obtain ⟨failure, listed, same⟩ := List.mem_map.mp failed
    obtain ⟨other, otherPresent, otherFailed⟩ := List.mem_filterMap.mp listed
    have ids : other.id = attempt.id :=
      (named other otherPresent failure otherFailed).symm.trans same
    obtain rfl := List.inj_on_of_nodup_map distinct otherPresent present ids
    exact done failure otherFailed

end Ledger

namespace Summary

variable {summary : Summary} {ledger others : Ledger} {hadFile : Text → Bool}

/-- The issues that a list tells. -/
def listed (summary : Summary) : Listing → List Text
  | .created => summary.created
  | .updated => summary.updated
  | .deleted => summary.deleted

/-- A summary tells what is done and what failed, in the order of a ledger. -/
structure Tells (summary : Summary) (hadFile : Text → Bool) (ledger : Ledger) : Prop where
  /-- What is done is in the list for it. -/
  lists : ∀ listing, summary.listed listing = ledger.listed hadFile listing
  /-- What failed is among the failures. -/
  failures : summary.failures = ledger.failures

/-- The identifiers that a summary tells, in whatever list. -/
def toldIds (summary : Summary) : List Text :=
  summary.created ++ summary.updated ++ summary.deleted ++ summary.failures.map Failure.id

/-- Each action of a ledger is told once. -/
theorem Tells.perm (tells : summary.Tells hadFile ledger) (named : ledger.IsNamed) :
    summary.toldIds.Perm (ledger.map Attempt.id) := by
  have created : summary.created = _ := tells.lists .created
  have updated : summary.updated = _ := tells.lists .updated
  have deleted : summary.deleted = _ := tells.lists .deleted
  rw [toldIds, created, updated, deleted, tells.failures]
  clear tells created updated deleted
  refine List.perm_iff_count.mpr fun id => ?_
  induction ledger with
  | nil => rfl
  | cons attempt ledger inductionHypothesis =>
      obtain ⟨own, others⟩ := List.forall_mem_cons.mp named
      have rest := inductionHypothesis others
      simp only [Ledger.listed_cons, Ledger.failures_cons, List.map_append, List.count_append,
        List.map_cons, List.count_cons] at rest ⊢
      cases failed : attempt.failure? with
      | some failure =>
          have same := own failure failed
          simp only [Option.isNone_some, Bool.false_eq_true, false_and, if_false,
            Option.toList_some, List.map_cons, List.map_nil, same, List.count_nil,
            List.count_singleton]
          omega
      | none =>
          cases place : attempt.listing hadFile <;>
            simp [List.count_singleton] <;> omega

/-! ## Adding to a summary -/

/-- Distinct identifiers are listed as they are. -/
theorem foldl_withId_nil {ids : List Text} (distinct : ids.Nodup) :
    ids.foldl withId [] = ids := by
  induction ids with
  | nil => rfl
  | cons id ids inductionHypothesis =>
      obtain ⟨fresh, others⟩ := List.nodup_cons.mp distinct
      have apart : ∀ other ∈ ids, other ∉ [id] := fun other present same =>
        fresh (List.mem_singleton.mp same ▸ present)
      have behind := foldl_withId_append apart []
      rw [inductionHypothesis others] at behind
      exact behind

/-- New identifiers are added in order. -/
theorem foldl_withId_of_apart {ids early : List Text} (distinct : ids.Nodup)
    (apart : ∀ id ∈ ids, id ∉ early) : ids.foldl withId early = early ++ ids := by
  have behind := foldl_withId_append apart []
  rwa [List.append_nil, foldl_withId_nil distinct] at behind

/-- A deletion that is told belongs to the ledger with that removal. -/
theorem Tells.withDeleted (tells : summary.Tells hadFile ledger) (id : Text) :
    (summary.withDeleted id).Tells hadFile (ledger ++ [⟨.remove, id, none⟩]) where
  lists listing := by
    have before := tells.lists listing
    rw [Ledger.listed_append, ← before]
    cases listing with
    | deleted => rfl
    | created => exact (List.append_nil _).symm
    | updated => exact (List.append_nil _).symm
  failures := by
    rw [Ledger.failures_append, ← tells.failures]
    exact (List.append_nil _).symm

/-- Attempts that all fail add their failures alone. -/
theorem Tells.withFailures (tells : summary.Tells hadFile ledger)
    (failed : ∀ attempt ∈ others, attempt.failure?.isSome) :
    (summary.withFailures others.failures).Tells hadFile (ledger ++ others) where
  lists listing := by
    have none : others.done = [] := List.filter_eq_nil_iff.mpr fun attempt present =>
      by simpa [Option.isSome_iff_ne_none] using failed attempt present
    have before := tells.lists listing
    rw [Ledger.listed_append, ← before, Ledger.listed, none]
    cases listing <;> exact (List.append_nil _).symm
  failures := by
    rw [Ledger.failures_append, ← tells.failures]
    rfl

/-- Writes add their failures, and the issues whose writes are done. -/
theorem Tells.withWritten (tells : summary.Tells hadFile ledger) (named : others.IsNamed)
    (writes : ∀ attempt ∈ others, attempt.operation = .write)
    (distinct : ((ledger ++ others).map Attempt.id).Nodup) (names : List Text) :
    ((summary.withFailures others.failures).withWritten names
      ((others.map Attempt.id).filter fun id =>
        !(others.failures.map Failure.id).contains id) hadFile).Tells hadFile
          (ledger ++ others) := by
  rw [List.map_append] at distinct
  obtain ⟨-, othersDistinct, apart⟩ := List.nodup_append.mp distinct
  rw [Ledger.ids_done named othersDistinct]
  have doneDistinct : (others.done.map Attempt.id).Nodup :=
    (List.filter_sublist.map Attempt.id).nodup othersDistinct
  have separate (listing : Listing) (kept : Text → Bool) :
      ∀ id ∈ (others.done.map Attempt.id).filter kept, id ∉ summary.listed listing := by
    intro id present before
    rw [tells.lists] at before
    have own := List.map_subset _ List.filter_sublist.subset (List.mem_filter.mp present).1
    exact apart id (Ledger.listed_subset before) id own rfl
  -- What was done is added to the list it belongs to; no identifier is in that list already.
  have shape (listing : Listing) (kept : Text → Bool)
      (same : ∀ attempt ∈ others, kept attempt.id = decide (attempt.listing hadFile = listing)) :
      ((others.done.map Attempt.id).filter kept).foldl withId (summary.listed listing) =
        (ledger ++ others).listed hadFile listing := by
    rw [foldl_withId_of_apart (doneDistinct.filter _) (separate listing kept),
      Ledger.listed_append, ← tells.lists listing, List.filter_map]
    refine congrArg (summary.listed listing ++ ·) (congrArg (List.map Attempt.id) ?_)
    exact List.filter_congr fun attempt present => same attempt (List.mem_of_mem_filter present)
  refine ⟨fun listing => ?_, ?_⟩
  · cases listing with
    | created =>
        refine shape .created _ fun attempt present => ?_
        unfold Attempt.listing
        rw [writes attempt present]
        cases hadFile attempt.id <;> rfl
    | updated =>
        refine shape .updated _ fun attempt present => ?_
        unfold Attempt.listing
        rw [writes attempt present]
        cases hadFile attempt.id <;> rfl
    | deleted =>
        have none : others.listed hadFile .deleted = [] := by
          unfold Ledger.listed
          rw [List.map_eq_nil_iff, List.filter_eq_nil_iff]
          intro attempt present
          unfold Attempt.listing
          rw [writes attempt (List.mem_of_mem_filter present)]
          cases hadFile attempt.id <;> decide
        rw [Ledger.listed_append, none, List.append_nil]
        exact tells.lists .deleted
  · rw [Ledger.failures_append, ← tells.failures]
    rfl

end Summary

/-! ## Effects behind a ledger -/

/-- The action of a plan that an effect belongs to: closing belongs to an update. -/
def Effect.attempted (effect : Effect) : Operation × Text :=
  match effect.action with
  | (.close, id) => (.update, id)
  | action => action

variable {State : Type}

/-- The effects of a run in order are those of the actions of a ledger in order. Each action has an
effect of its own, and fails exactly where its effects do not all succeed; but where planning the
files was stopped by a fault, every write fails with it and none is tried. -/
inductive Accounts (backend : Backend State) (root : Path) (stopped : Option Fault) :
    Disk × State → List Effect → Ledger → Prop where
  /-- There is none. -/
  | nil (start : Disk × State) : Accounts backend root stopped start [] []
  /-- The first action is tried. -/
  | tried {start : Disk × State} {own effects : List Effect} {attempt : Attempt} {ledger : Ledger}
      (some : own ≠ []) (about : ∀ effect ∈ own, effect.attempted = attempt.action)
      (planned : attempt.operation = .write → stopped = none)
      (told : attempt.failure? = none ↔ AllSucceed backend root start own)
      (named : ∀ failure ∈ attempt.failure?, failure.id = attempt.id)
      (later : Accounts backend root stopped (performAll backend root start own) effects ledger) :
      Accounts backend root stopped start (own ++ effects) (attempt :: ledger)
  /-- The first action is a write that is not planned. -/
  | unplanned {start : Disk × State} {effects : List Effect} {ledger : Ledger} {fault : Fault}
      (id : Text) (because : stopped = some fault) (expected : fault.isExpected = true)
      (later : Accounts backend root stopped start effects ledger) :
      Accounts backend root stopped start effects
        (⟨.write, id, some ⟨id, .write, fault.message⟩⟩ :: ledger)

namespace Accounts

variable {backend : Backend State} {root : Path} {stopped : Option Fault} {start : Disk × State}
  {effects later : List Effect} {ledger others : Ledger}

/-- An action with one effect is tried. -/
theorem single {effect : Effect} {attempt : Attempt}
    (accounts : Accounts backend root stopped (effect.perform backend root start) effects ledger)
    (about : effect.attempted = attempt.action)
    (planned : attempt.operation = .write → stopped = none)
    (told : attempt.failure? = none ↔ effect.Succeeds backend root start)
    (named : ∀ failure ∈ attempt.failure?, failure.id = attempt.id) :
    Accounts backend root stopped start (effect :: effects) (attempt :: ledger) := by
  refine .tried (List.cons_ne_nil effect []) (fun other same => ?_) planned ?_ named accounts
  · rw [List.mem_singleton.mp same]
    exact about
  · rw [told, allSucceed_cons]
    exact (and_iff_left (.nil _)).symm

/-- Effects that are accounted for one behind the other are accounted for together. -/
theorem append (accounts : Accounts backend root stopped start effects ledger)
    (rest : Accounts backend root stopped (performAll backend root start effects) later others) :
    Accounts backend root stopped start (effects ++ later) (ledger ++ others) := by
  induction accounts with
  | nil => exact rest
  | tried some about planned told named _ inductionHypothesis =>
      rw [Effect.performAll_append] at rest
      rw [List.append_assoc]
      exact .tried some about planned told named (inductionHypothesis rest)
  | unplanned id because expected _ inductionHypothesis =>
      exact .unplanned id because expected (inductionHypothesis rest)

/-- A ledger that accounts for effects names its issues. -/
theorem isNamed (accounts : Accounts backend root stopped start effects ledger) :
    ledger.IsNamed := by
  induction accounts with
  | nil => exact fun _ impossible => absurd impossible List.not_mem_nil
  | tried _ _ _ _ named _ inductionHypothesis =>
      exact List.forall_mem_cons.mpr ⟨named, inductionHypothesis⟩
  | unplanned id _ _ _ inductionHypothesis =>
      refine List.forall_mem_cons.mpr ⟨fun failure failed => ?_, inductionHypothesis⟩
      rw [← Option.some.inj failed]

end Accounts

end Issuebook
