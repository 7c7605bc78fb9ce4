import Issuebook.Proofs.Reconciliation.Actions
import Issuebook.Proofs.Reconciliation.Authority

/-!
# Runs of a plan

A run takes no action that is not planned, and none more often than it is planned. So it acts twice
on an identifier only where two copies with this identifier call for it: `plan_actsOnce_iff`.
-/

namespace Issuebook

/-- What an effect does to which identifier. -/
def Effect.action : Effect → Operation × Text
  | .call (.create issue) => (.create, issue.id)
  | .call (.update id _) => (.update, id)
  | .call (.close id) => (.close, id)
  | .call (.delete id) => (.delete, id)
  | .write _ planned => (.write, planned.issue.id)
  | .delete id _ => (.remove, id)

/-- The actions of a plan, with the closing that an update may take. -/
def Plan.runActions (plan : Plan) : List (Operation × Text) :=
  plan.beadsCreates.map (fun issue => (.create, issue.id)) ++
    (plan.beadsUpdates.flatMap (fun issue => [(.update, issue.id), (.close, issue.id)]) ++
      (plan.beadsDeletes.map (fun id => (.delete, id)) ++
        (plan.fileWrites.map (fun issue => (.write, issue.id)) ++
          plan.fileRemovals.map fun id => (.remove, id))))

/-- The actions of a run without closings are those of the plan. -/
theorem Plan.filter_runActions (plan : Plan) :
    plan.runActions.filter (fun action => action.1 ≠ .close) = plan.actions := by
  unfold runActions actions
  simp [List.filter_append, List.filter_map, Function.comp_def, List.filter_flatMap,
    ← List.map_eq_flatMap]

/-- Its closings are about the issues that are updated. -/
theorem Plan.closings_runActions (plan : Plan) :
    Operation.close.idsAmong plan.runActions = plan.beadsUpdates.map Issue.id := by
  unfold runActions Operation.idsAmong
  simp [List.filterMap_append, List.filterMap_map, List.filterMap_flatMap,
    ← List.map_eq_flatMap]

variable {State : Type} (backend : Backend State)

namespace StoreStep

/-- Calls are made in order, up to one that is not accepted. -/
theorem callsMade_prefix (state : State) (calls : List (Operation × Call)) :
    callsMade backend state calls <+: calls.map fun (_, call) => .call call := by
  induction calls generalizing state with
  | nil => exact List.prefix_rfl
  | cons first calls inductionHypothesis =>
      obtain ⟨operation, call⟩ := first
      rw [callsMade, List.map_cons, List.prefix_cons_inj]
      split
      · split_ifs
        · exact inductionHypothesis _
        · exact List.nil_prefix
      · exact List.nil_prefix

end StoreStep

namespace StorePhase

/-- The calls that are made are calls of the steps, in their order. -/
theorem callsMade_sublist (state : State) (steps : List StoreStep) :
    (callsMade backend state steps).Sublist
      (steps.flatMap fun step => step.calls.map fun (_, call) => .call call) := by
  induction steps generalizing state with
  | nil => exact .slnil
  | cons step steps inductionHypothesis =>
      rw [callsMade, List.flatMap_cons]
      refine (StoreStep.callsMade_prefix backend _ _).sublist.append ?_
      split
      · exact List.nil_sublist _
      · exact inductionHypothesis _

end StorePhase

namespace StoreStep

/-- What the calls of a step do. -/
def actions (step : StoreStep) : List (Operation × Text) :=
  step.calls.map fun (_, call) => (Effect.call call).action

/-- An update makes at most one update and one closing. -/
theorem actions_update (beadsIssues : List Issue) (file : Issue) :
    (update beadsIssues file).actions.Sublist [(.update, file.id), (.close, file.id)] := by
  unfold actions update Patch.updateCalls
  rw [List.map_append]
  refine (List.Sublist.append ?_ ?_ :
    List.Sublist _ ([(Operation.update, file.id)] ++ [(Operation.close, file.id)]))
  · split_ifs
    · exact List.nil_sublist _
    · exact .refl _
  · split_ifs
    · exact .refl _
    · exact List.nil_sublist _

/-- The steps of a plan make at most its actions, with a closing for each update. -/
theorem actions_ofPlan (plan : Plan) (beadsIssues : List Issue) :
    ((ofPlan plan beadsIssues).flatMap actions).Sublist
      (plan.beadsCreates.map (fun issue => (.create, issue.id)) ++
        (plan.beadsUpdates.flatMap (fun issue => [(.update, issue.id), (.close, issue.id)]) ++
          plan.beadsDeletes.map fun id => (.delete, id))) := by
  rw [ofPlan, List.flatMap_append, List.flatMap_append, List.append_assoc, List.flatMap_map,
    List.flatMap_map, List.flatMap_map, List.map_eq_flatMap, List.map_eq_flatMap]
  refine (List.Sublist.refl _).append (.append ?_ (.refl _))
  induction plan.beadsUpdates with
  | nil => exact .slnil
  | cons file files inductionHypothesis =>
      exact (actions_update beadsIssues file).append inductionHypothesis

end StoreStep

namespace Book

/-- Planned writes are tried in order, up to one that ends the batch. -/
theorem writesMade_prefix (root : Path) (former : Entries Path) (disk : Disk)
    (planned : List PlannedWrite) :
    writesMade root former disk planned <+: planned.map (.write former) := by
  induction planned generalizing disk with
  | nil => exact List.prefix_rfl
  | cons first later inductionHypothesis =>
      rw [writesMade, List.map_cons, List.prefix_cons_inj]
      split
      · exact inductionHypothesis _
      · exact List.nil_prefix

end Book

namespace FilePhase

variable {options : ReconcileOptions} {files : Entries Path}

/-- The writes that are made are writes of the plan. -/
theorem actions_writesMade (disk : Disk) (today : Date) (writing : List Issue) :
    ((writesMade disk today options files writing).map Effect.action).Sublist
      (writing.map fun issue => (.write, issue.id)) := by
  unfold writesMade
  split_ifs
  · exact List.nil_sublist _
  · cases writeOptions disk options files writing with
    | error fault => exact List.nil_sublist _
    | ok how =>
        dsimp only
        cases named : Book.plan disk today options.todoRoot how writing with
        | error fault => exact List.nil_sublist _
        | ok planned =>
            obtain ⟨base, -, chosen⟩ := Book.of_plan named
            have issues := (Book.of_planFrom chosen).1
            have made := (Book.writesMade_prefix options.todoRoot how.previousPaths disk
              planned).sublist.map Effect.action
            rw [List.map_map] at made
            rw [← issues, List.map_map]
            exact made

/-- The deletions that are made are removals of the plan. -/
theorem actions_deletionsMade (root : Path) (disk : Disk) (ids : List Text) :
    ((deletionsMade root files disk ids).map Effect.action).Sublist
      (ids.map fun id => (.remove, id)) := by
  induction ids generalizing disk with
  | nil => exact .slnil
  | cons id ids inductionHypothesis =>
      rw [deletionsMade, List.map_cons]
      split
      · exact (inductionHypothesis disk).cons _
      · rw [List.map_cons]
        refine .cons_cons _ ?_
        split
        · exact inductionHypothesis _
        · split_ifs
          · exact inductionHypothesis _
          · exact List.nil_sublist _

/-- All effects on files are actions of the plan, in their order. -/
theorem actions_effects (disk : Disk) (today : Date) (entries : List Book.Entry) (plan : Plan)
    (summary : Summary) :
    ((effects disk today options entries plan summary).map Effect.action).Sublist
      (plan.fileWrites.map (fun issue => (.write, issue.id)) ++
        plan.fileRemovals.map fun id => (.remove, id)) := by
  unfold effects
  dsimp only
  rw [List.map_append]
  refine (actions_writesMade disk today plan.fileWrites).append ?_
  split
  · exact List.nil_sublist _
  · exact actions_deletionsMade ..

end FilePhase

namespace ReconcileRun

/-- A run takes only the actions of its plan, in order, and none of them twice. -/
theorem actions_effectsOf (disk : Disk) (today : Date) (backend : Backend State) (state : State)
    (options : ReconcileOptions) (beadsIssues : List Issue) (entries : List Book.Entry)
    (plan : Plan) (conflicts : List Conflict) :
    ((effectsOf disk today backend state options beadsIssues entries plan conflicts).map
      Effect.action).Sublist plan.runActions := by
  unfold effectsOf Plan.runActions
  split_ifs
  · exact List.nil_sublist _
  · dsimp only
    have called := (StorePhase.callsMade_sublist backend state
      (StoreStep.ofPlan plan beadsIssues)).map Effect.action
    rw [List.map_flatMap] at called
    simp only [List.map_map] at called
    have inStore := called.trans (StoreStep.actions_ofPlan plan beadsIssues)
    rw [← List.append_assoc] at inStore
    rw [List.map_append, ← List.append_assoc _ _ (_ ++ _), ← List.append_assoc]
    refine inStore.append ?_
    split
    · exact List.nil_sublist _
    · exact FilePhase.actions_effects ..

end ReconcileRun

/-- A plan holds the actions that its copies call for, so it acts on each identifier once at most
exactly where no two such copies share one, as where identifiers are distinct on either side. A run
takes its actions alone, each once at most, and after an update the closing that it may take. -/
theorem ReconcileOptions.plan_actsOnce_iff (options : ReconcileOptions)
    (beadsIssues fileIssues : List Issue) :
    let plan := options.plan beadsIssues fileIssues
    plan.actions.Perm (options.copyActions beadsIssues fileIssues) ∧
      (plan.ActsOnce ↔ options.HasSingleCalls beadsIssues fileIssues) ∧
      ((beadsIssues.map Issue.id).Nodup → (fileIssues.map Issue.id).Nodup → plan.ActsOnce) ∧
      ∀ (State : Type) (disk : Disk) (today : Date) (backend : Backend State) (state : State)
        (entries : List Book.Entry) (conflicts : List Conflict),
        let taken := (ReconcileRun.effectsOf disk today backend state options beadsIssues entries
          plan conflicts).map Effect.action
        (taken.filter fun action => action.1 ≠ .close).Sublist plan.actions ∧
          (Operation.close.idsAmong taken).Sublist (plan.beadsUpdates.map Issue.id) := by
  intro plan
  refine ⟨actions_perm, actsOnce_iff_hasSingleCalls, fun beadsDistinct filesDistinct => ?_,
    fun State disk today backend state entries conflicts => ?_⟩
  · exact actsOnce_iff_hasSingleCalls.mpr
      (hasSingleCalls_of_distinct beadsDistinct filesDistinct)
  · have taken := ReconcileRun.actions_effectsOf disk today backend state options beadsIssues
      entries plan conflicts
    constructor
    · rw [← plan.filter_runActions]
      exact taken.filter _
    · rw [← plan.closings_runActions]
      exact taken.filterMap _

namespace ReconcileRun

/-- The options of a project without settings. -/
def unsettled : ReconcileOptions :=
  ReconcileOptions.ofRoot ⟨.root, ["p"]⟩

/-- A plan acts once on copies that agree, although one is repeated. -/
theorem agreeing_actsOnce :
    let issue := Book.titled "a-1" "T"
    ¬([issue, issue].map Issue.id).Nodup ∧ (unsettled.plan [issue] [issue, issue]).ActsOnce := by
  intro issue
  obtain ⟨-, once, -⟩ := unsettled.plan_actsOnce_iff [issue] [issue, issue]
  refine ⟨by decide, once.mpr ⟨?_, ?_⟩⟩ <;> decide +kernel

/-- A book with two files of one issue. -/
def repeated : Disk where
  nodes :=
    [(["p"], .directory), (["p", ".todo"], .directory),
      (["p", ".todo", "a.md"], .file (.text "---\nid: x-1\ntitle: T\n---\n")),
      (["p", ".todo", "b.md"], .file (.text "---\nid: x-1\ntitle: T\n---\n"))]

/-- The issue as it is read from either file. -/
def repeatedIssue : Issue :=
  (Book.titled "x-1" "T").withSource .file

/-- What the book holds. -/
def repeatedBook : List Book.Entry :=
  [⟨⟨.root, ["p", ".todo", "a.md"]⟩, repeatedIssue⟩,
    ⟨⟨.root, ["p", ".todo", "b.md"]⟩, repeatedIssue⟩]

/-- The book has two files with one identifier. -/
theorem repeated_files :
    Book.files repeated unsettled.todoRoot = .ok (repeatedBook.map Book.Entry.path) := by
  have walked : repeated.walk unsettled.todoRoot = .ok (.there ["p", ".todo"] .directory) := by
    decide +kernel
  rw [Book.files, Disk.filesBelow, Disk.pathsBelow_of_sorted walked (by decide)]
  decide +kernel

/-- Both are loaded. -/
theorem repeated_loaded :
    (StoreLog.load repeated unsettled.beadsRoot).value = .ok [] ∧
      (Book.load repeated unsettled.todoRoot).value = .ok repeatedBook := by
  refine ⟨by decide +kernel, ?_⟩
  rw [Book.load, repeated_files]
  decide +kernel

/-- The issue is created twice. -/
theorem repeated_created_twice :
    (StoreLog.load repeated unsettled.beadsRoot).value = .ok [] ∧
      (Book.load repeated unsettled.todoRoot).value = .ok repeatedBook ∧
      ¬(unsettled.plan [] (repeatedBook.map Book.Entry.issue)).ActsOnce ∧
      (effects repeated ⟨2024, 1, 1⟩ Backend.willing () unsettled).map Effect.action =
        [(Operation.create, ("x-1" : Text)), (Operation.create, "x-1")] := by
  obtain ⟨stored, filed⟩ := repeated_loaded
  refine ⟨stored, filed, ?_, ?_⟩
  · unfold Plan.ActsOnce
    decide +kernel
  · rw [effects_of_loaded unsettled stored filed]
    decide +kernel

end ReconcileRun

end Issuebook
