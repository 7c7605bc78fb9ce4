import Issuebook.Proofs.Book.Names
import Issuebook.Proofs.Entries
import Issuebook.Proofs.Reconciliation.Directions
import Issuebook.Proofs.Reconciliation.Success

/-!
# The authority of options

A reconciliation has no effect that its options do not allow on what was loaded from both sides:
`reconcile_isAllowed`. Identifiers may be repeated on either side, and calls and writes may fail.
-/

namespace Issuebook

variable {State : Type}

/-- Whether options allow an effect, where the store holds some issues and files hold others. An
issue is deleted only from the one side that has it, with leave to delete. Where files follow the
store no call is made, and where the store follows files none is deleted and only an issue that
had none is written to one. -/
def Effect.IsAllowed (options : ReconcileOptions) (beadsIssues fileIssues : List Issue) :
    Effect → Prop
  | .call (.delete id) =>
    options.direction ≠ .beadsToFiles ∧ options.deletes = true ∧
      Issue.hasId id beadsIssues = true ∧ Issue.hasId id fileIssues = false
  | .call _ => options.direction ≠ .beadsToFiles
  | .write former planned =>
    options.direction = .filesToBeads →
      Issue.hasId planned.issue.id fileIssues = false ∧ former.get? planned.issue.id = none
  | .delete id _ =>
    options.direction ≠ .filesToBeads ∧ options.deletes = true ∧
      Issue.hasId id fileIssues = true ∧ Issue.hasId id beadsIssues = false

namespace StoreStep

/-- Towards the files no step is planned for the store. -/
theorem ofPlan_beadsToFiles {options : ReconcileOptions} {beadsIssues fileIssues : List Issue}
    (follows : options.direction = .beadsToFiles) :
    ofPlan (options.plan beadsIssues fileIssues) beadsIssues = [] := by
  obtain ⟨noCreates, noUpdates, noDeletes⟩ := ReconcileOptions.plan_beadsToFiles follows
  rw [ofPlan, noCreates, noUpdates, noDeletes]
  rfl

/-- Only what the plan deletes is asked to be deleted. -/
theorem mem_beadsDeletes_of_call {plan : Plan} {beadsIssues : List Issue} {step : StoreStep}
    {id : Text} (present : step ∈ ofPlan plan beadsIssues)
    (asked : Call.delete id ∈ step.calls.map Prod.snd) : id ∈ plan.beadsDeletes := by
  rcases List.mem_append.mp present with early | deletes
  · rcases List.mem_append.mp early with creates | updates
    · obtain ⟨issue, -, rfl⟩ := List.mem_map.mp creates
      simp [create] at asked
    · obtain ⟨file, -, rfl⟩ := List.mem_map.mp updates
      simp only [update, Patch.updateCalls, List.map_append, List.mem_append] at asked
      rcases asked with updated | closed
      · split_ifs at updated <;> simp at updated
      · split_ifs at closed <;> simp at closed
  · obtain ⟨other, planned, rfl⟩ := List.mem_map.mp deletes
    obtain rfl : id = other := by simpa [delete] using asked
    exact planned

end StoreStep

namespace FilePhase

variable {options : ReconcileOptions} {entries : List Book.Entry} {id : Text}

/-- An issue without a file has none of its own among those of issues that are written. -/
theorem get?_ownFiles_of_absent (absent : Issue.hasId id (entries.map Book.Entry.issue) = false)
    (writing : List Issue) : (ownFiles (filesById entries) writing).get? id = none := by
  cases found : (ownFiles (filesById entries) writing).get? id with
  | none => rfl
  | some path =>
      have listed := (List.mem_filter.mp (Entries.mem_of_get? found)).1
      obtain ⟨entry, present, same⟩ := List.mem_map.mp (Entries.mem_of_mem_ofList listed)
      obtain ⟨rfl, -⟩ := Prod.mk.inj same
      rw [Issue.hasId_of_mem (List.mem_map_of_mem present)] at absent
      cases absent

/-- Only issues that are to be written are written, beside the files they had. -/
theorem mem_writesMade {disk : Disk} {today : Date} {files : Entries Path} {writing : List Issue}
    {effect : Effect} (made : effect ∈ writesMade disk today options files writing) :
    ∃ planned, planned.issue ∈ writing ∧ effect = .write (ownFiles files writing) planned := by
  unfold writesMade at made
  split_ifs at made
  · cases made
  · split at made
    · cases made
    · next how decided =>
        split at made
        · cases made
        · next planned named =>
            obtain ⟨existing, -, rfl⟩ := Fault.map_eq_ok.mp decided
            obtain ⟨write, present, rfl⟩ := Book.mem_writesMade made
            obtain ⟨base, -, chosen⟩ := Book.of_plan named
            refine ⟨write, ?_, rfl⟩
            rw [← (Book.of_planFrom chosen).1]
            exact List.mem_map_of_mem present

end FilePhase

namespace ReconcileRun

variable {options : ReconcileOptions} {beadsIssues : List Issue} {entries : List Book.Entry}

/-- Every call that is made is allowed. -/
theorem isAllowed_of_callsMade {backend : Backend State} {state : State} {effect : Effect}
    {fileIssues : List Issue} (made : effect ∈ StorePhase.callsMade backend state
      (StoreStep.ofPlan (options.plan beadsIssues fileIssues) beadsIssues)) :
    effect.IsAllowed options beadsIssues fileIssues := by
  obtain ⟨step, present, asked, listed, rfl⟩ := StorePhase.mem_callsMade backend made
  have follows : options.direction ≠ .beadsToFiles := by
    intro follows
    rw [StoreStep.ofPlan_beadsToFiles follows] at present
    cases present
  cases asked with
  | delete id =>
      exact ReconcileOptions.mem_beadsDeletes_directed.mp
        (StoreStep.mem_beadsDeletes_of_call present listed)
  | _ => exact follows

/-- So is every effect on files. -/
theorem isAllowed_of_fileEffects {disk : Disk} {today : Date} {summary : Summary}
    {effect : Effect} (made : effect ∈ FilePhase.effects disk today options entries
      (options.plan beadsIssues (entries.map Book.Entry.issue)) summary) :
    effect.IsAllowed options beadsIssues (entries.map Book.Entry.issue) := by
  rcases List.mem_append.mp made with written | deleted
  · obtain ⟨planned, present, rfl⟩ := FilePhase.mem_writesMade written
    intro follows
    have absent := ReconcileOptions.absent_of_mem_fileWrites follows present
    exact ⟨absent, FilePhase.get?_ownFiles_of_absent absent _⟩
  · split at deleted
    · cases deleted
    · obtain ⟨id, present, path, -, rfl⟩ := FilePhase.mem_deletionsMade deleted
      exact ReconcileOptions.mem_fileRemovals_directed.mp present

/-- So are all effects of carrying out a plan. -/
theorem isAllowed_of_effectsOf {disk : Disk} {today : Date} {backend : Backend State}
    {state : State} {conflicts : List Conflict} {effect : Effect}
    (made : effect ∈ effectsOf disk today backend state options beadsIssues entries
      (options.plan beadsIssues (entries.map Book.Entry.issue)) conflicts) :
    effect.IsAllowed options beadsIssues (entries.map Book.Entry.issue) := by
  unfold effectsOf at made
  split_ifs at made
  · cases made
  · rcases List.mem_append.mp made with called | rest
    · exact isAllowed_of_callsMade called
    · split at rest
      · cases rest
      · exact isAllowed_of_fileEffects rest

/-- A dry run has no effects. -/
theorem effects_of_isDry (dry : options.isDry = true) (disk : Disk) (today : Date)
    (backend : Backend State) (state : State) :
    effects disk today backend state options = [] := by
  unfold effects
  split
  · exact if_pos dry
  · rfl

end ReconcileRun

/-- The effects of a reconciliation are all that changes the disk and the store. A dry run has
none, and any other only effects that its options allow on what was loaded. -/
theorem reconcile_isAllowed (disk : Disk) (today : Date) (backend : Backend State) (state : State)
    (options : ReconcileOptions) :
    let run := reconcile disk today backend state options
    let effects := ReconcileRun.effects disk today backend state options
    Effect.performAll backend options.todoRoot (disk, state) effects = (run.disk, run.state) ∧
      (options.isDry = true → effects = [] ∧ run.disk = disk ∧ run.state = state) ∧
      ∀ effect ∈ effects, ∃ beadsIssues entries,
        (StoreLog.load disk options.beadsRoot).value = .ok beadsIssues ∧
          (Book.load disk options.todoRoot).value = .ok entries ∧
          effect.IsAllowed options beadsIssues (entries.map Book.Entry.issue) := by
  intro run effects
  have performs := reconcile_performs disk today backend state options
  refine ⟨performs, fun dry => ?_, fun effect made => ?_⟩
  · have none : effects = [] := ReconcileRun.effects_of_isDry dry ..
    change Effect.performAll _ _ _ effects = _ at performs
    rw [none] at performs
    obtain ⟨sameDisk, sameState⟩ := Prod.mk.inj performs
    exact ⟨none, sameDisk.symm, sameState.symm⟩
  · change effect ∈ ReconcileRun.effects disk today backend state options at made
    unfold ReconcileRun.effects at made
    split at made
    · next beadsIssues entries beadsLoaded filesLoaded =>
        exact ⟨beadsIssues, entries, beadsLoaded, filesLoaded,
          ReconcileRun.isAllowed_of_effectsOf made⟩
    · cases made

namespace ReconcileRun

open Book (titled)

/-- A project with a store and no book. -/
def storeOnly : Disk where
  nodes :=
    [(["p"], .directory), (["p", ".beads"], .directory),
      (["p", ".beads", "issues.jsonl"], .file (.text
        "\x7b\"id\": \"a-1\", \"title\": \"T\"\x7d\n"))]

/-- A reconciliation with leave to delete. -/
def deleting : ReconcileOptions :=
  { ReconcileOptions.ofRoot ⟨.root, ["p"]⟩ with deletes := true }

/-- A store with one issue and no files. -/
theorem storeOnly_loaded :
    (StoreLog.load storeOnly deleting.beadsRoot).value =
        .ok [(titled "a-1" "T").withSource .beads] ∧
      (Book.load storeOnly deleting.todoRoot).value = .ok [] := by
  constructor <;> decide +kernel

/-- With leave to delete, the deletion of that issue is allowed. -/
theorem storeOnly_isAllowed :
    Effect.call (.delete "a-1") ∈
        effects storeOnly ⟨2024, 1, 1⟩ Backend.willing () deleting ∧
      ∃ beadsIssues entries,
        (StoreLog.load storeOnly deleting.beadsRoot).value = .ok beadsIssues ∧
          (Book.load storeOnly deleting.todoRoot).value = .ok entries ∧
          Effect.IsAllowed deleting beadsIssues (entries.map Book.Entry.issue)
            (.call (.delete "a-1")) := by
  have made : Effect.call (.delete "a-1") ∈
      effects storeOnly ⟨2024, 1, 1⟩ Backend.willing () deleting := by
    rw [effects_of_loaded deleting storeOnly_loaded.1 storeOnly_loaded.2]
    exact List.mem_cons_self
  obtain ⟨-, -, allowed⟩ :=
    reconcile_isAllowed storeOnly ⟨2024, 1, 1⟩ Backend.willing () deleting
  exact ⟨made, allowed _ made⟩

end ReconcileRun

end Issuebook
