import Issuebook.Proofs.Reconciliation.Accounting
import Issuebook.Proofs.Reconciliation.Foretelling
import Issuebook.Proofs.Reconciliation.Repetition

/-!
# Runs that come to their end

On a disk on which paths lead somewhere, and with a store whose faults concern one call each, a run
comes to its end and tells each action of its plan once, as done or as failed, whatever becomes of
the others: `reconcile_accounts`. A link that leads back to itself stops the planning of files with
a fault that no one expects, and then the run tells nothing.
-/

namespace Issuebook

variable {State : Type} {disk : Disk} {today : Date} {options : ReconcileOptions}

/-- The files of a reconciliation on a disk on which paths lead somewhere. -/
structure ReconcileOptions.IsPassable (options : ReconcileOptions) (disk : Disk) : Prop where
  /-- Paths lead somewhere. -/
  passable : disk.IsPassable
  /-- Everything on the disk has a name. -/
  places : ∀ entry ∈ disk.nodes, entry.1.IsNamed
  /-- The directory of the book has a path of names. -/
  root : options.todoRoot.IsNamed
  /-- The pattern holds no zero. -/
  pattern : options.pattern.IsZeroFree
  /-- Nor does the directory of closed issues. -/
  closedSubdir : options.closedSubdir.IsZeroFree

namespace FilePhase

variable {files : Entries Path} {writing : List Issue} {root : Path}

/-- Writes end in a summary: the files are written, or each of them fails. -/
theorem exists_makeWrites (today : Date) (passable : disk.IsPassable) (rootNamed : root.IsNamed)
    {how : WriteOptions} (zeroFree : Book.HasZeroFreeNames how)
    (formersNamed : ∀ id, ∀ path ∈ how.previousPaths.get? id, path.IsNamed)
    (hadFile : Text → Bool) (writing : List Issue) (summary : Summary) :
    let phase := makeWrites disk today root how hadFile writing summary
    (∃ done, phase.summary = .ok done) ∧ disk.KeepsLinks phase.disk := by
  have plans := Book.yields_plan passable zeroFree today rootNamed writing
  unfold makeWrites Book.write
  cases made : Book.plan disk today root how writing with
  | error fault =>
      have expected : fault.isExpected = true := plans.of_error made
      dsimp only
      rw [allFailed, if_pos expected]
      exact ⟨⟨_, rfl⟩, .refl disk⟩
  | ok planned =>
      rw [made] at plans
      dsimp only
      obtain ⟨home, book, confined⟩ :=
        Book.isConfined_of_plan passable.loopFree rootNamed.isWritten made
      obtain ⟨ends, keeps⟩ :=
        Book.fault_writeAll book passable rootNamed formersNamed confined plans
      rw [ends]
      refine ⟨?_, keeps⟩
      dsimp only
      unfold namesWithin
      split_ifs
      · exact ⟨_, rfl⟩
      · obtain ⟨place, resolved, -⟩ := (passable.keeps keeps).exists_resolve rootNamed
        rw [resolved]
        exact ⟨_, rfl⟩

/-- The issues of a plan are written, or each of them fails. -/
theorem exists_write (today : Date) (passable : options.IsPassable disk)
    (real : options.isDry = false) (filesNamed : ∀ entry ∈ files, entry.2.IsNamed)
    (listed : ∃ names, Book.existingNames disk options.todoRoot = .ok names)
    (summary : Summary) :
    let phase := write disk today options files writing summary
    (∃ done, phase.summary = .ok done) ∧ disk.KeepsLinks phase.disk := by
  obtain ⟨names, existing⟩ := listed
  unfold write
  by_cases empty : writing.isEmpty = true
  · rw [if_pos empty]
    exact ⟨⟨_, rfl⟩, .refl disk⟩
  · rw [if_neg empty, writeOptions, existing]
    dsimp only [Except.map]
    rw [real, if_neg (by decide)]
    refine exists_makeWrites today passable.passable passable.root
      ⟨passable.pattern, passable.closedSubdir⟩ (fun id path former => ?_) _ writing summary
    exact filesNamed _ (List.mem_of_mem_filter (Entries.mem_of_get? former))

/-- Files are removed, or their removal fails. -/
theorem exists_remove (passable : disk.IsPassable) (rootNamed : root.IsNamed)
    (filesNamed : ∀ entry ∈ files, entry.2.IsNamed) (summary : Summary) (ids : List Text) :
    ∃ done, (remove root false files disk summary ids).summary = .ok done := by
  induction ids generalizing disk summary with
  | nil => exact ⟨_, rfl⟩
  | cons id ids inductionHypothesis =>
      rw [remove, removeOne]
      cases found : files.get? id with
      | none => exact inductionHypothesis passable summary
      | some path =>
          have named : path.IsNamed := filesNamed _ (Entries.mem_of_get? found)
          obtain ⟨home, book⟩ := passable.exists_hasHome rootNamed
          have removes := Book.yields_removeFile passable rootNamed named
          have keeps := (Book.confines_removeFile book named.isWritten).toKeepsLinks
          dsimp only
          unfold Book.deleteFile
          rcases tried : Book.removeFile disk root path with ⟨fault | target, left⟩
          · rw [tried] at removes keeps
            have survives : fault.isSurvivable = true := removes.of_error rfl
            simp only [Bool.false_eq_true, if_false, if_pos survives]
            exact inductionHypothesis (passable.keeps keeps) _
          · rw [tried] at keeps
            simp only [Bool.false_eq_true, if_false]
            exact inductionHypothesis (passable.keeps keeps) _

/-- The files' part of a plan comes to its end. -/
theorem exists_run (passable : options.IsPassable disk) (real : options.isDry = false)
    {entries : List Book.Entry} (filed : (Book.load disk options.todoRoot).value = .ok entries)
    (plan : Plan) (summary : Summary) :
    ∃ done, (run disk today options entries plan summary).summary = .ok done := by
  have entriesNamed := Book.isNamed_of_load passable.root passable.places filed
  have filesNamed : ∀ entry ∈ filesById entries, entry.2.IsNamed := by
    intro listed present
    obtain ⟨entry, read, same⟩ := List.mem_map.mp (Entries.mem_of_mem_ofList present)
    rw [← same]
    exact entriesNamed entry read
  have existing : ∃ names, Book.existingNames disk options.todoRoot = .ok names := by
    obtain ⟨paths, listed, -⟩ := Book.of_load filed
    exact ⟨_, Fault.map_eq_ok.mpr ⟨paths, listed, rfl⟩⟩
  obtain ⟨⟨between, wrote⟩, keeps⟩ :=
    exists_write today passable real filesNamed existing summary
  unfold run
  dsimp only
  rw [wrote, real]
  exact exists_remove (passable.passable.keeps keeps) passable.root filesNamed between
    plan.fileRemovals

end FilePhase

/-- On a disk on which paths lead somewhere, a plan is carried out to its end. -/
theorem ReconcileRun.exists_carryOut {backend : Backend State} {state : State}
    (survivable : backend.IsSurvivable) (passable : options.IsPassable disk)
    (real : options.isDry = false) {entries : List Book.Entry}
    (filed : (Book.load disk options.todoRoot).value = .ok entries) (beadsIssues : List Issue)
    (plan : Plan) (conflicts : List Conflict) :
    ∃ done, (carryOut disk today backend state options beadsIssues entries plan
      conflicts).summary = .ok done := by
  obtain ⟨noFault, -⟩ : _ ∧ _ ∧ Accounts backend options.todoRoot none (disk, state) _ _ :=
    StorePhase.accounts_run survivable fun _ (present : _ ∈ StoreStep.ofPlan plan beadsIssues) =>
      StoreStep.isDirect_of_mem_ofPlan present
  rw [carryOut, if_neg (by rw [real]; decide)]
  dsimp only
  rw [noFault]
  exact FilePhase.exists_run passable real filed plan _

/-- With a store whose faults concern one call each, a run that ends in a summary has tried every
action of its plan, but for the updates with an empty patch and for the writes of files that cannot
be planned. It tells each of them once, as done or as failed. On a disk on which paths lead
somewhere every run ends in a summary. -/
theorem reconcile_accounts (disk : Disk) (today : Date) (backend : Backend State) (state : State)
    (options : ReconcileOptions) {beadsIssues : List Issue} {entries : List Book.Entry}
    (stored : (StoreLog.load disk options.beadsRoot).value = .ok beadsIssues)
    (filed : (Book.load disk options.todoRoot).value = .ok entries)
    (real : options.isDry = false) (beadsDistinct : (beadsIssues.map Issue.id).Nodup)
    (filesDistinct : (entries.map fun entry => entry.issue.id).Nodup)
    (survivable : backend.IsSurvivable) :
    let files := FilePhase.filesById entries
    let plan := options.plan beadsIssues (entries.map Book.Entry.issue)
    let planned := (plan.withoutIdle beadsIssues).actions
    let run := reconcile disk today backend state options
    (options.IsPassable disk → ∃ done, run.summary = .ok done) ∧
      ∀ done, run.summary = .ok done →
        (∃ ledger : Ledger, ledger.actions = planned ∧
          Accounts backend options.todoRoot
            (FilePhase.planFault? disk today options files plan.fileWrites) (disk, state)
            (ReconcileRun.effects disk today backend state options) ledger ∧
          done.Tells files.has ledger) ∧
        done.toldIds.Perm (planned.map Prod.snd) ∧ done.toldIds.Nodup := by
  intro files plan planned run
  have once : plan.ActsOnce := by
    refine ReconcileOptions.actsOnce_iff_hasSingleCalls.mpr
      (ReconcileOptions.hasSingleCalls_of_distinct beadsDistinct ?_)
    rw [List.map_map]
    exact filesDistinct
  have removals : ∀ id ∈ plan.fileRemovals, ∃ path, files.get? id = some path := fun id present =>
    FilePhase.get?_filesById (ReconcileOptions.mem_fileRemovals_directed.mp present).2.2.1
  have carried := ReconcileRun.summary_of_loaded options stored filed today backend state
  constructor
  · intro passable
    obtain ⟨done, ended⟩ := ReconcileRun.exists_carryOut survivable passable real filed beadsIssues
      plan _
    exact ⟨done, carried.trans ended⟩
  · intro done ended
    obtain ⟨ledger, (actions : ledger.actions = planned), accounts, tells⟩ :=
      ReconcileRun.exists_ledger_carryOut survivable real removals once (carried.symm.trans ended)
    -- Every action of the plan is told once, under its identifier, whatever became of it.
    have told : done.toldIds.Perm (planned.map Prod.snd) := by
      rw [← actions, Ledger.ids_actions]
      exact tells.perm accounts.isNamed
    refine ⟨⟨ledger, actions, ?_, tells⟩, told, told.nodup_iff.mpr ?_⟩
    · rw [ReconcileRun.effects_of_loaded options stored filed]
      exact accounts
    · exact ((plan.actions_withoutIdle_sublist beadsIssues).map Prod.snd).nodup once

/-! ## A store that falters and a link that leads back to itself -/

/-- A store in which creating an issue breaks and no update is accepted. -/
def Backend.faltering : Backend Unit where
  answer _ call :=
    match call with
    | .create _ => (⟨[], .error (.broken "down")⟩, ())
    | .update _ _ => (⟨[], .ok ⟨false, "no"⟩⟩, ())
    | .close _ | .delete _ => (⟨[], .ok ⟨true, []⟩⟩, ())

/-- Faults of the faltering store concern one call each. -/
theorem Backend.isSurvivable_faltering : Backend.faltering.IsSurvivable := by
  intro state call fault answered
  cases call with
  | create issue => exact Except.error.inj answered ▸ rfl
  | _ => cases answered

namespace ReconcileRun

open Book (titled)

/-- On the disk of the uneven project, paths lead somewhere. -/
theorem uneven_passable : filesFirst.IsPassable uneven where
  passable := .of_linkCount (by decide) rfl
  places := by decide +kernel
  root := by decide
  pattern := by decide
  closedSubdir := by decide

/-- A run with the faltering store tells of all its actions. -/
theorem uneven_accounts : ∃ done,
    (reconcile uneven ⟨2024, 1, 1⟩ Backend.faltering () filesFirst).summary = .ok done ∧
      done.toldIds.Perm ["b-2", "c-3", "a-1"] := by
  obtain ⟨completes, accounts⟩ := reconcile_accounts uneven ⟨2024, 1, 1⟩ Backend.faltering ()
    filesFirst uneven_loaded.1 uneven_loaded.2 rfl (by decide) (by decide)
    Backend.isSurvivable_faltering
  obtain ⟨done, ended⟩ := completes uneven_passable
  exact ⟨done, ended, (accounts done ended).2.1⟩

/-- A store with two issues, and a book in which the name of one is a link to itself. -/
def circling : Disk where
  nodes :=
    [(["p"], .directory), (["p", ".beads"], .directory),
      (["p", ".beads", "issues.jsonl"], .file (.text
        "\x7b\"id\": \"a-1\", \"title\": \"A\"\x7d\n\x7b\"id\": \"b-2\", \"title\": \"B\"\x7d\n")),
      (["p", ".todo"], .directory), (["p", ".todo", "a-1.md"], .link "a-1.md")]

/-- Files are named by identifiers. -/
def identified : ReconcileOptions :=
  { unsettled with pattern := "[id].md" }

/-- What the store holds. -/
def circlingStore : List Issue :=
  [(titled "a-1" "A").withSource .beads, (titled "b-2" "B").withSource .beads]

/-- The circling book has no file. -/
theorem circling_files : Book.files circling identified.todoRoot = .ok [] := by
  have walked : circling.walk identified.todoRoot = .ok (.there ["p", ".todo"] .directory) := by
    decide +kernel
  rw [Book.files, Disk.filesBelow, Disk.pathsBelow_of_sorted walked (by decide)]
  decide +kernel

/-- Its store has two issues. -/
theorem circling_loaded :
    (StoreLog.load circling identified.beadsRoot).value = .ok circlingStore ∧
      (Book.load circling identified.todoRoot).value = .ok [] := by
  refine ⟨by decide +kernel, ?_⟩
  rw [Book.load, circling_files]
  rfl

/-- How the missing files are written. -/
def circlingOptions : WriteOptions where
  pattern := "[id].md"

/-- How they would be written. -/
theorem circling_writeOptions :
    FilePhase.writeOptions circling identified (FilePhase.filesById []) circlingStore =
      .ok circlingOptions := by
  rw [FilePhase.writeOptions, Book.existingNames, circling_files]
  rfl

/-- A link that leads to itself keeps them from being planned. -/
theorem circling_unplanned :
    Book.plan circling ⟨2024, 1, 1⟩ identified.todoRoot circlingOptions circlingStore =
      .error (.endlessLinks "/p/.todo/a-1.md") := by
  decide +kernel

/-- So the run breaks off, although nothing is wrong with the store. -/
theorem circling_breaksOff :
    identified.isDry = false ∧
      (StoreLog.load circling identified.beadsRoot).value = .ok circlingStore ∧
      (Book.load circling identified.todoRoot).value = .ok [] ∧
      (circlingStore.map Issue.id).Nodup ∧ Backend.willing.IsSurvivable ∧
      (identified.plan circlingStore []).actions =
        [(Operation.write, ("a-1" : Text)), (.write, "b-2")] ∧
      (reconcile circling ⟨2024, 1, 1⟩ Backend.willing () identified).summary =
        .error (.endlessLinks "/p/.todo/a-1.md") := by
  obtain ⟨stored, filed⟩ := circling_loaded
  refine ⟨rfl, stored, filed, by decide, ?_, rfl, ?_⟩
  · intro state call fault answered
    cases answered
  · rw [summary_of_loaded identified stored filed]
    change (carryOut circling ⟨2024, 1, 1⟩ Backend.willing () identified circlingStore []
      (identified.plan circlingStore []) _).summary = _
    have plan : identified.plan circlingStore [] = ⟨circlingStore, [], [], [], []⟩ := rfl
    have broken (summary : Summary) : (FilePhase.write circling ⟨2024, 1, 1⟩ identified
        (FilePhase.filesById []) circlingStore summary).summary =
          .error (.endlessLinks "/p/.todo/a-1.md") := by
      rw [FilePhase.write, if_neg (by decide), circling_writeOptions]
      dsimp only
      rw [if_neg (by decide), FilePhase.makeWrites, Book.write, circling_unplanned]
      rfl
    rw [plan, carryOut, if_neg (by decide)]
    dsimp only [finish, StoreStep.ofPlan, List.map_nil, List.append_nil, StorePhase.run]
    unfold FilePhase.run
    dsimp only
    rw [broken]
    exact broken _

end ReconcileRun

end Issuebook
