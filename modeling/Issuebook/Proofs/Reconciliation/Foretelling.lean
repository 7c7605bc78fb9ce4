import Issuebook.Proofs.Book.Steps
import Issuebook.Proofs.Book.Names
import Issuebook.Proofs.Reconciliation.Directions
import Issuebook.Proofs.Reconciliation.Success

/-!
# What a dry run foretells

The summary of a dry run beside that of the same reconciliation when each of its effects succeeds.
Both tell the same issues, except that a dry run also tells the updates that take no call to the
store; and both tell the same files, by the names that were planned or by those that the files
have in their directory: `dryRun_foretells`.
-/

namespace Issuebook

open Effect (AllSucceed allSucceed_append)

variable {State : Type}

/-- The options for a dry run, or for one that is not. -/
def ReconcileOptions.withDry (options : ReconcileOptions) (isDry : Bool) : ReconcileOptions :=
  { options with isDry }

namespace Summary

variable {summary : Summary}

/-- The summary after the files' part of a plan. -/
def withFiles (summary : Summary) (failures : List Failure) (names ids : List Text)
    (hadFile : Text → Bool) (deleted : List Text) : Summary :=
  { (summary.withFailures failures).withWritten names ids hadFile with
    deleted := summary.deleted ++ deleted }

/-- Listing identifiers that neither list has does not hide a difference between the lists. -/
theorem foldl_withId_eq_iff {ids one other : List Text} (oneApart : ∀ id ∈ ids, id ∉ one)
    (otherApart : ∀ id ∈ ids, id ∉ other) :
    ids.foldl withId one = ids.foldl withId other ↔ one = other := by
  have oneShape := foldl_withId_append oneApart []
  have otherShape := foldl_withId_append otherApart []
  rw [List.append_nil] at oneShape otherShape
  rw [oneShape, otherShape]
  exact List.append_left_inj _

end Summary

namespace Book

open Disk

/-- In its directory a file has the plain name that led to it. -/
theorem nameWithin_of_isPlain {disk : Disk} {base : Place} {name : Text} {target : Path}
    (linkFree : disk.IsLinkFree (pathOf base)) (clean : base.IsTidy) (plain : Path.IsPlain name)
    (found : disk.ensureWithin (pathOf base) (Path.ofText name) = .ok target) :
    nameWithin (pathOf base) target = name := by
  have inner : Path.relativeTo? (pathOf base) (pathOf (base ++ (Path.ofText name).segments)) =
      some (Path.ofText name) := by
    change (Path.dropFront? base (base ++ (Path.ofText name).segments)).map _ = _
    rw [Path.dropFront?_eq_some.mpr rfl, Option.map_some, ← plain.relative]
  rw [path_of_isPlain linkFree clean plain found, nameWithin, inner]
  exact plain.written

end Book

namespace FilePhase

variable {backend : Backend State} {disk : Disk} {today : Date} {state : State}
  {options : ReconcileOptions} {files : Entries Path} {writing : List Issue}

/-- Writes that are planned for issues, each where its name leads. -/
structure ArePlanned (disk : Disk) (root : Path) (writing : List Issue)
    (planned : List PlannedWrite) : Prop where
  /-- Only those issues are written. -/
  issues : ∀ write ∈ planned, write.issue ∈ writing
  /-- Each name leads to the path from the canonical form of the directory. -/
  paths : ∀ write ∈ planned, ∃ base, disk.ensureWithin root root false = .ok base ∧
    disk.ensureWithin base (Path.ofText write.relative) = .ok write.path

/-- No write is planned for any issues. -/
theorem arePlanned_nil (disk : Disk) (root : Path) (writing : List Issue) :
    ArePlanned disk root writing [] :=
  ⟨fun _ impossible => absurd impossible List.not_mem_nil,
    fun _ impossible => absurd impossible List.not_mem_nil⟩

/-- What the planning gives is planned. -/
theorem arePlanned_of_plan {root : Path} {how : WriteOptions} {planned : List PlannedWrite}
    (made : Book.plan disk today root how writing = .ok planned) :
    ArePlanned disk root writing planned := by
  obtain ⟨base, found, chosen⟩ := Book.of_plan made
  obtain ⟨own, paths⟩ := Book.of_planFrom chosen
  exact ⟨fun write present => own ▸ List.mem_map_of_mem present,
    fun write present => ⟨base, found, paths write present⟩⟩

/-- What a dry run and a real one tell of the files' part of a plan: the same files, by their
planned names and by those that they have in their directory, or the same fault. -/
inductive Agree (disk : Disk) (root : Path) (writing : List Issue) (hadFile : Text → Bool)
    (told done : Summary) : Except Fault Summary → Except Fault Summary → Prop where
  /-- Both end in the same fault. -/
  | failed (fault : Fault) : Agree disk root writing hadFile told done (.error fault) (.error fault)
  /-- Both get to the end. -/
  | passed (failures : List Failure) (planned : List PlannedWrite) (left : Disk)
    (deleted : List Text) (arePlanned : ArePlanned disk root writing planned)
    (evolves : disk.EvolvesTo left) :
    Agree disk root writing hadFile told done
      (.ok (told.withFiles failures (planned.map PlannedWrite.relative)
        (planned.map fun write => write.issue.id) hadFile deleted))
      ((namesWithin left root (planned.map PlannedWrite.path)).map fun names =>
        done.withFiles failures names (planned.map fun write => write.issue.id) hadFile deleted)

/-- Nothing is written, but issues may have failed. -/
theorem agree_of_failures {root : Path} {hadFile : Text → Bool} (told done : Summary)
    (failures : List Failure) :
    Agree disk root writing hadFile told done (.ok (told.withFailures failures))
      (.ok (done.withFailures failures)) := by
  have passed : Agree disk root writing hadFile told done _ _ :=
    .passed failures [] disk [] (arePlanned_nil disk root writing) (.refl disk)
  simpa [namesWithin, Except.map, Summary.withFiles, Summary.withWritten, Summary.withFailures]
    using passed

/-- Where all writes succeed, they are the ones that are planned. -/
theorem agree_of_writes (backend : Backend State) (state : State) {root : Path}
    {how : WriteOptions} {hadFile : Text → Bool} (told done : Summary)
    (succeed : ∀ planned, Book.plan disk today root how writing = .ok planned →
      AllSucceed backend root (disk, state) (Book.writesMade root how.previousPaths disk planned)) :
    Agree disk root writing hadFile told done
      (planWrites disk today root how hadFile writing told).summary
      (makeWrites disk today root how hadFile writing done).summary := by
  unfold planWrites makeWrites Book.write
  cases made : Book.plan disk today root how writing with
  | error fault =>
      dsimp only
      unfold allFailed
      split_ifs
      · exact agree_of_failures ..
      · exact .failed fault
  | ok planned =>
      obtain ⟨noFault, written, failed⟩ := Book.writeAll_of_allSucceed (succeed planned made)
      have own := (Book.of_planFrom (Book.of_plan made).choose_spec.2).1
      dsimp only
      rw [noFault]
      dsimp only
      rw [written, failed]
      have passed : Agree disk root writing hadFile told done _ _ :=
        .passed [] planned _ [] (arePlanned_of_plan made)
          (Book.evolvesTo_writeAll disk root how.previousPaths planned)
      simpa [Summary.withFiles, Summary.withFailures, Summary.withWritten, ← own,
        Function.comp_def] using passed

/-- A dry run tells of the writes what a real one does when all of them succeed. -/
theorem write_agrees (told done : Summary)
    (succeed : AllSucceed backend options.todoRoot (disk, state)
      (writesMade disk today (options.withDry false) files writing)) :
    Agree disk options.todoRoot writing files.has told done
      (write disk today (options.withDry true) files writing told).summary
      (write disk today (options.withDry false) files writing done).summary := by
  unfold writesMade at succeed
  unfold write
  by_cases none : writing.isEmpty
  · rw [if_pos none, if_pos none]
    have passed : Agree disk options.todoRoot writing files.has told done _ _ :=
      agree_of_failures told done []
    simpa [Summary.withFailures] using passed
  · rw [if_neg none] at succeed ⊢
    rw [if_neg none]
    have same : writeOptions disk (options.withDry true) files writing =
        writeOptions disk (options.withDry false) files writing := rfl
    rw [same]
    cases decided : writeOptions disk (options.withDry false) files writing with
    | error fault => exact .failed fault
    | ok how =>
        rw [decided] at succeed
        refine agree_of_writes backend state told done fun planned made => ?_
        have root : (options.withDry false).todoRoot = options.todoRoot := rfl
        dsimp only at succeed
        rw [root, made] at succeed
        exact succeed

/-- So it does of the whole files' part. -/
theorem run_agrees (entries : List Book.Entry) (plan : Plan) (told done : Summary)
    (succeed : AllSucceed backend options.todoRoot (disk, state)
      (effects disk today (options.withDry false) entries plan done)) :
    Agree disk options.todoRoot plan.fileWrites (filesById entries).has told done
      (run disk today (options.withDry true) entries plan told).summary
      (run disk today (options.withDry false) entries plan done).summary := by
  unfold effects at succeed
  obtain ⟨writes, removals⟩ := allSucceed_append.mp succeed
  have isReal : (options.withDry false).isDry = false := rfl
  have root : options.todoRoot = (options.withDry false).todoRoot := rfl
  rw [root, performAll_writesMade backend disk state isReal _ done, ← root] at removals
  have wrote := write_agrees told done writes
  unfold run
  dsimp only
  generalize write disk today (options.withDry true) (filesById entries) plan.fileWrites told =
    dryPhase at wrote ⊢
  generalize write disk today (options.withDry false) (filesById entries) plan.fileWrites done =
    realPhase at removals wrote ⊢
  obtain ⟨dryNotices, dryDisk, drySummary⟩ := dryPhase
  obtain ⟨notices, left, summary⟩ := realPhase
  cases wrote with
  | failed fault => exact .failed fault
  | passed failures planned between deleted arePlanned evolves =>
      have passed : Agree disk options.todoRoot plan.fileWrites (filesById entries).has told done
          _ _ :=
        .passed failures planned between (deleted ++ withFile (filesById entries) plan.fileRemovals)
          arePlanned evolves
      have isDry : (options.withDry true).isDry = true := rfl
      dsimp only at removals ⊢
      rw [isDry, isReal, remove_of_isDry]
      cases named : namesWithin between options.todoRoot (planned.map PlannedWrite.path) with
      | error fault =>
          rw [named] at passed
          simpa [Summary.withFiles, Except.map] using passed
      | ok names =>
          rw [named] at passed removals
          dsimp only [Except.map] at removals passed ⊢
          rw [← root, remove_of_allSucceed _ removals]
          simpa [Summary.withFiles] using passed

end FilePhase

namespace Summary

variable {backend : Backend State} {root : Path} {disk : Disk} {state : State}

/-- The summary of a plan when all calls are accepted: it leaves out updates that take none. -/
def ofAccepted (conflicts : List Conflict) (plan : Plan) (beadsIssues : List Issue) : Summary :=
  { ofPlan conflicts plan with
    updated := (plan.beadsUpdates.filter fun file =>
      !(StoreStep.update beadsIssues file).calls.isEmpty).map Issue.id
    isDry := false }

/-- When all calls succeed, the store's part tells what was accepted. -/
theorem ofStorePhase_of_allSucceed {plan : Plan} {beadsIssues : List Issue}
    (succeed : AllSucceed backend root (disk, state)
      (StorePhase.callsMade backend state (StoreStep.ofPlan plan beadsIssues)))
    (conflicts : List Conflict) :
    ofStorePhase conflicts (StorePhase.run backend state (StoreStep.ofPlan plan beadsIssues)) =
      ofAccepted conflicts plan beadsIssues := by
  have outcomes := (StorePhase.run_of_allSucceed succeed).2
  have done := StorePhase.doneIds_of_accepted outcomes
  rw [ofStorePhase, StorePhase.failures_of_accepted outcomes, done, done, done]
  simp [StoreStep.ofPlan, ofAccepted, ofPlan, StoreStep.create, StoreStep.update,
    StoreStep.delete, List.filter_map, Function.comp_def]

/-- Nothing is left out exactly when every update takes a call. -/
theorem updated_ofAccepted {conflicts : List Conflict} {plan : Plan} {beadsIssues : List Issue} :
    (ofPlan conflicts plan).updated = (ofAccepted conflicts plan beadsIssues).updated ↔
      ∀ file ∈ plan.beadsUpdates, (StoreStep.update beadsIssues file).calls ≠ [] := by
  constructor
  · intro same
    have sameLength := congrArg List.length same
    simp only [ofPlan, ofAccepted, List.length_map] at sameLength
    have all := List.length_filter_eq_length_iff.mp sameLength.symm
    exact fun file present => by simpa using all file present
  · intro calls
    have all : plan.beadsUpdates.filter
        (fun file => !(StoreStep.update beadsIssues file).calls.isEmpty) = plan.beadsUpdates :=
      List.filter_eq_self.mpr fun file present => by simpa using calls file present
    rw [ofAccepted, all]
    rfl

/-- Where no issue is both updated and written, written ones do not hide what was left out. -/
theorem updated_withFiles {told done : Summary} {failures : List Failure}
    {toldNames names ids deleted : List Text} {hadFile : Text → Bool}
    (toldApart : ∀ id ∈ ids, id ∉ told.updated) (doneApart : ∀ id ∈ ids, id ∉ done.updated) :
    (told.withFiles failures toldNames ids hadFile deleted).updated =
        (done.withFiles failures names ids hadFile deleted).updated ↔
      told.updated = done.updated :=
  foldl_withId_eq_iff (fun id listed => toldApart id (List.mem_of_mem_filter listed))
    fun id listed => doneApart id (List.mem_of_mem_filter listed)

end Summary

namespace FilePhase

/-- Names inside a book are those seen from where its root resolves to. -/
theorem of_namesWithin {disk : Disk} {root : Path} {paths : List Path} {names : List Text}
    (named : namesWithin disk root paths = .ok names) :
    ∃ resolved, names = paths.map (Book.nameWithin resolved) ∧
      (paths ≠ [] → disk.resolve root = .ok resolved) := by
  unfold namesWithin at named
  split_ifs at named with none
  · have empty := List.isEmpty_iff.mp none
    refine ⟨root, ?_, fun some => absurd empty some⟩
    rw [empty, List.map_nil, Except.ok.inj named]
  · obtain ⟨resolved, found, rfl⟩ := Fault.map_eq_ok.mp named
    exact ⟨resolved, rfl, fun _ => found⟩

section Canonical

variable {disk left : Disk} {place : Place} {writing : List Issue} {planned : List PlannedWrite}
  {write : PlannedWrite} (arePlanned : ArePlanned disk (Disk.pathOf place) writing planned)
  (clean : place.IsTidy) (linkFree : disk.IsLinkFree (Disk.pathOf place))
include arePlanned clean linkFree

/-- A directory without links stays where it is while files are written. -/
theorem resolve_of_arePlanned (present : write ∈ planned) (evolves : disk.EvolvesTo left) :
    left.resolve (Disk.pathOf place) = .ok (Disk.pathOf place) := by
  obtain ⟨base, inside, -⟩ := arePlanned.paths write present
  obtain ⟨noZero, -⟩ := Disk.of_ensureWithin linkFree inside
  have home : disk.home (Disk.pathOf place) = place := Disk.home_pathOf clean disk
  have absolute : disk.absolute (Disk.pathOf place) = Disk.pathOf place :=
    congrArg Disk.pathOf home
  have clear := linkFree.hasNoLink_home
  rw [absolute] at noZero
  rw [home] at clear
  exact Disk.resolve_of_hasNoLink rfl clean (clear.evolves evolves) noZero

/-- In a directory without links, a plain name is the one that the file has there. -/
theorem nameWithin_of_arePlanned (present : write ∈ planned)
    (plain : Path.IsPlain write.relative) :
    Book.nameWithin (Disk.pathOf place) write.path = write.relative := by
  obtain ⟨base, inside, leads⟩ := arePlanned.paths write present
  have same := resolve_of_arePlanned arePlanned clean linkFree present (.refl disk)
  have absolute : disk.absolute (Disk.pathOf place) = Disk.pathOf place :=
    congrArg Disk.pathOf (Disk.home_pathOf clean disk)
  have baseSame : base = Disk.pathOf place := by
    obtain ⟨root, rootFound, inside⟩ := Fault.bind_eq_ok.mp inside
    obtain rfl := Except.ok.inj ((absolute ▸ rootFound).symm.trans same)
    obtain ⟨inner, innerFound, inside⟩ := Fault.bind_eq_ok.mp inside
    obtain rfl : inner = Disk.pathOf place := Except.ok.inj (innerFound.symm.trans same)
    split_ifs at inside
    exact (Except.ok.inj inside).symm
  exact Book.nameWithin_of_isPlain linkFree clean plain (baseSame ▸ leads)

/-- In a directory without links there always are such names. -/
theorem exists_namesWithin (evolves : disk.EvolvesTo left) :
    ∃ names, namesWithin left (Disk.pathOf place) (planned.map PlannedWrite.path) = .ok names := by
  unfold namesWithin
  cases planned with
  | nil => exact ⟨[], rfl⟩
  | cons write later =>
      rw [resolve_of_arePlanned arePlanned clean linkFree List.mem_cons_self evolves]
      exact ⟨_, rfl⟩

end Canonical

end FilePhase

namespace ReconcileRun

variable {backend : Backend State} {disk : Disk} {today : Date} {state : State}
  {options : ReconcileOptions} {beadsIssues : List Issue} {entries : List Book.Entry}

open FilePhase (Agree)

/-- A dry run of a plan tells what a real one does when all its effects succeed. -/
theorem carryOut_agrees (plan : Plan) (conflicts : List Conflict)
    (succeed : AllSucceed backend options.todoRoot (disk, state)
      (effectsOf disk today backend state (options.withDry false) beadsIssues entries plan
        conflicts)) :
    Agree disk options.todoRoot plan.fileWrites (FilePhase.filesById entries).has
      (Summary.ofPlan conflicts plan) (Summary.ofAccepted conflicts plan beadsIssues)
      (carryOut disk today backend state (options.withDry true) beadsIssues entries plan
        conflicts).summary
      (carryOut disk today backend state (options.withDry false) beadsIssues entries plan
        conflicts).summary := by
  have isReal : ¬ (options.withDry false).isDry = true := Bool.false_ne_true
  have isDry : (options.withDry true).isDry = true := rfl
  rw [effectsOf, if_neg isReal] at succeed
  obtain ⟨calls, rest⟩ := allSucceed_append.mp succeed
  have noFault := (StorePhase.run_of_allSucceed calls).1
  have summary := Summary.ofStorePhase_of_allSucceed calls conflicts
  rw [StorePhase.performAll_callsMade, noFault, summary] at rest
  rw [carryOut, if_pos isDry, carryOut, if_neg isReal]
  dsimp only
  rw [noFault]
  dsimp only [finish]
  rw [summary]
  exact FilePhase.run_agrees entries plan _ _ rest

end ReconcileRun

/-- The summary of a dry run beside that of the same reconciliation when all its effects succeed.
Both end in the same fault, or tell the same issues created and deleted, the same conflicts and the
same files. A dry run tells updates that take no call, which the other leaves out; and it tells
files by their planned names, which are those that the other tells where they are plain and no
link is near. -/
theorem dryRun_foretells (disk : Disk) (today : Date) (backend : Backend State) (state : State)
    (options : ReconcileOptions) (beadsIssues : List Issue) (entries : List Book.Entry)
    (stored : (StoreLog.load disk options.beadsRoot).value = .ok beadsIssues)
    (filed : (Book.load disk options.todoRoot).value = .ok entries)
    (distinct : ((entries.map Book.Entry.issue).map Issue.id).Nodup)
    (succeed : AllSucceed backend options.todoRoot (disk, state)
      (ReconcileRun.effects disk today backend state (options.withDry false))) :
    let plan := options.plan beadsIssues (entries.map Book.Entry.issue)
    let dry := (reconcile disk today backend state (options.withDry true)).summary
    let real := (reconcile disk today backend state (options.withDry false)).summary
    let isCanonical := ∃ place, options.todoRoot = Disk.pathOf place ∧ place.IsTidy ∧
      disk.IsLinkFree options.todoRoot
    (∀ fault, dry = .error fault → real = .error fault) ∧
      (isCanonical → ∀ told, dry = .ok told → ∃ done, real = .ok done) ∧
      ∀ done, real = .ok done → ∃ told planned resolved,
        dry = .ok told ∧ told.created = done.created ∧ told.deleted = done.deleted ∧
          told.conflicts = done.conflicts ∧
          (told.updated = done.updated ↔
            ∀ file ∈ plan.beadsUpdates, (StoreStep.update beadsIssues file).calls ≠ []) ∧
          FilePhase.ArePlanned disk options.todoRoot plan.fileWrites planned ∧
          told.filesWritten = planned.map PlannedWrite.relative ∧
          done.filesWritten = planned.map (fun write => Book.nameWithin resolved write.path) ∧
          (isCanonical → (∀ name ∈ told.filesWritten, Path.IsPlain name) →
            told.filesWritten = done.filesWritten) := by
  intro plan dry real isCanonical
  let conflicts := (options.changes beadsIssues (entries.map Book.Entry.issue)).conflicts
  have effects : ReconcileRun.effects disk today backend state (options.withDry false) =
      ReconcileRun.effectsOf disk today backend state (options.withDry false) beadsIssues entries
        plan conflicts :=
    ReconcileRun.effects_of_loaded (options.withDry false) stored filed today backend state
  have dryShape : dry = (ReconcileRun.carryOut disk today backend state (options.withDry true)
      beadsIssues entries plan conflicts).summary :=
    ReconcileRun.summary_of_loaded (options.withDry true) stored filed today backend state
  have realShape : real = (ReconcileRun.carryOut disk today backend state (options.withDry false)
      beadsIssues entries plan conflicts).summary :=
    ReconcileRun.summary_of_loaded (options.withDry false) stored filed today backend state
  -- Both runs load the same collections, so they differ only in how the one plan is carried out.
  have agree := ReconcileRun.carryOut_agrees plan conflicts (effects ▸ succeed)
  rw [← dryShape, ← realShape] at agree
  clear_value dry real
  cases agree with
  | failed fault =>
      exact ⟨fun _ same => same, fun _ _ impossible => (by cases impossible),
        fun _ impossible => by cases impossible⟩
  | passed failures planned left deleted arePlanned evolves =>
      refine ⟨fun _ impossible => (by cases impossible), ?_, fun done finished => ?_⟩
      · rintro ⟨place, canonical, clean, linkFree⟩ _ -
        rw [canonical] at arePlanned linkFree ⊢
        obtain ⟨names, named⟩ := FilePhase.exists_namesWithin arePlanned clean linkFree evolves
        exact ⟨_, Fault.map_eq_ok.mpr ⟨names, named, rfl⟩⟩
      obtain ⟨names, named, rfl⟩ := Fault.map_eq_ok.mp finished
      obtain ⟨resolved, shape, found⟩ := FilePhase.of_namesWithin named
      rw [List.map_map] at shape
      refine ⟨_, planned, resolved, rfl, rfl, rfl, rfl, ?_, arePlanned, rfl, shape, ?_⟩
      -- An issue that is written is not updated in the store, so the writes leave that list as it
      -- is.
      · have apart : ∀ id ∈ planned.map (fun write => write.issue.id),
            id ∉ plan.beadsUpdates.map Issue.id := by
          intro id listed updated
          obtain ⟨write, present, rfl⟩ := List.mem_map.mp listed
          obtain ⟨file, place, same⟩ := List.mem_map.mp updated
          exact ReconcileOptions.ne_of_updated_of_written distinct place
            (arePlanned.issues write present) same.symm
        have doneApart : ∀ id ∈ planned.map (fun write => write.issue.id),
            id ∉ (Summary.ofAccepted conflicts plan beadsIssues).updated := fun id listed updated =>
          apart id listed ((List.filter_sublist.map Issue.id).subset updated)
        exact (Summary.updated_withFiles apart doneApart).trans Summary.updated_ofAccepted
      · rintro ⟨place, canonical, clean, linkFree⟩ plain
        refine Eq.trans ?_ shape.symm
        refine List.map_congr_left fun write present => ?_
        rw [canonical] at arePlanned linkFree found
        have now := found (List.ne_nil_of_mem (List.mem_map_of_mem present))
        rw [FilePhase.resolve_of_arePlanned arePlanned clean linkFree present evolves] at now
        obtain rfl := Except.ok.inj now
        exact (FilePhase.nameWithin_of_arePlanned arePlanned clean linkFree present
          (plain _ (List.mem_map_of_mem present))).symm

/-! ## A store and a book -/

namespace ReconcileRun

open Book (titled)

/-- The options of a project in which files win and are named by identifiers. -/
def filesFirst : ReconcileOptions :=
  { ReconcileOptions.ofRoot ⟨.root, ["p"]⟩ with strategy := .fileWins, pattern := "[id].md" }

/-- A store and a book with two issues each: one that the other has not, and one with two
titles. -/
def uneven : Disk where
  nodes :=
    [(["p"], .directory), (["p", ".beads"], .directory),
      (["p", ".beads", "issues.jsonl"], .file (.text
        "\x7b\"id\": \"a-1\", \"title\": \"A\"\x7d\n\x7b\"id\": \"c-3\", \"title\": \"C\"\x7d\n")),
      (["p", ".todo"], .directory),
      (["p", ".todo", "b-2.md"], .file (.text "---\nid: b-2\ntitle: B\n---\n")),
      (["p", ".todo", "c-3.md"], .file (.text "---\nid: c-3\ntitle: D\n---\n"))]

/-- What the store holds. -/
def unevenStore : List Issue :=
  [(titled "a-1" "A").withSource .beads, (titled "c-3" "C").withSource .beads]

/-- What the book holds. -/
def unevenBook : List Book.Entry :=
  [⟨⟨.root, ["p", ".todo", "b-2.md"]⟩, (titled "b-2" "B").withSource .file⟩,
    ⟨⟨.root, ["p", ".todo", "c-3.md"]⟩, (titled "c-3" "D").withSource .file⟩]

/-- The uneven project has the files of its book. -/
theorem uneven_files :
    Book.files uneven filesFirst.todoRoot = .ok (unevenBook.map Book.Entry.path) := by
  have walked : uneven.walk filesFirst.todoRoot = .ok (.there ["p", ".todo"] .directory) := by
    decide +kernel
  rw [Book.files, Disk.filesBelow, Disk.pathsBelow_of_sorted walked (by decide)]
  decide +kernel

/-- Both sides of it are loaded. -/
theorem uneven_loaded :
    (StoreLog.load uneven filesFirst.beadsRoot).value = .ok unevenStore ∧
      (Book.load uneven filesFirst.todoRoot).value = .ok unevenBook := by
  refine ⟨by decide +kernel, ?_⟩
  rw [Book.load, uneven_files]
  decide +kernel

/-- The plan: each copy that is missing is added, and the title in the file is sent. -/
def unevenPlan : Plan where
  fileWrites := [(titled "a-1" "A").withSource .beads]
  fileRemovals := []
  beadsCreates := [(titled "b-2" "B").withSource .file]
  beadsUpdates := [(titled "c-3" "D").withSource .file]
  beadsDeletes := []

/-- The plan for it. -/
theorem uneven_plan :
    filesFirst.plan unevenStore (unevenBook.map Book.Entry.issue) = unevenPlan :=
  rfl

/-- How the missing file is written. -/
def unevenOptions : WriteOptions where
  pattern := "[id].md"
  existingNames := ["b-2.md", "c-3.md"]

/-- How its files are written, in a dry run and in a real one. -/
theorem uneven_writeOptions (isDry : Bool) :
    FilePhase.writeOptions uneven (filesFirst.withDry isDry) (FilePhase.filesById unevenBook)
      unevenPlan.fileWrites = .ok unevenOptions := by
  have root : (filesFirst.withDry isDry).todoRoot = filesFirst.todoRoot := rfl
  rw [FilePhase.writeOptions, root, Book.existingNames, uneven_files]
  cases isDry <;> rfl

/-- The one file that is planned for it. -/
theorem uneven_named (isDry : Bool) :
    Book.plan uneven ⟨2024, 1, 1⟩ (filesFirst.withDry isDry).todoRoot unevenOptions
        unevenPlan.fileWrites =
      .ok [⟨(titled "a-1" "A").withSource .beads, ⟨.root, ["p", ".todo", "a-1.md"]⟩,
        "a-1.md"⟩] := by
  have root : (filesFirst.withDry isDry).todoRoot = filesFirst.todoRoot := rfl
  rw [root]
  decide +kernel

/-- All its effects succeed. -/
theorem uneven_succeeds : AllSucceed Backend.willing filesFirst.todoRoot (uneven, ())
    (effects uneven ⟨2024, 1, 1⟩ Backend.willing () (filesFirst.withDry false)) := by
  rw [effects_of_loaded (filesFirst.withDry false) uneven_loaded.1 uneven_loaded.2]
  change AllSucceed _ _ _ (effectsOf uneven ⟨2024, 1, 1⟩ Backend.willing ()
    (filesFirst.withDry false) unevenStore unevenBook
    (filesFirst.plan unevenStore (unevenBook.map Book.Entry.issue)) _)
  rw [uneven_plan, effectsOf, if_neg (by decide)]
  refine allSucceed_append.mpr
    ⟨Effect.allSucceed_of_accepts (Effect.succeeds_willing _) ?_ _ _, ?_⟩
  · intro effect made
    obtain ⟨step, -, asked, -, same⟩ := StorePhase.mem_callsMade _ made
    exact ⟨asked, same⟩
  · have noFault : (StorePhase.run Backend.willing ()
        (StoreStep.ofPlan unevenPlan unevenStore)).fault = none := rfl
    have noRemovals (summary : Summary) :
        FilePhase.effects uneven ⟨2024, 1, 1⟩ (filesFirst.withDry false) unevenBook unevenPlan
            summary =
          FilePhase.writesMade uneven ⟨2024, 1, 1⟩ (filesFirst.withDry false)
            (FilePhase.filesById unevenBook) unevenPlan.fileWrites := by
      unfold FilePhase.effects
      dsimp only
      split <;> exact List.append_nil _
    rw [StorePhase.performAll_callsMade, noFault]
    dsimp only
    rw [noRemovals, FilePhase.writesMade, if_neg (by decide), uneven_writeOptions]
    dsimp only
    rw [uneven_named]
    exact .cons ⟨.none, by decide +kernel⟩ (.nil _)

/-- The dry run tells of that file. -/
theorem uneven_told : ∃ told,
    (reconcile uneven ⟨2024, 1, 1⟩ Backend.willing () (filesFirst.withDry true)).summary =
        .ok told ∧
      told.filesWritten = ["a-1.md"] := by
  rw [summary_of_loaded (filesFirst.withDry true) uneven_loaded.1 uneven_loaded.2]
  change ∃ told, (carryOut uneven ⟨2024, 1, 1⟩ Backend.willing () (filesFirst.withDry true)
    unevenStore unevenBook (filesFirst.plan unevenStore (unevenBook.map Book.Entry.issue))
    _).summary = .ok told ∧ _
  have wrote (summary : Summary) : FilePhase.write uneven ⟨2024, 1, 1⟩ (filesFirst.withDry true)
      (FilePhase.filesById unevenBook) unevenPlan.fileWrites summary =
        ⟨[], uneven, .ok (summary.withWritten ["a-1.md"] ["a-1"]
          (FilePhase.filesById unevenBook).has)⟩ := by
    rw [FilePhase.write, if_neg (by decide), uneven_writeOptions]
    dsimp only
    rw [if_pos (by decide), FilePhase.planWrites, uneven_named]
    rfl
  rw [uneven_plan, carryOut, if_pos (by decide)]
  dsimp only [finish]
  rw [FilePhase.run]
  dsimp only
  rw [wrote]
  exact ⟨_, rfl, rfl⟩

/-- The dry run of the uneven project beside the real one. -/
theorem uneven_foretold : ∃ told done,
    (reconcile uneven ⟨2024, 1, 1⟩ Backend.willing () (filesFirst.withDry true)).summary =
        .ok told ∧
      (reconcile uneven ⟨2024, 1, 1⟩ Backend.willing () (filesFirst.withDry false)).summary =
        .ok done ∧
      told.created = done.created ∧ told.updated = done.updated ∧ told.deleted = done.deleted ∧
      told.filesWritten = done.filesWritten ∧ told.conflicts = done.conflicts := by
  obtain ⟨-, returns, agree⟩ := dryRun_foretells uneven ⟨2024, 1, 1⟩ Backend.willing () filesFirst
    unevenStore unevenBook uneven_loaded.1 uneven_loaded.2 (by decide) uneven_succeeds
  obtain ⟨told, dry, names⟩ := uneven_told
  have clean : Place.IsTidy [("p" : Text), (".todo" : Text)] := by
    unfold Place.IsTidy
    decide
  have canonical : ∃ place, filesFirst.todoRoot = Disk.pathOf place ∧ place.IsTidy ∧
      uneven.IsLinkFree filesFirst.todoRoot :=
    ⟨_, rfl, clean, .of_linkCount rfl _⟩
  obtain ⟨done, real⟩ := returns canonical told dry
  obtain ⟨other, planned, resolved, same, created, deleted, conflicts, updated, -, -, -, plain⟩ :=
    agree done real
  obtain rfl := Except.ok.inj (dry.symm.trans same)
  refine ⟨told, done, dry, real, created, updated.mpr ?_, deleted, plain canonical ?_, conflicts⟩
  · rw [uneven_plan]
    decide
  · rw [names]
    intro name listed
    obtain rfl := List.mem_singleton.mp listed
    have inner : Place.IsTidy [("a-1.md" : Text)] := by
      unfold Place.IsTidy
      decide
    exact ⟨by decide, inner, rfl⟩

/-- A store and a book with one issue, which waits for another in its file alone. -/
def waitingOnly : Disk where
  nodes :=
    [(["p"], .directory), (["p", ".beads"], .directory),
      (["p", ".beads", "issues.jsonl"], .file (.text
        "\x7b\"id\": \"a-1\", \"title\": \"T\"\x7d\n")),
      (["p", ".todo"], .directory),
      (["p", ".todo", "a-1.md"], .file (.text
        "---\nid: a-1\ntitle: T\ndependsOn: [b-2]\n---\n"))]

/-- The issue in the book. -/
def waitingOnlyEntry : Book.Entry :=
  ⟨⟨.root, ["p", ".todo", "a-1.md"]⟩,
    { titled "a-1" "T" with dependsOn := some ["b-2"], source := some .file }⟩

/-- Both sides of a project whose copies differ in what the issue waits for. -/
theorem waitingOnly_loaded :
    (StoreLog.load waitingOnly filesFirst.beadsRoot).value =
        .ok [(titled "a-1" "T").withSource .beads] ∧
      (Book.load waitingOnly filesFirst.todoRoot).value = .ok [waitingOnlyEntry] := by
  have walked : waitingOnly.walk filesFirst.todoRoot = .ok (.there ["p", ".todo"] .directory) := by
    decide +kernel
  refine ⟨by decide +kernel, ?_⟩
  rw [Book.load, Book.files, Disk.filesBelow, Disk.pathsBelow_of_sorted walked (by decide)]
  decide +kernel

/-- Its dry run tells of an update that the real one does not make. -/
theorem waitingOnly_not_foretold :
    AllSucceed Backend.willing filesFirst.todoRoot (waitingOnly, ())
        (effects waitingOnly ⟨2024, 1, 1⟩ Backend.willing () (filesFirst.withDry false)) ∧
      ∃ told done,
        (reconcile waitingOnly ⟨2024, 1, 1⟩ Backend.willing () (filesFirst.withDry true)).summary =
            .ok told ∧
          (reconcile waitingOnly ⟨2024, 1, 1⟩ Backend.willing ()
            (filesFirst.withDry false)).summary = .ok done ∧
          told.updated = ["a-1"] ∧ done.updated = [] := by
  rw [effects_of_loaded (filesFirst.withDry false) waitingOnly_loaded.1 waitingOnly_loaded.2,
    summary_of_loaded (filesFirst.withDry true) waitingOnly_loaded.1 waitingOnly_loaded.2,
    summary_of_loaded (filesFirst.withDry false) waitingOnly_loaded.1 waitingOnly_loaded.2]
  exact ⟨.nil _, _, _, rfl, rfl, rfl, rfl⟩

end ReconcileRun

end Issuebook
