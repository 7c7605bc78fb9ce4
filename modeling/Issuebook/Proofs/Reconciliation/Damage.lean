import Issuebook.Proofs.Loading
import Issuebook.Proofs.Reconciliation.Authority

/-!
# Damaged copies

Deletions of a reconciliation act on what is missing among the copies that were loaded, and a copy
that cannot be read is passed over when copies are loaded. So a file or a line that holds no issue
any more counts as deleted: its identifier is deleted from the other side, where the direction lets
that side change. Nothing else is deleted because of the damage: `reconcile_deletes_of_damage`.
-/

namespace Issuebook

variable {State : Type}

/-- Whether a direction lets a side change. -/
def Direction.changes (direction : Direction) : Side → Bool
  | .file => direction.writesFiles
  | .beads => direction.writesBeads

/-- Whether an effect deletes an issue from a side. -/
def Effect.Deletes (side : Side) (id : Text) : Effect → Prop
  | .call (.delete gone) => side = .beads ∧ gone = id
  | .delete gone _ => side = .file ∧ gone = id
  | _ => False

namespace ReconcileOptions

variable {options : ReconcileOptions} {disk : Disk} {copies : Side → List Issue}

/-- The copies that are loaded from both sides. -/
structure Loads (options : ReconcileOptions) (disk : Disk) (copies : Side → List Issue) :
    Prop where
  /-- Those of the store. -/
  stored : (StoreLog.load disk options.beadsRoot).value = .ok (copies .beads)
  /-- Those of the book. -/
  filed : ∃ entries, (Book.load disk options.todoRoot).value = .ok entries ∧
    entries.map Book.Entry.issue = copies .file

/-- Both sides load in one way only. -/
theorem Loads.unique {others : Side → List Issue} (loaded : options.Loads disk copies)
    (again : options.Loads disk others) : others = copies := by
  obtain ⟨entries, filed, same⟩ := loaded.filed
  obtain ⟨others, filedAgain, sameAgain⟩ := again.filed
  obtain rfl := Except.ok.inj (filed.symm.trans filedAgain)
  funext side
  cases side with
  | file => exact sameAgain.symm.trans same
  | beads => exact (Except.ok.inj (loaded.stored.symm.trans again.stored)).symm

/-- Whether a copy of an issue is loaded from a side. -/
def HasCopy (options : ReconcileOptions) (disk : Disk) (side : Side) (id : Text) : Prop :=
  ∃ copies, options.Loads disk copies ∧ Issue.hasId id (copies side) = true

/-- A side has a copy of an issue exactly when it loads one. -/
theorem Loads.hasCopy_iff (loaded : options.Loads disk copies) {side : Side} {id : Text} :
    options.HasCopy disk side id ↔ Issue.hasId id (copies side) = true := by
  constructor
  · rintro ⟨others, again, present⟩
    rw [loaded.unique again] at present
    exact present
  · exact fun present => ⟨copies, loaded, present⟩

/-- Sides that are loaded have copies. -/
theorem exists_loads {beadsIssues : List Issue} {entries : List Book.Entry}
    (stored : (StoreLog.load disk options.beadsRoot).value = .ok beadsIssues)
    (filed : (Book.load disk options.todoRoot).value = .ok entries) :
    ∃ copies, options.Loads disk copies :=
  ⟨fun
    | .file => entries.map Book.Entry.issue
    | .beads => beadsIssues, stored, entries, filed, rfl⟩

/-- Whether the options let an issue be deleted from a side: the other side has no copy of it. -/
def Drops (options : ReconcileOptions) (copies : Side → List Issue) (side : Side) (id : Text) :
    Prop :=
  options.direction.changes side = true ∧ options.deletes = true ∧
    Issue.hasId id (copies side) = true ∧ Issue.hasId id (copies side.other) = false

/-- What the store drops is what the plan deletes there. -/
theorem drops_beads {id : Text} : options.Drops copies .beads id ↔
    id ∈ (options.plan (copies .beads) (copies .file)).beadsDeletes := by
  rw [mem_beadsDeletes_directed, Drops, Direction.changes, Direction.writesBeads,
    decide_eq_true_eq]
  rfl

/-- What the files drop is what the plan removes there. -/
theorem drops_file {id : Text} : options.Drops copies .file id ↔
    id ∈ (options.plan (copies .beads) (copies .file)).fileRemovals := by
  rw [mem_fileRemovals_directed, Drops, Direction.changes, Direction.writesFiles,
    decide_eq_true_eq]
  rfl

end ReconcileOptions

/-- Every call of a phase without a fault is made, where it comes first in its step. -/
theorem StorePhase.call_mem_callsMade {backend : Backend State} {state : State}
    {steps : List StoreStep} (ended : (run backend state steps).fault = none) {step : StoreStep}
    (present : step ∈ steps) {operation : Operation} {call : Call}
    {rest : List (Operation × Call)} (calls : step.calls = (operation, call) :: rest) :
    .call call ∈ callsMade backend state steps := by
  induction steps generalizing state with
  | nil => cases present
  | cons first steps inductionHypothesis =>
      rw [callsMade]
      rcases List.mem_cons.mp present with rfl | later
      · rw [calls]
        exact List.mem_append_left _ List.mem_cons_self
      · rw [run] at ended
        dsimp only at ended
        cases ending : endingFault? (first.perform backend state).1.value with
        | some fault =>
            rw [ending] at ended
            cases ended
        | none =>
            rw [ending] at ended
            exact List.mem_append_right _ (inductionHypothesis ended later)

/-- Every removal of a phase without a fault is tried, where there is a file. -/
theorem FilePhase.delete_mem_deletionsMade {root : Path} {files : Entries Path} {disk : Disk}
    {summary left : Summary} {ids : List Text}
    (ended : (remove root false files disk summary ids).summary = .ok left) {id : Text}
    (present : id ∈ ids) {path : Path} (found : files.get? id = some path) :
    .delete id path ∈ deletionsMade root files disk ids := by
  induction ids generalizing disk summary with
  | nil => cases present
  | cons first ids inductionHypothesis =>
      rw [deletionsMade]
      rcases List.mem_cons.mp present with rfl | later
      · rw [found]
        exact List.mem_cons_self
      · rw [remove, removeOne] at ended
        revert ended
        cases files.get? first with
        | none => exact fun ended => inductionHypothesis ended later
        | some other =>
            dsimp only
            rcases Book.deleteFile disk root other with ⟨⟨notices, fault | done⟩, next⟩
            · simp only [Bool.false_eq_true, if_false]
              by_cases survives : fault.isSurvivable = true
              · rw [if_pos survives, if_pos survives]
                exact fun ended => List.mem_cons_of_mem _ (inductionHypothesis ended later)
              · rw [if_neg survives]
                intro ended
                cases ended
            · exact fun ended => List.mem_cons_of_mem _ (inductionHypothesis ended later)

/-- An issue of the files has a file. -/
theorem FilePhase.get?_filesById {entries : List Book.Entry} {id : Text}
    (present : Issue.hasId id (entries.map Book.Entry.issue) = true) :
    ∃ path, (filesById entries).get? id = some path := by
  obtain ⟨issue, listed, rfl⟩ := Issue.hasId_iff.mp present
  obtain ⟨entry, place, rfl⟩ := List.mem_map.mp listed
  refine Option.isSome_iff_exists.mp (Entries.has_putAll (.inr ?_))
  rw [Entries.keys, List.map_map]
  exact List.mem_map_of_mem place

/-- Every removal of an issue with a file is tried in a phase without a fault. -/
theorem FilePhase.delete_mem_effects {disk : Disk} {today : Date} {options : ReconcileOptions}
    {entries : List Book.Entry} {plan : Plan} {summary left : Summary}
    (real : options.isDry = false)
    (ended : (run disk today options entries plan summary).summary = .ok left) {id : Text}
    (planned : id ∈ plan.fileRemovals)
    (present : Issue.hasId id (entries.map Book.Entry.issue) = true) :
    ∃ path, .delete id path ∈ effects disk today options entries plan summary := by
  obtain ⟨path, found⟩ := get?_filesById present
  refine ⟨path, List.mem_append_right _ ?_⟩
  unfold run at ended
  dsimp only at ended
  cases written : (write disk today options (filesById entries) plan.fileWrites
      summary).summary with
  | error fault =>
      rw [written] at ended
      cases written.symm.trans ended
  | ok between =>
      rw [written, real] at ended
      exact delete_mem_deletionsMade ended planned found

namespace ReconcileRun

variable {disk : Disk} {today : Date} {backend : Backend State} {state : State}
  {options : ReconcileOptions} {copies : Side → List Issue} {side : Side} {id : Text}

/-- Whether a reconciliation deletes an issue from a side, or tries to. -/
def Deletes (disk : Disk) (today : Date) (backend : Backend State) (state : State)
    (options : ReconcileOptions) (side : Side) (id : Text) : Prop :=
  ∃ effect ∈ effects disk today backend state options, effect.Deletes side id

/-- Where there is an effect, copies were loaded from both sides. -/
theorem exists_loads_of_deletes (deleted : Deletes disk today backend state options side id) :
    ∃ copies, options.Loads disk copies := by
  obtain ⟨effect, made, -⟩ := deleted
  unfold effects at made
  split at made
  · next beadsIssues entries stored filed => exact ReconcileOptions.exists_loads stored filed
  · cases made

/-- A reconciliation that comes to its end has loaded copies from both sides. -/
theorem exists_loads_of_ended {summary : Summary}
    (ended : (reconcile disk today backend state options).summary = .ok summary) :
    ∃ copies, options.Loads disk copies := by
  unfold reconcile at ended
  dsimp only at ended
  split at ended
  · cases ended
  · next beadsIssues stored =>
      split at ended
      · cases ended
      · next entries filed => exact ReconcileOptions.exists_loads stored filed

/-- A dry run deletes nothing. -/
theorem real_of_deletes (deleted : Deletes disk today backend state options side id) :
    options.isDry = false := by
  obtain ⟨effect, made, -⟩ := deleted
  cases dry : options.isDry with
  | false => rfl
  | true =>
      rw [effects_of_isDry dry] at made
      cases made

/-- An issue is deleted only where the options let it, by what was loaded. -/
theorem drops_of_deletes (loaded : options.Loads disk copies)
    (deleted : Deletes disk today backend state options side id) :
    options.Drops copies side id := by
  obtain ⟨effect, made, deletes⟩ := deleted
  obtain ⟨stored, entries, filed, same⟩ := loaded
  rw [effects_of_loaded options stored filed] at made
  have allowed := isAllowed_of_effectsOf made
  rw [same] at allowed
  cases effect with
  | call asked =>
      cases asked with
      | delete gone =>
          obtain ⟨rfl, rfl⟩ := deletes
          exact ReconcileOptions.drops_beads.mpr
            (ReconcileOptions.mem_beadsDeletes_directed.mpr allowed)
      | _ => cases deletes
  | write former planned => cases deletes
  | delete gone path =>
      obtain ⟨rfl, rfl⟩ := deletes
      exact ReconcileOptions.drops_file.mpr
        (ReconcileOptions.mem_fileRemovals_directed.mpr allowed)

/-- A reconciliation that comes to its end deletes every issue that the options let it. -/
theorem deletes_of_drops (loaded : options.Loads disk copies) (real : options.isDry = false)
    {summary : Summary}
    (ended : (reconcile disk today backend state options).summary = .ok summary)
    (drops : options.Drops copies side id) :
    Deletes disk today backend state options side id := by
  obtain ⟨stored, entries, filed, same⟩ := loaded
  rw [summary_of_loaded options stored filed, carryOut, if_neg (by rw [real]; decide)] at ended
  rw [Deletes, effects_of_loaded options stored filed, effectsOf, if_neg (by rw [real]; decide)]
  dsimp only at ended ⊢
  cases fault : (StorePhase.run backend state (StoreStep.ofPlan (planFor options (copies .beads)
      (entries.map Book.Entry.issue)).1 (copies .beads))).fault with
  | some fault =>
      rw [fault] at ended
      cases ended
  | none =>
      rw [fault] at ended
      cases side with
      | beads =>
          have planned := ReconcileOptions.drops_beads.mp drops
          rw [← same] at planned
          exact ⟨_, List.mem_append_left _ (StorePhase.call_mem_callsMade fault
            (List.mem_append_right _ (List.mem_map_of_mem planned)) rfl), rfl, rfl⟩
      | file =>
          have planned := ReconcileOptions.drops_file.mp drops
          have present := drops.2.2.1
          rw [← same] at planned present
          obtain ⟨path, made⟩ := FilePhase.delete_mem_effects real ended planned present
          exact ⟨_, List.mem_append_right _ made, rfl, rfl⟩

end ReconcileRun

/-- What the damage of a disk can be: a copy of one side is not loaded any more, although nobody
deleted it. The identifiers that may be lost are those of the copies that were there. -/
inductive Damage (options : ReconcileOptions) (disk : Disk) :
    Disk → Side → (Text → Prop) → Prop where
  /-- A file holds no document any more. -/
  | document {place : Place} {old new : Content} (present : disk.node? place = some (.file old))
      (apart : disk.leadsTo (Places.issueLog options.beadsRoot) place = false)
      (rejected : ∀ issue, new.readIssue ≠ .ok issue) :
      Damage options disk (disk.put place (.file new)) .file
        fun id => ∃ issue, old.readIssue = .ok issue ∧ issue.id = id
  /-- A line of the log holds no record any more. -/
  | line {place : Place} {old new : Text} {front back : List Text} {line other : Text}
      (present : disk.node? place = some (.file (.text old)))
      (logged : disk.leadsTo (Places.issueLog options.beadsRoot) place = true)
      (apart : ∀ paths, Book.files disk options.todoRoot = .ok paths →
        ∀ path ∈ paths, disk.leadsTo path place = false)
      (oldLines : Text.lines (Text.withLineFeeds old) = front ++ line :: back)
      (newLines : Text.lines (Text.withLineFeeds new) = front ++ other :: back)
      (rejected : ∀ record, StoreLog.readLine other ≠ .ok record) :
      Damage options disk (disk.put place (.file (.text new))) .beads
        fun id => StoreLog.idOf? line = some id
  /-- The log cannot be read any more. -/
  | log {damaged : Disk} {fault : Fault}
      (unreadable : damaged.readText (Places.issueLog options.beadsRoot) = .error fault)
      (apart : (Book.load damaged options.todoRoot).value =
        (Book.load disk options.todoRoot).value) :
      Damage options disk damaged .beads fun _ => True

/-- Damage leaves the other side as it is, and takes no identifier from its own side but those that
may be lost. -/
theorem Damage.loses {options : ReconcileOptions} {disk damaged : Disk} {side : Side}
    {lost : Text → Prop} (damage : Damage options disk damaged side lost)
    {copies left : Side → List Issue} (loaded : options.Loads disk copies)
    (loadedLeft : options.Loads damaged left) :
    left side.other = copies side.other ∧ Issue.Loses lost (copies side) (left side) := by
  obtain ⟨stored, entries, filed, same⟩ := loaded
  obtain ⟨storedLeft, entriesLeft, filedLeft, sameLeft⟩ := loadedLeft
  cases damage with
  | document present apart rejected =>
      rw [StoreLog.load_put_of_apart present apart, stored] at storedLeft
      refine ⟨(Except.ok.inj storedLeft).symm, ?_⟩
      rw [← same, ← sameLeft]
      exact Book.loses_of_rejected present rejected filed filedLeft
  | line present logged apart oldLines newLines rejected =>
      rw [Book.load_put_of_apart present apart, filed] at filedLeft
      obtain rfl := Except.ok.inj filedLeft
      exact ⟨sameLeft.symm.trans same, StoreLog.loses_of_rejected present logged oldLines newLines
        rejected stored storedLeft⟩
  | log unreadable apart =>
      rw [apart, filed] at filedLeft
      obtain rfl := Except.ok.inj filedLeft
      exact ⟨sameLeft.symm.trans same, StoreLog.loses_of_unreadable unreadable storedLeft⟩

/-- What damage adds to the deletions of a reconciliation that comes to its end without it. From the
damaged side nothing more is deleted. From the other side nothing more is deleted but issues whose
copies were lost to the damage, and these are, where the options let what is missing be deleted. -/
theorem reconcile_deletes_of_damage {options : ReconcileOptions} {disk damaged : Disk} {side : Side}
    {lost : Text → Prop} (damage : Damage options disk damaged side lost) (today : Date)
    (backend : Backend State) (state : State) {summary : Summary}
    (ended : (reconcile disk today backend state options).summary = .ok summary) (id : Text) :
    let deletes := ReconcileRun.Deletes disk today backend state options
    let deletesDamaged := ReconcileRun.Deletes damaged today backend state options
    let follows := options.direction.changes side.other = true ∧ options.deletes = true
    let isLost := options.HasCopy disk side id ∧ ¬ options.HasCopy damaged side id
    (deletesDamaged side id → deletes side id) ∧
      (deletesDamaged side.other id → deletes side.other id ∨ lost id ∧ isLost ∧ follows) ∧
      (options.isDry = false → isLost → follows → options.HasCopy disk side.other id →
        (∃ left, (reconcile damaged today backend state options).summary = .ok left) →
        deletesDamaged side.other id ∧ ¬ deletes side.other id) := by
  intro deletes deletesDamaged follows isLost
  obtain ⟨copies, loaded⟩ := ReconcileRun.exists_loads_of_ended ended
  -- The damaged side knows nothing new, the other side what it knew before.
  refine ⟨fun deleted => ?_, fun deleted => ?_, ?_⟩
  · obtain ⟨left, loadedLeft⟩ := ReconcileRun.exists_loads_of_deletes deleted
    obtain ⟨same, loses⟩ := damage.loses loaded loadedLeft
    obtain ⟨changes, leave, present, absent⟩ := ReconcileRun.drops_of_deletes loadedLeft deleted
    rw [same] at absent
    exact ReconcileRun.deletes_of_drops loaded (ReconcileRun.real_of_deletes deleted) ended
      ⟨changes, leave, loses.known present, absent⟩
  · obtain ⟨left, loadedLeft⟩ := ReconcileRun.exists_loads_of_deletes deleted
    obtain ⟨same, loses⟩ := damage.loses loaded loadedLeft
    obtain ⟨changes, leave, present, absent⟩ := ReconcileRun.drops_of_deletes loadedLeft deleted
    rw [same] at present
    rw [Side.other_other] at absent
    cases before : Issue.hasId id (copies side) with
    | false =>
        exact .inl (ReconcileRun.deletes_of_drops loaded (ReconcileRun.real_of_deletes deleted)
          ended ⟨changes, leave, present, by rw [Side.other_other]; exact before⟩)
    | true =>
        refine .inr ⟨loses.missing before absent, ⟨(loaded.hasCopy_iff).mpr before, ?_⟩, changes,
          leave⟩
        rw [loadedLeft.hasCopy_iff, absent]
        decide
  · rintro real ⟨before, gone⟩ ⟨changes, leave⟩ present ⟨summaryLeft, endedLeft⟩
    obtain ⟨left, loadedLeft⟩ := ReconcileRun.exists_loads_of_ended endedLeft
    obtain ⟨same, -⟩ := damage.loses loaded loadedLeft
    rw [loaded.hasCopy_iff] at before present
    rw [loadedLeft.hasCopy_iff, Bool.not_eq_true] at gone
    refine ⟨ReconcileRun.deletes_of_drops loadedLeft real endedLeft
      ⟨changes, leave, by rw [same]; exact present, by rw [Side.other_other]; exact gone⟩, ?_⟩
    intro deleted
    have absent := (ReconcileRun.drops_of_deletes loaded deleted).2.2.2
    rw [Side.other_other, before] at absent
    cases absent

namespace ReconcileRun

open Book (titled)

/-- A line of a log. -/
def pairedLine : Text := "\x7b\"id\": \"a-1\", \"title\": \"T\"\x7d"

/-- A store and a book with the same issue. -/
def paired : Disk where
  nodes :=
    [(["p"], .directory), (["p", ".beads"], .directory),
      (["p", ".beads", "issues.jsonl"], .file (.text (pairedLine ++ ['\n']))),
      (["p", ".todo"], .directory),
      (["p", ".todo", "a-1.md"], .file (.text "---\nid: a-1\ntitle: T\n---\n"))]

/-- The issue in the book. -/
def pairedEntry : Book.Entry :=
  ⟨⟨.root, ["p", ".todo", "a-1.md"]⟩, (titled "a-1" "T").withSource .file⟩

/-- The one file of the paired project. -/
theorem paired_files : Book.files paired deleting.todoRoot = .ok [pairedEntry.path] := by
  have walked : paired.walk deleting.todoRoot = .ok (.there ["p", ".todo"] .directory) := by
    decide +kernel
  rw [Book.files, Disk.filesBelow, Disk.pathsBelow_of_sorted walked (by decide)]
  decide +kernel

/-- Both sides of it have the issue. -/
theorem paired_loaded :
    (StoreLog.load paired deleting.beadsRoot).value =
        .ok [(titled "a-1" "T").withSource .beads] ∧
      (Book.load paired deleting.todoRoot).value = .ok [pairedEntry] := by
  refine ⟨by decide +kernel, ?_⟩
  rw [Book.load, paired_files]
  decide +kernel

/-- A run on it comes to its end. -/
theorem paired_ended : ∃ summary,
    (reconcile paired ⟨2024, 1, 1⟩ Backend.willing () deleting).summary = .ok summary := by
  rw [summary_of_loaded deleting paired_loaded.1 paired_loaded.2]
  exact ⟨_, rfl⟩

/-- The place of the log. -/
def pairedLog : Place := ["p", ".beads", "issues.jsonl"]

/-- Its log holds one line. -/
theorem paired_log : paired.node? pairedLog = some (.file (.text (pairedLine ++ ['\n']))) :=
  rfl

/-- The log is none of its files. -/
theorem pairedLog_apart (paths : List Path)
    (listed : Book.files paired deleting.todoRoot = .ok paths) :
    ∀ path ∈ paths, paired.leadsTo path pairedLog = false := by
  obtain rfl := Except.ok.inj (paired_files.symm.trans listed)
  intro path place
  obtain rfl := List.mem_singleton.mp place
  rfl

/-- The same with the line of the log cut short. -/
def cutLine : Disk :=
  paired.put pairedLog (.file (.text (pairedLine.take 10 ++ ['\n'])))

/-- A line that is cut short damages the store's copy of the issue. -/
theorem cutLine_damage : Damage deleting paired cutLine .beads fun id =>
    StoreLog.idOf? pairedLine = some id := by
  have logged : paired.leadsTo (Places.issueLog deleting.beadsRoot) pairedLog = true := rfl
  have whole : Text.lines (Text.withLineFeeds (pairedLine ++ ['\n'])) = [] ++ pairedLine :: [] := by
    decide +kernel
  have cut : Text.lines (Text.withLineFeeds (pairedLine.take 10 ++ ['\n'])) =
      [] ++ pairedLine.take 10 :: [] := by
    decide +kernel
  have noJson : Json.read? (pairedLine.take 10) = none := by
    decide +kernel
  refine .line paired_log logged pairedLog_apart whole cut fun record read => ?_
  have held := (StoreLog.readLine_eq_ok.mp read).2
  rw [StoreLog.recordIn?, noJson] at held
  cases held

/-- Then the store loads nothing. -/
theorem cutLine_loaded :
    (StoreLog.load cutLine deleting.beadsRoot).value = .ok [] ∧
      (Book.load cutLine deleting.todoRoot).value = .ok [pairedEntry] := by
  refine ⟨by decide +kernel, ?_⟩
  rw [cutLine, Book.load_put_of_apart paired_log pairedLog_apart]
  exact paired_loaded.2

/-- A run still comes to its end. -/
theorem cutLine_ended : ∃ summary,
    (reconcile cutLine ⟨2024, 1, 1⟩ Backend.willing () deleting).summary = .ok summary := by
  rw [summary_of_loaded deleting cutLine_loaded.1 cutLine_loaded.2]
  have plan : deleting.plan [] [pairedEntry.issue] = ⟨[], ["a-1"], [], [], []⟩ := rfl
  change ∃ summary, (carryOut cutLine ⟨2024, 1, 1⟩ Backend.willing () deleting []
    [pairedEntry] (deleting.plan [] [pairedEntry.issue]) _).summary = .ok summary
  rw [plan, carryOut, if_neg (by decide)]
  change ∃ summary, (FilePhase.remove deleting.todoRoot false
    (FilePhase.filesById [pairedEntry]) cutLine _ ["a-1"]).summary = .ok summary
  have gone : (Book.deleteFile cutLine deleting.todoRoot pairedEntry.path).1.value = .ok () := by
    decide +kernel
  have found : (FilePhase.filesById [pairedEntry]).get? "a-1" = some pairedEntry.path :=
    rfl
  rw [FilePhase.remove, FilePhase.removeOne, found]
  rcases done : Book.deleteFile cutLine deleting.todoRoot pairedEntry.path with
    ⟨⟨notices, outcome⟩, left⟩
  rw [done] at gone
  obtain rfl : outcome = .ok () := gone
  exact ⟨_, rfl⟩

/-- It deletes the file, which the undamaged project would keep. -/
theorem cutLine_deletes :
    (∃ summary, (reconcile paired ⟨2024, 1, 1⟩ Backend.willing () deleting).summary =
        .ok summary) ∧
      Deletes cutLine ⟨2024, 1, 1⟩ Backend.willing () deleting .file "a-1" ∧
      ¬ Deletes paired ⟨2024, 1, 1⟩ Backend.willing () deleting .file "a-1" := by
  obtain ⟨summary, ended⟩ := paired_ended
  obtain ⟨-, -, adds⟩ := reconcile_deletes_of_damage cutLine_damage ⟨2024, 1, 1⟩ Backend.willing ()
    ended "a-1"
  have before : deleting.Loads paired fun
      | .file => [pairedEntry.issue]
      | .beads => [(titled "a-1" "T").withSource .beads] :=
    ⟨paired_loaded.1, _, paired_loaded.2, rfl⟩
  have after : deleting.Loads cutLine fun
      | .file => [pairedEntry.issue]
      | .beads => [] :=
    ⟨cutLine_loaded.1, _, cutLine_loaded.2, rfl⟩
  refine ⟨⟨summary, ended⟩, adds rfl ⟨before.hasCopy_iff.mpr rfl, ?_⟩ ⟨rfl, rfl⟩
    (before.hasCopy_iff.mpr rfl) cutLine_ended⟩
  rw [after.hasCopy_iff]
  exact Bool.false_ne_true

/-- The same with a file that has no metadata. -/
def bareFile : Disk :=
  paired.put ["p", ".todo", "a-1.md"] (.file (.text "no metadata\n"))

/-- Such a file is no issue. -/
theorem bareFile_loaded :
    (StoreLog.load bareFile deleting.beadsRoot).value =
        .ok [(titled "a-1" "T").withSource .beads] ∧
      (Book.load bareFile deleting.todoRoot).value = .ok [] := by
  have document : paired.node? ["p", ".todo", "a-1.md"] =
      some (.file (.text "---\nid: a-1\ntitle: T\n---\n")) := rfl
  have apart : paired.leadsTo (Places.issueLog deleting.beadsRoot) ["p", ".todo", "a-1.md"] =
      false := rfl
  constructor
  · rw [bareFile, StoreLog.load_put_of_apart document apart]
    exact paired_loaded.1
  · rw [Book.load, bareFile, Book.files_put document, paired_files]
    decide +kernel

/-- The store loses the issue of a file that holds no document any more. -/
theorem bareFile_deletes :
    (Content.text "no metadata\n").readIssue = .error .missingId ∧
      (∃ summary, (reconcile paired ⟨2024, 1, 1⟩ Backend.willing () deleting).summary =
        .ok summary) ∧
      ¬ Deletes paired ⟨2024, 1, 1⟩ Backend.willing () deleting .beads "a-1" ∧
      Deletes bareFile ⟨2024, 1, 1⟩ Backend.willing () deleting .beads "a-1" := by
  refine ⟨by decide +kernel, paired_ended, ?_, ?_⟩
  · rintro ⟨effect, made, -⟩
    rw [effects_of_loaded deleting paired_loaded.1 paired_loaded.2] at made
    change effect ∈ [] at made
    cases made
  · refine ⟨.call (.delete "a-1"), ?_, rfl, rfl⟩
    rw [effects_of_loaded deleting bareFile_loaded.1 bareFile_loaded.2]
    exact List.mem_cons_self

end ReconcileRun

end Issuebook
