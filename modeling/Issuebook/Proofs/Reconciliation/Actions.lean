import Issuebook.Proofs.Reconciliation.Directions
import Mathlib.Data.List.Perm.Basic

/-!
# Actions

A plan holds one action for each copy that calls for one: for a copy in a file by its verdict, and
for a copy of the store that has no file. So it acts on every identifier once at most exactly where
no two such copies share one: `actsOnce_iff_hasSingleCalls`.
-/

namespace Issuebook

namespace Plan

/-- The actions of a plan in the order of a run, each with its identifier. -/
def actions (plan : Plan) : List (Operation × Text) :=
  plan.beadsCreates.map (fun issue => (.create, issue.id)) ++
    (plan.beadsUpdates.map (fun issue => (.update, issue.id)) ++
      (plan.beadsDeletes.map (fun id => (.delete, id)) ++
        (plan.fileWrites.map (fun issue => (.write, issue.id)) ++
          plan.fileRemovals.map fun id => (.remove, id))))

/-- Whether no identifier has two actions. -/
def ActsOnce (plan : Plan) : Prop :=
  (plan.actions.map Prod.snd).Nodup

/-- An issue of the files is created in the store if only the files have it, and the direction or
the missing leave to delete keeps it. -/
theorem beadsAction_eq_create {direction : Direction} {deletes isNew : Bool} :
    beadsAction direction deletes isNew = .create ↔ isNew = true ∧
      direction ≠ .beadsToFiles ∧ (deletes = false ∨ direction = .filesToBeads) := by
  cases direction <;> cases deletes <;> cases isNew <;> decide

/-- An issue that has a file is written to it if the direction writes files. -/
theorem fileAction_eq_write_of_known {direction : Direction} {deletes : Bool} :
    fileAction direction deletes false = .write ↔ direction.writesFiles = true := by
  cases direction <;> cases deletes <;> decide

end Plan

/-- The identifiers of an operation among actions. -/
def Operation.idsAmong (operation : Operation) (actions : List (Operation × Text)) : List Text :=
  actions.filterMap fun (other, id) => if other = operation then some id else none

namespace Operation

variable {operation other : Operation} {actions others : List (Operation × Text)}

/-- The identifiers of one operation among several actions, part by part. -/
theorem idsAmong_append : operation.idsAmong (actions ++ others) =
    operation.idsAmong actions ++ operation.idsAmong others :=
  List.filterMap_append

/-- Actions of one operation have all identifiers for it, and none for another. -/
theorem idsAmong_map {Item : Type} (id : Item → Text) (items : List Item) :
    operation.idsAmong (items.map fun item => (other, id item)) =
      if other = operation then items.map id else [] := by
  unfold idsAmong
  rw [List.filterMap_map]
  by_cases same : other = operation
  · rw [if_pos same]
    simp [same]
  · rw [if_neg same]
    simp [same]

/-- The same for actions given by their identifiers. -/
theorem idsAmong_ids (ids : List Text) :
    operation.idsAmong (ids.map fun id => (other, id)) = if other = operation then ids else [] := by
  rw [idsAmong_map fun id => id, List.map_id']

/-- An identifier is listed for an operation as often as that action is. -/
theorem count_idsAmong (id : Text) :
    (operation.idsAmong actions).count id = actions.count (operation, id) := by
  induction actions with
  | nil => rfl
  | cons action actions inductionHypothesis =>
      obtain ⟨first, own⟩ := action
      rw [List.count_cons, ← inductionHypothesis]
      unfold idsAmong
      rw [List.filterMap_cons]
      by_cases same : first = operation
      · simp [same, List.count_cons]
      · simp [same]

/-- Actions are the same up to their order when those of every operation are. -/
theorem perm_of_idsAmong
    (same : ∀ operation : Operation,
      (operation.idsAmong actions).Perm (operation.idsAmong others)) :
    actions.Perm others := by
  rw [List.perm_iff_count]
  rintro ⟨operation, id⟩
  rw [← count_idsAmong, ← count_idsAmong]
  exact (same operation).count_eq id

end Operation

/-- The identifiers of an operation among all actions of a plan are those of its own list. -/
theorem Plan.idsAmong_actions (plan : Plan) (operation : Operation) :
    operation.idsAmong plan.actions =
      match operation with
      | .create => plan.beadsCreates.map Issue.id
      | .update => plan.beadsUpdates.map Issue.id
      | .close => []
      | .delete => plan.beadsDeletes
      | .write => plan.fileWrites.map Issue.id
      | .remove => plan.fileRemovals := by
  unfold actions
  simp only [Operation.idsAmong_append, Operation.idsAmong_map, Operation.idsAmong_ids]
  cases operation <;> simp

namespace ReconcileOptions

open Changes

variable {options : ReconcileOptions} {beads file : Issue} {beadsIssues fileIssues : List Issue}
  {operation : Operation}

/-- What is done about two copies when one side's stays, where the direction allows it. -/
def keptOperation? (options : ReconcileOptions) : Side → Option Operation
  | .beads => if options.direction.writesFiles then some .write else none
  | .file => if options.direction.writesBeads then some .update else none

/-- What is done about a copy in a file that the store has not. -/
def newOperation? (options : ReconcileOptions) : Option Operation :=
  if options.deletes = true ∧ options.direction ≠ .filesToBeads then some .remove
  else if options.direction.writesBeads then some .create
  else none

/-- What is done about a copy in a file. -/
def fileOperation? (options : ReconcileOptions) (beadsIssues : List Issue) (file : Issue) :
    Option Operation :=
  match options.verdict beadsIssues file with
  | .fileOnly => options.newOperation?
  | .agreed => none
  | .fileNewer => options.keptOperation? .file
  | .beadsNewer _ => options.keptOperation? .beads
  | .conflicting beads => options.keptOperation? (resolve options.strategy beads file)

/-- What is done about a copy of the store without a file. -/
def unfiledOperation (options : ReconcileOptions) : Operation :=
  if options.direction = .beadsToFiles ∨ options.deletes = false then .write else .delete

/-- The copies of the store without a file. -/
def unfiled (beadsIssues fileIssues : List Issue) : List Issue :=
  beadsIssues.filter fun beads => !Issue.hasId beads.id fileIssues

/-- What is done about every copy. -/
def copyActions (options : ReconcileOptions) (beadsIssues fileIssues : List Issue) :
    List (Operation × Text) :=
  (fileIssues.filterMap fun file =>
      (options.fileOperation? beadsIssues file).map fun operation => (operation, file.id)) ++
    (unfiled beadsIssues fileIssues).map fun beads => (options.unfiledOperation, beads.id)

/-- The copies in files about which an operation is done. -/
def filesFor (options : ReconcileOptions) (beadsIssues : List Issue) (operation : Operation)
    (fileIssues : List Issue) : List Issue :=
  fileIssues.filter fun file => options.fileOperation? beadsIssues file = some operation

/-- The identifiers of an operation among the actions on copies: those of files that it falls to,
and those of issues without a file if it falls to them. -/
theorem idsAmong_copyActions : operation.idsAmong (options.copyActions beadsIssues fileIssues) =
    (options.filesFor beadsIssues operation fileIssues).map Issue.id ++
      if options.unfiledOperation = operation then (unfiled beadsIssues fileIssues).map Issue.id
      else [] := by
  rw [copyActions, Operation.idsAmong_append, Operation.idsAmong_map]
  congr 1
  unfold Operation.idsAmong filesFor
  rw [List.filterMap_filterMap]
  induction fileIssues with
  | nil => rfl
  | cons file files inductionHypothesis =>
      rw [List.filterMap_cons, List.filter_cons, inductionHypothesis]
      cases options.fileOperation? beadsIssues file with
      | none => simp
      | some other => by_cases same : other = operation <;> simp [same]

/-! ## The parts of a plan -/

/-- An issue is listed as one of the files alone exactly when the comparison found that. -/
theorem contains_filesOnly (present : file ∈ fileIssues) :
    (options.changes beadsIssues fileIssues).filesOnly.contains file.id =
      decide (options.verdict beadsIssues file = .fileOnly) := by
  rw [Bool.eq_iff_iff, List.contains_iff_mem, mem_filesOnly, decide_eq_true_eq,
    verdict_eq_fileOnly]
  exact and_iff_right (Issue.hasId_of_mem present)

/-- The issues that are sent to the store by one action are those whose comparison says so. -/
theorem toBeads_filter {action : Plan.BeadsAction} {sent : Issue → Prop} [DecidablePred sent]
    (same : ∀ file, ((options.verdict beadsIssues file = .fileOnly ∨
        options.verdict beadsIssues file = .fileNewer) ∧
      Plan.beadsAction options.direction options.deletes
        (options.verdict beadsIssues file = .fileOnly) = action) ↔ sent file) :
    ((options.changes beadsIssues fileIssues).toBeads.filter fun file =>
      Plan.beadsAction options.direction options.deletes
        ((options.changes beadsIssues fileIssues).filesOnly.contains file.id) = action) =
      fileIssues.filter sent := by
  rw [changes_toBeads, List.filter_filter]
  refine List.filter_congr fun file present => ?_
  rw [contains_filesOnly present, ← Bool.decide_and, decide_eq_decide, and_comm]
  exact same file

/-- A new issue of the files is created exactly when the plan creates it. -/
theorem newOperation?_eq_create : options.newOperation? = some .create ↔
    Plan.beadsAction options.direction options.deletes true = .create := by
  unfold newOperation? Plan.beadsAction
  cases options.deletes <;> cases options.direction <;> decide

/-- Its file is removed exactly when the plan removes it. -/
theorem newOperation?_eq_remove : options.newOperation? = some .remove ↔
    Plan.beadsAction options.direction options.deletes true = .removeFile := by
  unfold newOperation? Plan.beadsAction
  cases options.deletes <;> cases options.direction <;> decide

/-- A new issue is not updated. -/
theorem newOperation?_ne_update : options.newOperation? ≠ some .update := by
  unfold newOperation?
  split_ifs <;> simp

/-- Its file is not written. -/
theorem newOperation?_ne_write : options.newOperation? ≠ some .write := by
  unfold newOperation?
  split_ifs <;> simp

/-- A conflict that the file wins updates the store, if the direction writes there. -/
theorem keptOperation?_eq_update {side : Side} : options.keptOperation? side = some .update ↔
    side = .file ∧ options.direction.writesBeads = true := by
  cases side <;> simp [keptOperation?]

/-- A conflict that the store wins writes the file, if the direction writes there. -/
theorem keptOperation?_eq_write {side : Side} : options.keptOperation? side = some .write ↔
    side = .beads ∧ options.direction.writesFiles = true := by
  cases side <;> simp [keptOperation?]

/-- A conflict leads to no other operation. -/
theorem keptOperation?_of_ne {side : Side} (notUpdate : operation ≠ .update)
    (notWrite : operation ≠ .write) : options.keptOperation? side ≠ some operation := by
  cases side <;> simp [keptOperation?, notUpdate.symm, notWrite.symm]

/-- The plan creates the files' issues whose operation is to be created, in their order. -/
theorem plan_creates : (options.plan beadsIssues fileIssues).beadsCreates =
    options.filesFor beadsIssues .create fileIssues := by
  refine toBeads_filter fun file => ?_
  have kept (side : Side) : options.keptOperation? side ≠ some .create :=
    keptOperation?_of_ne (by decide) (by decide)
  unfold fileOperation?
  cases options.verdict beadsIssues file with
  | fileOnly => simp [newOperation?_eq_create]
  | fileNewer => simp [kept, Plan.beadsAction_eq_create]
  | _ => simp [kept]

/-- The plan removes the files of those whose operation is the removal, in their order. -/
theorem plan_removals : (options.plan beadsIssues fileIssues).fileRemovals =
    (options.filesFor beadsIssues .remove fileIssues).map Issue.id := by
  refine congrArg (List.map Issue.id) (toBeads_filter fun file => ?_)
  have kept (side : Side) : options.keptOperation? side ≠ some .remove :=
    keptOperation?_of_ne (by decide) (by decide)
  unfold fileOperation?
  cases options.verdict beadsIssues file with
  | fileOnly => simp [newOperation?_eq_remove]
  | fileNewer => simp [kept, Plan.beadsAction_eq_removeFile]
  | _ => simp [kept]

/-- Among elements that satisfy either of two properties, those of the one stand before those of
the other. -/
theorem filter_append_filter_perm {Item : Type} {one other : Item → Prop} [DecidablePred one]
    [DecidablePred other] {items : List Item} (apart : ∀ item ∈ items, one item → ¬other item) :
    (items.filter (one ·) ++ items.filter (other ·)).Perm
      (items.filter fun item => one item ∨ other item) := by
  induction items with
  | nil => exact .nil
  | cons item items inductionHypothesis =>
      obtain ⟨here, later⟩ := List.forall_mem_cons.mp apart
      have rest := inductionHypothesis later
      by_cases first : one item
      · simpa [first, here first] using rest.cons item
      · by_cases second : other item
        · simpa [first, second] using List.perm_middle.trans (rest.cons item)
        · simpa [first, second] using rest

/-- A property of all elements or of none keeps all of them or none. -/
theorem filter_eq_ite {Item : Type} {kept : Item → Bool} {holds : Prop} [Decidable holds]
    {items : List Item} (same : ∀ item ∈ items, kept item = decide holds) :
    items.filter kept = if holds then items else [] := by
  by_cases all : holds
  · rw [if_pos all, List.filter_eq_self]
    intro item present
    rw [same item present, decide_eq_true all]
  · rw [if_neg all, List.filter_eq_nil_iff]
    intro item present
    simp [same item present, all]

/-- The side that stays when a copy in a file is in conflict. -/
def conflictSide? (options : ReconcileOptions) (beadsIssues : List Issue) (file : Issue) :
    Option Side :=
  match options.verdict beadsIssues file with
  | .conflicting beads => some (resolve options.strategy beads file)
  | _ => none

/-- The issues that conflicts hand over to a side are those of the files that they are about. -/
theorem ids_ofConflicts {side : Side} {issues : List Issue} (files : List Issue)
    (known : ∀ file ∈ files, options.conflictSide? beadsIssues file = some side →
      ∃ issue, Issue.lastWithId? file.id issues = some issue) :
    ((options.changes beadsIssues files).conflicts.filterMap fun conflict =>
        if conflict.resolution = side then Issue.lastWithId? conflict.id issues
        else none).map Issue.id =
      (files.filter fun file => options.conflictSide? beadsIssues file = some side).map
        Issue.id := by
  change (((files.map fun file => (file, options.verdict beadsIssues file)).filterMap
    _).filterMap _).map Issue.id = _
  rw [List.filterMap_map, List.filterMap_filterMap]
  induction files with
  | nil => rfl
  | cons file files inductionHypothesis =>
      obtain ⟨here, later⟩ := List.forall_mem_cons.mp known
      have rest := inductionHypothesis later
      unfold conflictSide? at here rest ⊢
      rw [List.filterMap_cons, List.filter_cons]
      dsimp only [Function.comp] at rest ⊢
      cases found : options.verdict beadsIssues file with
      | conflicting beads =>
          rw [found] at here
          by_cases wins : resolve options.strategy beads file = side
          · obtain ⟨issue, listed⟩ := here (congrArg some wins)
            simpa [conflict?, wins, Conflict.id, listed,
              (Issue.of_lastWithId? listed).2] using rest
          · simpa [conflict?, wins] using rest
      | _ => simpa [conflict?] using rest

/-- This holds for conflicts that the file wins. -/
theorem ids_ofConflicts_file : ((options.changes beadsIssues fileIssues).conflicts.filterMap
      fun conflict => if conflict.resolution = .file then
        Issue.lastWithId? conflict.id fileIssues else none).map Issue.id =
    (fileIssues.filter fun file => options.conflictSide? beadsIssues file = some .file).map
      Issue.id := by
  refine ids_ofConflicts fileIssues fun file present _ => ?_
  cases found : Issue.lastWithId? file.id fileIssues with
  | none => exact absurd rfl (Issue.lastWithId?_eq_none.mp found file present)
  | some issue => exact ⟨issue, rfl⟩

/-- It holds for conflicts that the store wins. -/
theorem ids_ofConflicts_beads : ((options.changes beadsIssues fileIssues).conflicts.filterMap
      fun conflict => if conflict.resolution = .beads then
        Issue.lastWithId? conflict.id beadsIssues else none).map Issue.id =
    (fileIssues.filter fun file => options.conflictSide? beadsIssues file = some .beads).map
      Issue.id := by
  refine ids_ofConflicts fileIssues fun file present settled => ?_
  unfold conflictSide? at settled
  split at settled
  · next beads found => exact ⟨beads, stored_of_verdict (.inr found)⟩
  · cases settled

/-- Whether the copy of the store is newer. -/
def isPulled (options : ReconcileOptions) (beadsIssues : List Issue) (file : Issue) : Bool :=
  match options.verdict beadsIssues file with
  | .beadsNewer _ => true
  | _ => false

/-- The store is updated by a newer file and by a file that wins, where the direction writes
there. -/
theorem fileOperation?_eq_update : options.fileOperation? beadsIssues file = some .update ↔
    (options.verdict beadsIssues file = .fileNewer ∨
      options.conflictSide? beadsIssues file = some .file) ∧
      options.direction.writesBeads = true := by
  unfold fileOperation? conflictSide?
  cases options.verdict beadsIssues file with
  | fileOnly => simp [newOperation?_ne_update]
  | _ => simp [keptOperation?_eq_update]

/-- A file is written where the store's copy is newer or wins, and the direction writes there. -/
theorem fileOperation?_eq_write : options.fileOperation? beadsIssues file = some .write ↔
    (options.isPulled beadsIssues file = true ∨
      options.conflictSide? beadsIssues file = some .beads) ∧
      options.direction.writesFiles = true := by
  unfold fileOperation? conflictSide? isPulled
  cases options.verdict beadsIssues file with
  | fileOnly => simp [newOperation?_ne_write]
  | _ => simp [keptOperation?_eq_write]

/-- A direction that forbids an operation leaves no file for it. -/
theorem filesFor_of_not_allowed {allowed : Bool} {called : Issue → Prop}
    (same : ∀ file, options.fileOperation? beadsIssues file = some operation ↔
      called file ∧ allowed = true) (forbidden : allowed = false) :
    options.filesFor beadsIssues operation fileIssues = [] := by
  refine List.filter_eq_nil_iff.mpr fun file _ => ?_
  simp [same, forbidden]

/-- Files for which an operation has two reasons are those of one reason and those of the other. -/
theorem filesFor_perm {allowed : Bool} {one other : Issue → Prop} [DecidablePred one]
    [DecidablePred other] (same : ∀ file, options.fileOperation? beadsIssues file = some operation ↔
      (one file ∨ other file) ∧ allowed = true) (permitted : allowed = true)
    (apart : ∀ file, one file → ¬other file) :
    (fileIssues.filter (one ·) ++ fileIssues.filter (other ·)).Perm
      (options.filesFor beadsIssues operation fileIssues) := by
  have called : options.filesFor beadsIssues operation fileIssues =
      fileIssues.filter fun file => one file ∨ other file := by
    refine List.filter_congr fun file _ => ?_
    rw [decide_eq_decide, same, and_iff_left permitted]
  rw [called]
  exact filter_append_filter_perm fun file _ => apart file

/-- The plan updates the issues whose operation is the update, in some order. -/
theorem plan_updates_perm : ((options.plan beadsIssues fileIssues).beadsUpdates.map Issue.id).Perm
    ((options.filesFor beadsIssues .update fileIssues).map Issue.id) := by
  have newer : ((options.changes beadsIssues fileIssues).toBeads.filter fun file =>
      Plan.beadsAction options.direction options.deletes
        ((options.changes beadsIssues fileIssues).filesOnly.contains file.id) = .update) =
      fileIssues.filter fun file => options.verdict beadsIssues file = .fileNewer ∧
        options.direction.writesBeads = true := by
    refine toBeads_filter fun file => ?_
    rw [Plan.beadsAction_eq_update]
    cases options.verdict beadsIssues file <;> simp [Direction.writesBeads]
  have shape : (options.plan beadsIssues fileIssues).beadsUpdates =
      ((options.changes beadsIssues fileIssues).toBeads.filter fun file =>
        Plan.beadsAction options.direction options.deletes
          ((options.changes beadsIssues fileIssues).filesOnly.contains file.id) = .update) ++
      if options.direction.writesBeads then
        (options.changes beadsIssues fileIssues).conflicts.filterMap fun conflict =>
          if conflict.resolution = .file then Issue.lastWithId? conflict.id fileIssues else none
      else [] := rfl
  rw [shape, newer, List.map_append]
  cases writes : options.direction.writesBeads with
  | false =>
      rw [filesFor_of_not_allowed (fun _ => fileOperation?_eq_update) writes]
      simp
  | true =>
      rw [if_pos rfl, ids_ofConflicts_file, ← List.map_append]
      simp only [and_true]
      refine (filesFor_perm (fun _ => fileOperation?_eq_update) writes fun file newer => ?_).map _
      unfold conflictSide?
      rw [newer]
      simp

/-- An issue that is pulled has a file. -/
theorem contains_beadsOnly_of_pulled (taken : beads ∈ options.pulled beadsIssues fileIssues) :
    (options.changes beadsIssues fileIssues).beadsOnly.contains beads.id = false := by
  obtain ⟨file, present, found⟩ := mem_pulled.mp taken
  obtain ⟨-, same⟩ := Issue.of_lastWithId? (stored_of_verdict (.inl found))
  rw [Bool.eq_false_iff, ne_eq, List.contains_iff_mem, mem_beadsOnly, same]
  rintro ⟨-, absent⟩
  rw [Issue.hasId_of_mem present] at absent
  cases absent

/-- An issue without a file is listed as one of the store alone. -/
theorem contains_beadsOnly_of_unfiled (alone : beads ∈ unfiled beadsIssues fileIssues) :
    (options.changes beadsIssues fileIssues).beadsOnly.contains beads.id = true := by
  obtain ⟨present, absent⟩ := List.mem_filter.mp alone
  rw [List.contains_iff_mem, mem_beadsOnly]
  exact ⟨Issue.hasId_of_mem present, by simpa using absent⟩

/-- The issues that one action sends to files are the pulled ones and those without a file, as the
action falls to them. -/
theorem toFiles_filter (action : Plan.FileAction) :
    ((options.changes beadsIssues fileIssues).toFiles.filter fun beads =>
      Plan.fileAction options.direction options.deletes
        ((options.changes beadsIssues fileIssues).beadsOnly.contains beads.id) = action) =
      (if Plan.fileAction options.direction options.deletes false = action then
        options.pulled beadsIssues fileIssues else []) ++
      if Plan.fileAction options.direction options.deletes true = action then
        unfiled beadsIssues fileIssues else [] := by
  rw [changes_toFiles, List.filter_append]
  congr 1
  · refine filter_eq_ite fun beads taken => ?_
    rw [contains_beadsOnly_of_pulled taken]
  · refine filter_eq_ite fun beads alone => ?_
    rw [contains_beadsOnly_of_unfiled alone]

/-- The pulled issues have the identifiers of the files that they are pulled for. -/
theorem ids_pulled : (options.pulled beadsIssues fileIssues).map Issue.id =
    (fileIssues.filter fun file => options.isPulled beadsIssues file = true).map Issue.id := by
  unfold pulled isPulled
  induction fileIssues with
  | nil => rfl
  | cons file files inductionHypothesis =>
      rw [List.filterMap_cons, List.filter_cons]
      cases found : options.verdict beadsIssues file with
      | beadsNewer beads =>
          have same := (Issue.of_lastWithId? (stored_of_verdict (.inl found))).2
          simpa [pulled?, same] using inductionHypothesis
      | _ => simpa [pulled?] using inductionHypothesis

/-- An issue without a file is written exactly when the plan writes it. -/
theorem unfiledOperation_eq_write : options.unfiledOperation = .write ↔
    Plan.fileAction options.direction options.deletes true = .write := by
  unfold unfiledOperation Plan.fileAction
  cases options.direction <;> cases options.deletes <;> decide

/-- It is deleted exactly when the plan deletes it. -/
theorem unfiledOperation_eq_delete : options.unfiledOperation = .delete ↔
    Plan.fileAction options.direction options.deletes true = .deleteFromBeads := by
  unfold unfiledOperation Plan.fileAction
  cases options.direction <;> cases options.deletes <;> decide

/-- The plan deletes all issues without a file, or none. -/
theorem plan_deletes : (options.plan beadsIssues fileIssues).beadsDeletes =
    if options.unfiledOperation = .delete then (unfiled beadsIssues fileIssues).map Issue.id
    else [] := by
  have shape : (options.plan beadsIssues fileIssues).beadsDeletes =
      ((options.changes beadsIssues fileIssues).toFiles.filter fun beads =>
        Plan.fileAction options.direction options.deletes
          ((options.changes beadsIssues fileIssues).beadsOnly.contains beads.id) =
            .deleteFromBeads).map Issue.id := rfl
  rw [shape, toFiles_filter, if_neg (by simp [Plan.fileAction_eq_deleteFromBeads]),
    List.nil_append, apply_ite (List.map Issue.id)]
  simp only [unfiledOperation_eq_delete, List.map_nil]

/-- The plan writes the issues whose operation it is, and perhaps all without a file. -/
theorem plan_writes_perm : ((options.plan beadsIssues fileIssues).fileWrites.map Issue.id).Perm
    ((options.filesFor beadsIssues .write fileIssues).map Issue.id ++
      if options.unfiledOperation = .write then (unfiled beadsIssues fileIssues).map Issue.id
      else []) := by
  have shape : (options.plan beadsIssues fileIssues).fileWrites =
      ((options.changes beadsIssues fileIssues).toFiles.filter fun beads =>
        Plan.fileAction options.direction options.deletes
          ((options.changes beadsIssues fileIssues).beadsOnly.contains beads.id) = .write) ++
      if options.direction.writesFiles then
        (options.changes beadsIssues fileIssues).conflicts.filterMap fun conflict =>
          if conflict.resolution = .beads then Issue.lastWithId? conflict.id beadsIssues else none
      else [] := rfl
  rw [shape, toFiles_filter]
  simp only [Plan.fileAction_eq_write_of_known, ← unfiledOperation_eq_write]
  rw [List.map_append, List.map_append, apply_ite (List.map Issue.id) (_ = Operation.write)]
  cases writes : options.direction.writesFiles with
  | false =>
      rw [filesFor_of_not_allowed (fun _ => fileOperation?_eq_write) writes]
      simp
  | true =>
      rw [if_pos rfl, if_pos rfl, ids_ofConflicts_beads, ids_pulled]
      have apart (file : Issue) (newer : options.isPulled beadsIssues file = true) :
          options.conflictSide? beadsIssues file ≠ some .beads := by
        unfold isPulled at newer
        unfold conflictSide?
        cases found : options.verdict beadsIssues file <;> simp_all
      have called : List.Perm (_ ++ _) (options.filesFor beadsIssues .write fileIssues) :=
        filesFor_perm (fun _ => fileOperation?_eq_write) writes apart
      refine .trans ?_ ((called.map Issue.id).append_right _)
      rw [List.map_append, List.append_assoc, List.append_assoc]
      exact List.perm_append_comm.append_left _

/-- Nothing else is done to an issue without a file. -/
theorem unfiledOperation_ne (notWrite : operation ≠ .write) (notDelete : operation ≠ .delete) :
    options.unfiledOperation ≠ operation := by
  unfold unfiledOperation
  split_ifs
  · exact notWrite.symm
  · exact notDelete.symm

/-- Nothing is closed or deleted from the store on account of a copy in a file. -/
theorem filesFor_eq_nil (stays : operation = .close ∨ operation = .delete) :
    options.filesFor beadsIssues operation fileIssues = [] := by
  have notNew : options.newOperation? ≠ some operation := by
    unfold newOperation?
    rcases stays with rfl | rfl <;> split_ifs <;> simp
  have notKept (side : Side) : options.keptOperation? side ≠ some operation := by
    rcases stays with rfl | rfl <;> exact keptOperation?_of_ne (by decide) (by decide)
  refine List.filter_eq_nil_iff.mpr fun file _ => ?_
  rw [decide_eq_true_eq]
  unfold fileOperation?
  cases options.verdict beadsIssues file with
  | fileOnly => exact notNew
  | agreed => simp
  | _ => exact notKept _

/-- A plan holds the actions that its copies call for. -/
theorem actions_perm : (options.plan beadsIssues fileIssues).actions.Perm
    (options.copyActions beadsIssues fileIssues) := by
  refine Operation.perm_of_idsAmong fun operation => ?_
  rw [idsAmong_copyActions, Plan.idsAmong_actions]
  cases operation with
  | create =>
      rw [if_neg (unfiledOperation_ne (by decide) (by decide)), List.append_nil]
      exact .of_eq (congrArg (List.map Issue.id) plan_creates)
  | update =>
      rw [if_neg (unfiledOperation_ne (by decide) (by decide)), List.append_nil]
      exact plan_updates_perm
  | close =>
      rw [if_neg (unfiledOperation_ne (by decide) (by decide)), filesFor_eq_nil (.inl rfl)]
      exact .nil
  | delete =>
      rw [filesFor_eq_nil (.inr rfl)]
      exact .of_eq plan_deletes
  | write => exact plan_writes_perm
  | remove =>
      rw [if_neg (unfiledOperation_ne (by decide) (by decide)), List.append_nil]
      exact .of_eq plan_removals

/-! ## One action for an identifier -/

/-- No two copies that call for an action share their identifier. -/
structure HasSingleCalls (options : ReconcileOptions) (beadsIssues fileIssues : List Issue) :
    Prop where
  /-- Copies of the store without a file. -/
  unfiled : ((unfiled beadsIssues fileIssues).map Issue.id).Nodup
  /-- Copies in files about which something is done. -/
  filed : ((fileIssues.filter fun file =>
    (options.fileOperation? beadsIssues file).isSome).map Issue.id).Nodup

/-- Where no identifier is repeated on either side, no issue is called for twice. -/
theorem hasSingleCalls_of_distinct (beadsDistinct : (beadsIssues.map Issue.id).Nodup)
    (filesDistinct : (fileIssues.map Issue.id).Nodup) :
    options.HasSingleCalls beadsIssues fileIssues where
  unfiled := (List.filter_sublist.map Issue.id).nodup beadsDistinct
  filed := (List.filter_sublist.map Issue.id).nodup filesDistinct

/-- The actions on copies are about the files that something is done for, and about all issues
without a file. -/
theorem ids_copyActions : (options.copyActions beadsIssues fileIssues).map Prod.snd =
    (fileIssues.filter fun file =>
      (options.fileOperation? beadsIssues file).isSome).map Issue.id ++
        (unfiled beadsIssues fileIssues).map Issue.id := by
  rw [copyActions, List.map_append, List.map_map]
  congr 1
  induction fileIssues with
  | nil => rfl
  | cons file files inductionHypothesis =>
      rw [List.filterMap_cons, List.filter_cons]
      cases options.fileOperation? beadsIssues file with
      | none => simpa using inductionHypothesis
      | some operation => simpa using inductionHypothesis

/-- A plan acts once on each issue exactly when no issue is called for twice. -/
theorem actsOnce_iff_hasSingleCalls : (options.plan beadsIssues fileIssues).ActsOnce ↔
    options.HasSingleCalls beadsIssues fileIssues := by
  rw [Plan.ActsOnce, (actions_perm.map Prod.snd).nodup_iff, ids_copyActions, List.nodup_append]
  constructor
  · rintro ⟨filed, alone, -⟩
    exact ⟨alone, filed⟩
  · rintro ⟨alone, filed⟩
    refine ⟨filed, alone, ?_⟩
    rintro id called other absent rfl
    obtain ⟨file, acting, rfl⟩ := List.mem_map.mp called
    obtain ⟨beads, listed, same⟩ := List.mem_map.mp absent
    have noFile := (List.mem_filter.mp listed).2
    rw [same, Issue.hasId_of_mem (List.mem_filter.mp acting).1] at noFile
    cases noFile

end ReconcileOptions

end Issuebook
