import Issuebook.Reconciliation.Run
import Mathlib.Data.List.Nodup
import Mathlib.Tactic.SplitIfs

/-!
# What is planned

The plan of a reconciliation in both directions, member by member: what becomes of an issue
depends on its two copies alone. Identifiers are distinct on either side.
-/

namespace Issuebook

/-- The other side. -/
def Side.other : Side → Side
  | .file => .beads
  | .beads => .file

/-- The other side of the other side is the side itself. -/
theorem Side.other_other (side : Side) : side.other.other = side := by
  cases side <;> rfl

namespace Issue

variable {id : Text} {issue : Issue} {issues : List Issue}

/-- No issue is found exactly when none has the identifier. -/
theorem lastWithId?_eq_none : lastWithId? id issues = none ↔ ∀ issue ∈ issues, issue.id ≠ id := by
  simp [lastWithId?]

/-- Where no identifier is repeated, it tells which issue is meant. -/
theorem eq_of_same_id (distinct : (issues.map Issue.id).Nodup) {one other : Issue}
    (onePresent : one ∈ issues) (otherPresent : other ∈ issues) (same : one.id = other.id) :
    one = other :=
  List.inj_on_of_nodup_map distinct onePresent otherPresent same

/-- An issue that is found is there and has the identifier. -/
theorem of_lastWithId? (found : lastWithId? id issues = some issue) :
    issue ∈ issues ∧ issue.id = id :=
  ⟨List.mem_reverse.mp (List.mem_of_find?_eq_some found), by simpa using List.find?_some found⟩

/-- Where no identifier is repeated, the issue that is found is the one that has it. -/
theorem lastWithId?_eq_some (distinct : (issues.map Issue.id).Nodup) :
    lastWithId? id issues = some issue ↔ issue ∈ issues ∧ issue.id = id := by
  constructor
  · exact of_lastWithId?
  · rintro ⟨present, rfl⟩
    cases found : lastWithId? issue.id issues with
    | none => exact absurd rfl (lastWithId?_eq_none.mp found issue present)
    | some other =>
        obtain ⟨place, same⟩ := of_lastWithId? found
        rw [eq_of_same_id distinct place present same]

/-- An identifier is in use if some issue has it. -/
theorem hasId_iff : hasId id issues = true ↔ ∃ issue ∈ issues, issue.id = id := by
  simp [hasId]

/-- It is free if no issue has it. -/
theorem hasId_eq_false : hasId id issues = false ↔ ∀ issue ∈ issues, issue.id ≠ id := by
  simp [hasId]

/-- No issue is found exactly when the identifier is free. -/
theorem lastWithId?_eq_none_iff_hasId : lastWithId? id issues = none ↔ hasId id issues = false := by
  rw [lastWithId?_eq_none, hasId_eq_false]

/-- The identifier of an issue is in use. -/
theorem hasId_of_mem (present : issue ∈ issues) : hasId issue.id issues = true :=
  hasId_iff.mpr ⟨issue, present, rfl⟩

end Issue

namespace ReconcileOptions

open Changes

variable {options : ReconcileOptions} {beads file : Issue} {beadsIssues fileIssues : List Issue}

/-- The side whose copy stays, when two copies differ. -/
def keptSide? (options : ReconcileOptions) (beads file : Issue) : Option Side :=
  if (Facet.differing beads file).isEmpty then none
  else
    some ((winner (Stamp.ofOptional? options.lastAgreedAt) options.window (changeTime beads)
      (changeTime file)).getD (resolve options.strategy beads file))

/-- What becomes of a copy in a file. -/
def verdict (options : ReconcileOptions) (beadsIssues : List Issue) (file : Issue) : Verdict :=
  judge beadsIssues (Stamp.ofOptional? options.lastAgreedAt) options.window file

/-- The differences between both sides. -/
def changes (options : ReconcileOptions) (beadsIssues fileIssues : List Issue) : Changes :=
  between beadsIssues fileIssues options.strategy options.lastAgreedAt options.window

/-- The plan for both sides. -/
def plan (options : ReconcileOptions) (beadsIssues fileIssues : List Issue) : Plan :=
  (ReconcileRun.planFor options beadsIssues fileIssues).1

/-- An issue of the files that the store lacks is one of the files alone. -/
theorem verdict_of_absent (absent : Issue.lastWithId? file.id beadsIssues = none) :
    options.verdict beadsIssues file = .fileOnly := by
  rw [verdict, judge, absent]

/-- Two copies agree where no facet differs, and else the times of change decide. -/
theorem verdict_of_present (stored : Issue.lastWithId? file.id beadsIssues = some beads) :
    options.verdict beadsIssues file =
      if (Facet.differing beads file).isEmpty then .agreed
      else
        match winner (Stamp.ofOptional? options.lastAgreedAt) options.window (changeTime beads)
          (changeTime file) with
        | some .beads => .beadsNewer beads
        | some .file => .fileNewer
        | none => .conflicting beads := by
  have found : options.verdict beadsIssues file =
      judge beadsIssues (Stamp.ofOptional? options.lastAgreedAt) options.window file := rfl
  unfold judge at found
  rw [stored] at found
  exact found

/-- An issue is one of the files alone exactly when the store lacks its identifier. -/
theorem verdict_eq_fileOnly :
    options.verdict beadsIssues file = .fileOnly ↔ Issue.hasId file.id beadsIssues = false := by
  rw [← Issue.lastWithId?_eq_none_iff_hasId]
  constructor
  · intro only
    cases stored : Issue.lastWithId? file.id beadsIssues with
    | none => rfl
    | some beads =>
        rw [verdict_of_present stored] at only
        split_ifs at only
        split at only <;> cases only
  · exact verdict_of_absent

/-- Copies of files that are newer, or that win a conflict, are those whose side is kept. -/
theorem keptSide?_eq_file (stored : Issue.lastWithId? file.id beadsIssues = some beads) :
    options.keptSide? beads file = some .file ↔
      options.verdict beadsIssues file = .fileNewer ∨
        options.verdict beadsIssues file = .conflicting beads ∧
          resolve options.strategy beads file = .file := by
  rw [verdict_of_present stored, keptSide?]
  split_ifs
  · simp
  · cases winner (Stamp.ofOptional? options.lastAgreedAt) options.window (changeTime beads)
      (changeTime file) with
    | none => simp
    | some side => cases side <;> simp

/-- The store's copy is kept if it is newer, or wins a conflict. -/
theorem keptSide?_eq_beads (stored : Issue.lastWithId? file.id beadsIssues = some beads) :
    options.keptSide? beads file = some .beads ↔
      options.verdict beadsIssues file = .beadsNewer beads ∨
        options.verdict beadsIssues file = .conflicting beads ∧
          resolve options.strategy beads file = .beads := by
  rw [verdict_of_present stored, keptSide?]
  split_ifs
  · simp
  · cases winner (Stamp.ofOptional? options.lastAgreedAt) options.window (changeTime beads)
      (changeTime file) with
    | none => simp
    | some side => cases side <;> simp

/-- A newer copy of the store, or one in conflict, is the one that the store has. -/
theorem stored_of_verdict
    (found : options.verdict beadsIssues file = .beadsNewer beads ∨
      options.verdict beadsIssues file = .conflicting beads) :
    Issue.lastWithId? file.id beadsIssues = some beads := by
  cases stored : Issue.lastWithId? file.id beadsIssues with
  | none =>
      rw [verdict_of_absent stored] at found
      rcases found with found | found <;> cases found
  | some other =>
      rw [verdict_of_present stored] at found
      split_ifs at found
      · rcases found with found | found <;> cases found
      · split at found <;> rcases found with found | found <;> cases found <;> rfl

/-- Sending issues by what was found about each is sending those about which the right thing was
found. -/
theorem filterMap_map_eq_filter {verdictOf : Issue → Verdict}
    {send : Issue × Verdict → Option Issue}
    {sent : Issue → Bool} (issues : List Issue)
    (same : ∀ issue ∈ issues,
      send (issue, verdictOf issue) = if sent issue then some issue else none) :
    (issues.map fun issue => (issue, verdictOf issue)).filterMap send = issues.filter sent := by
  induction issues with
  | nil => rfl
  | cons issue issues inductionHypothesis =>
      obtain ⟨first, later⟩ := List.forall_mem_cons.mp same
      rw [List.map_cons, List.filterMap_cons, first, List.filter_cons]
      cases sent issue <;> simp [inductionHypothesis later]

/-- Sent to the store are issues of the files alone and newer files, in the order of the files. -/
theorem changes_toBeads (options : ReconcileOptions) (beadsIssues fileIssues : List Issue) :
    (options.changes beadsIssues fileIssues).toBeads = fileIssues.filter fun file =>
      options.verdict beadsIssues file = .fileOnly ∨
        options.verdict beadsIssues file = .fileNewer := by
  refine filterMap_map_eq_filter fileIssues fun file _ => ?_
  change pushed? file (options.verdict beadsIssues file) = _
  cases options.verdict beadsIssues file <;> simp [pushed?]

/-- The newer copies of the store. -/
def pulled (options : ReconcileOptions) (beadsIssues fileIssues : List Issue) : List Issue :=
  fileIssues.filterMap fun file => pulled? (options.verdict beadsIssues file)

/-- An issue is pulled for a file whose copy in the store is newer. -/
theorem mem_pulled : beads ∈ options.pulled beadsIssues fileIssues ↔
    ∃ file ∈ fileIssues, options.verdict beadsIssues file = .beadsNewer beads := by
  rw [pulled, List.mem_filterMap]
  refine exists_congr fun file => and_congr_right fun _ => ?_
  cases options.verdict beadsIssues file <;> simp [pulled?]

/-- Sent to files are the pulled issues, and behind them those without a file. -/
theorem changes_toFiles (options : ReconcileOptions) (beadsIssues fileIssues : List Issue) :
    (options.changes beadsIssues fileIssues).toFiles =
      options.pulled beadsIssues fileIssues ++
        beadsIssues.filter fun beads => !Issue.hasId beads.id fileIssues := by
  change (fileIssues.map fun file => (file, options.verdict beadsIssues file)).filterMap _ ++ _ = _
  rw [List.filterMap_map]
  rfl

/-- A conflict is about a file and its copy in the store, when the comparison found one. -/
theorem mem_conflicts {conflict : Conflict} :
    conflict ∈ (options.changes beadsIssues fileIssues).conflicts ↔
      ∃ file ∈ fileIssues, ∃ beads, options.verdict beadsIssues file = .conflicting beads ∧
        conflict = ⟨beads, file, resolve options.strategy beads file⟩ := by
  change conflict ∈ (fileIssues.map fun file =>
    (file, options.verdict beadsIssues file)).filterMap _ ↔ _
  rw [List.filterMap_map, List.mem_filterMap]
  refine exists_congr fun file => and_congr_right fun _ => ?_
  dsimp only [Function.comp]
  cases options.verdict beadsIssues file <;> simp [conflict?, eq_comm]

/-- Listed for the files alone is an identifier in use there, and free in the store. -/
theorem mem_filesOnly {id : Text} :
    id ∈ (options.changes beadsIssues fileIssues).filesOnly ↔
      Issue.hasId id fileIssues = true ∧ Issue.hasId id beadsIssues = false := by
  have shape : (options.changes beadsIssues fileIssues).filesOnly =
      ((fileIssues.map fun file => (file, options.verdict beadsIssues file)).filter
        fun judged => judged.2 == .fileOnly).map fun judged => judged.1.id := rfl
  rw [shape, Issue.hasId_iff]
  simp only [List.mem_map, List.mem_filter, Prod.exists, beq_iff_eq, Prod.mk.injEq]
  constructor
  · rintro ⟨file, _, ⟨⟨_, present, rfl, rfl⟩, only⟩, rfl⟩
    exact ⟨⟨_, present, rfl⟩, verdict_eq_fileOnly.mp only⟩
  · rintro ⟨⟨file, present, rfl⟩, absent⟩
    exact ⟨file, _, ⟨⟨file, present, rfl, rfl⟩, verdict_eq_fileOnly.mpr absent⟩, rfl⟩

/-- Listed for the store alone is an identifier in use there, and free in the files. -/
theorem mem_beadsOnly {id : Text} :
    id ∈ (options.changes beadsIssues fileIssues).beadsOnly ↔
      Issue.hasId id beadsIssues = true ∧ Issue.hasId id fileIssues = false := by
  have shape : (options.changes beadsIssues fileIssues).beadsOnly =
      (beadsIssues.filter fun beads => !Issue.hasId beads.id fileIssues).map Issue.id := rfl
  rw [shape, Issue.hasId_iff]
  simp only [List.mem_map, List.mem_filter, Bool.not_eq_true']
  constructor
  · rintro ⟨beads, ⟨present, absent⟩, rfl⟩
    exact ⟨⟨beads, present, rfl⟩, absent⟩
  · rintro ⟨⟨beads, present, rfl⟩, absent⟩
    exact ⟨beads, ⟨present, absent⟩, rfl⟩

/-! ## Plans in both directions -/

variable (both : options.direction = .bothWays)
include both

/-- In both directions a new issue of the files is created, or its file removed, and any other
updated. -/
theorem beadsAction_bothWays (deletes isNew : Bool) :
    Plan.beadsAction options.direction deletes isNew =
      if isNew then if deletes then .removeFile else .create else .update := by
  rw [both]
  cases deletes <;> cases isNew <;> rfl

/-- In both directions a new issue of the store is written, or deleted there, and any other
written. -/
theorem fileAction_bothWays (deletes isNew : Bool) :
    Plan.fileAction options.direction deletes isNew =
      if isNew then if deletes then .deleteFromBeads else .write else .write := by
  rw [both]
  cases deletes <;> cases isNew <;> rfl

/-- What is done in the store for an issue of the files. -/
theorem beadsAction_of_mem (present : file ∈ fileIssues) :
    Plan.beadsAction options.direction options.deletes
        ((options.changes beadsIssues fileIssues).filesOnly.contains file.id) =
      if Issue.hasId file.id beadsIssues then .update
      else if options.deletes then .removeFile else .create := by
  have isNew : (options.changes beadsIssues fileIssues).filesOnly.contains file.id =
      !Issue.hasId file.id beadsIssues := by
    rw [Bool.eq_iff_iff, List.contains_iff_mem, mem_filesOnly]
    simp [Issue.hasId_of_mem present]
  rw [beadsAction_bothWays both, isNew]
  cases Issue.hasId file.id beadsIssues <;> rfl

/-- What is done in the files for an issue of the store. -/
theorem fileAction_of_mem (present : beads ∈ beadsIssues) :
    Plan.fileAction options.direction options.deletes
        ((options.changes beadsIssues fileIssues).beadsOnly.contains beads.id) =
      if Issue.hasId beads.id fileIssues then .write
      else if options.deletes then .deleteFromBeads else .write := by
  have isNew : (options.changes beadsIssues fileIssues).beadsOnly.contains beads.id =
      !Issue.hasId beads.id fileIssues := by
    rw [Bool.eq_iff_iff, List.contains_iff_mem, mem_beadsOnly]
    simp [Issue.hasId_of_mem present]
  rw [fileAction_bothWays both, isNew]
  cases Issue.hasId beads.id fileIssues <;> rfl

/-- Created are the issues of the files alone, unless deletions are handled. -/
theorem plan_beadsCreates : (options.plan beadsIssues fileIssues).beadsCreates =
    fileIssues.filter fun file => !Issue.hasId file.id beadsIssues && !options.deletes := by
  change (options.changes beadsIssues fileIssues).toBeads.filter _ = _
  rw [changes_toBeads, List.filter_filter]
  refine List.filter_congr fun file present => ?_
  change (decide (Plan.beadsAction options.direction options.deletes
    ((options.changes beadsIssues fileIssues).filesOnly.contains file.id) = .create) && _) = _
  rw [beadsAction_of_mem both present]
  have only : options.verdict beadsIssues file = .fileOnly ↔ _ := verdict_eq_fileOnly
  cases known : Issue.hasId file.id beadsIssues <;> cases deletes : options.deletes <;>
    simp [only, known]

/-- If they are, their files are removed. -/
theorem plan_fileRemovals : (options.plan beadsIssues fileIssues).fileRemovals =
    (fileIssues.filter fun file =>
      !Issue.hasId file.id beadsIssues && options.deletes).map Issue.id := by
  change ((options.changes beadsIssues fileIssues).toBeads.filter _).map Issue.id = _
  rw [changes_toBeads, List.filter_filter]
  refine congrArg (List.map Issue.id) (List.filter_congr fun file present => ?_)
  change (decide (Plan.beadsAction options.direction options.deletes
    ((options.changes beadsIssues fileIssues).filesOnly.contains file.id) = .removeFile) && _) = _
  rw [beadsAction_of_mem both present]
  have only : options.verdict beadsIssues file = .fileOnly ↔ _ := verdict_eq_fileOnly
  cases known : Issue.hasId file.id beadsIssues <;> cases deletes : options.deletes <;>
    simp [only, known]

/-- Whether the copy in a file wins a conflict. -/
def winsConflict (options : ReconcileOptions) (beadsIssues : List Issue) (file : Issue) : Bool :=
  match options.verdict beadsIssues file with
  | .conflicting beads => resolve options.strategy beads file = .file
  | _ => false

/-- Updated are the issues whose file is newer, and those whose file wins a conflict. -/
theorem plan_beadsUpdates (distinct : (fileIssues.map Issue.id).Nodup) :
    (options.plan beadsIssues fileIssues).beadsUpdates =
      (fileIssues.filter fun file => options.verdict beadsIssues file = .fileNewer) ++
        fileIssues.filter (options.winsConflict beadsIssues) := by
  have writes : options.direction.writesBeads = true := by
    rw [both]
    rfl
  change (options.changes beadsIssues fileIssues).toBeads.filter _ ++
    (if options.direction.writesBeads then _ else []) = _
  rw [if_pos writes, changes_toBeads, List.filter_filter]
  congr 1
  · refine List.filter_congr fun file present => ?_
    change (decide (Plan.beadsAction options.direction options.deletes
      ((options.changes beadsIssues fileIssues).filesOnly.contains file.id) = .update) && _) = _
    rw [beadsAction_of_mem both present]
    have only : options.verdict beadsIssues file = .fileOnly ↔ _ := verdict_eq_fileOnly
    cases known : Issue.hasId file.id beadsIssues
    · rw [only.mpr known]
      cases options.deletes <;> rfl
    · have other : options.verdict beadsIssues file ≠ .fileOnly := by simp [only, known]
      simp [other]
  · change List.filterMap _ (List.filterMap _ _) = _
    rw [List.filterMap_filterMap]
    refine filterMap_map_eq_filter fileIssues fun file present => ?_
    change (conflict? options.strategy file (options.verdict beadsIssues file)).bind _ = _
    have own : Issue.lastWithId? file.id fileIssues = some file :=
      (Issue.lastWithId?_eq_some distinct).mpr ⟨present, rfl⟩
    unfold winsConflict
    cases options.verdict beadsIssues file <;> simp [conflict?, Conflict.id, own]

/-- An issue is updated exactly when the store has it and the file's copy is kept. -/
theorem mem_beadsUpdates (distinct : (fileIssues.map Issue.id).Nodup) :
    file ∈ (options.plan beadsIssues fileIssues).beadsUpdates ↔ file ∈ fileIssues ∧
      ∃ beads, Issue.lastWithId? file.id beadsIssues = some beads ∧
        options.keptSide? beads file = some .file := by
  rw [plan_beadsUpdates both distinct, List.mem_append, List.mem_filter, List.mem_filter,
    ← and_or_left]
  refine and_congr_right fun _ => ?_
  constructor
  · intro wins
    cases stored : Issue.lastWithId? file.id beadsIssues with
    | none =>
        rw [winsConflict, verdict_of_absent stored] at wins
        simp at wins
    | some beads =>
        refine ⟨beads, rfl, (keptSide?_eq_file stored).mpr ?_⟩
        refine wins.imp (by simp) fun conflict => ?_
        unfold winsConflict at conflict
        split at conflict
        · rename_i other found
          have same := stored_of_verdict (.inr found)
          obtain rfl := Option.some.inj (same.symm.trans stored)
          exact ⟨found, by simpa using conflict⟩
        · cases conflict
  · rintro ⟨beads, stored, kept⟩
    refine ((keptSide?_eq_file stored).mp kept).imp (by simp) fun ⟨found, resolution⟩ => ?_
    simp [winsConflict, found, resolution]

/-- A pulled issue is written. -/
theorem fileAction_of_pulled (taken : beads ∈ options.pulled beadsIssues fileIssues) :
    Plan.fileAction options.direction options.deletes
      ((options.changes beadsIssues fileIssues).beadsOnly.contains beads.id) = .write := by
  obtain ⟨file, present, found⟩ := mem_pulled.mp taken
  obtain ⟨place, same⟩ := Issue.of_lastWithId? (stored_of_verdict (.inl found))
  rw [fileAction_of_mem both place, same, if_pos (Issue.hasId_of_mem present)]

/-- Deleted from the store are the issues without a file, if deletions are handled. -/
theorem plan_beadsDeletes : (options.plan beadsIssues fileIssues).beadsDeletes =
    (beadsIssues.filter fun beads =>
      !Issue.hasId beads.id fileIssues && options.deletes).map Issue.id := by
  change ((options.changes beadsIssues fileIssues).toFiles.filter fun beads =>
    decide (Plan.fileAction options.direction options.deletes
      ((options.changes beadsIssues fileIssues).beadsOnly.contains beads.id) =
        .deleteFromBeads)).map Issue.id = _
  have pulled : (options.pulled beadsIssues fileIssues).filter (fun beads =>
      decide (Plan.fileAction options.direction options.deletes
        ((options.changes beadsIssues fileIssues).beadsOnly.contains beads.id) =
          .deleteFromBeads)) = [] := by
    rw [List.filter_eq_nil_iff]
    intro beads taken
    rw [fileAction_of_pulled both taken]
    decide
  rw [changes_toFiles, List.filter_append, pulled, List.nil_append, List.filter_filter]
  refine congrArg (List.map Issue.id) (List.filter_congr fun beads present => ?_)
  rw [fileAction_of_mem both present]
  cases Issue.hasId beads.id fileIssues <;> cases options.deletes <;> rfl

/-- An issue is written if it has no file and stays, or if the store's copy is kept. -/
theorem mem_fileWrites :
    beads ∈ (options.plan beadsIssues fileIssues).fileWrites ↔
      (beads ∈ beadsIssues ∧ Issue.hasId beads.id fileIssues = false ∧ options.deletes = false) ∨
        ∃ file ∈ fileIssues, Issue.lastWithId? file.id beadsIssues = some beads ∧
          options.keptSide? beads file = some .beads := by
  have writes : options.direction.writesFiles = true := by
    rw [both]
    rfl
  have shape : (options.plan beadsIssues fileIssues).fileWrites =
      ((options.changes beadsIssues fileIssues).toFiles.filter fun beads =>
        decide (Plan.fileAction options.direction options.deletes
          ((options.changes beadsIssues fileIssues).beadsOnly.contains beads.id) = .write)) ++
      if options.direction.writesFiles then
        (options.changes beadsIssues fileIssues).conflicts.filterMap fun conflict =>
          if conflict.resolution = .beads then Issue.lastWithId? conflict.id beadsIssues else none
      else [] := rfl
  rw [shape, if_pos writes, changes_toFiles, List.mem_append, List.mem_filter, List.mem_append,
    List.mem_filterMap]
  -- A written issue was pulled, or has no file, or is a conflict that the store won.
  constructor
  · rintro (⟨taken | unfiled, written⟩ | ⟨conflict, listed, chosen⟩)
    · obtain ⟨file, present, found⟩ := mem_pulled.mp taken
      have stored := stored_of_verdict (.inl found)
      exact .inr ⟨file, present, stored, (keptSide?_eq_beads stored).mpr (.inl found)⟩
    · obtain ⟨present, absent⟩ := List.mem_filter.mp unfiled
      have noFile : Issue.hasId beads.id fileIssues = false := by simpa using absent
      rw [fileAction_of_mem both present, noFile] at written
      cases deletes : options.deletes with
      | false => exact .inl ⟨present, noFile, rfl⟩
      | true => simp [deletes] at written
    · obtain ⟨file, present, other, found, rfl⟩ := mem_conflicts.mp listed
      have stored := stored_of_verdict (.inr found)
      obtain ⟨wins, same⟩ := Option.ite_none_right_eq_some.mp chosen
      obtain rfl := Option.some.inj (stored.symm.trans same)
      exact .inr ⟨file, present, stored, (keptSide?_eq_beads stored).mpr (.inr ⟨found, wins⟩)⟩
  · rintro (⟨present, absent, keeps⟩ | ⟨file, present, stored, kept⟩)
    · refine .inl ⟨.inr (List.mem_filter.mpr ⟨present, by simp [absent]⟩), ?_⟩
      rw [fileAction_of_mem both present, absent, keeps]
      decide
    · rcases (keptSide?_eq_beads stored).mp kept with found | ⟨found, wins⟩
      · have taken := mem_pulled.mpr ⟨file, present, found⟩
        exact .inl ⟨.inl taken, decide_eq_true (fileAction_of_pulled both taken)⟩
      · refine .inr ⟨_, mem_conflicts.mpr ⟨file, present, beads, found, rfl⟩, ?_⟩
        rw [if_pos wins]
        exact stored

end ReconcileOptions

end Issuebook
