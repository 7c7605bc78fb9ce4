import Issuebook.Proofs.Reconciliation.Planning

/-!
# What a direction allows

The plan of a reconciliation in any direction, for collections that may hold an identifier
repeatedly. An issue is deleted only from the one side that has it, where that side may follow
the other.
-/

namespace Issuebook

namespace Plan

/-- An issue is deleted from the store when it is new there, the store may be written and deletions
are handled. -/
theorem fileAction_eq_deleteFromBeads {direction : Direction} {deletes isNew : Bool} :
    fileAction direction deletes isNew = .deleteFromBeads ↔
      isNew = true ∧ direction ≠ .beadsToFiles ∧ deletes = true := by
  cases direction <;> cases deletes <;> cases isNew <;> decide

/-- A file is removed when it is new, files may be written and deletions are handled. -/
theorem beadsAction_eq_removeFile {direction : Direction} {deletes isNew : Bool} :
    beadsAction direction deletes isNew = .removeFile ↔
      isNew = true ∧ direction ≠ .filesToBeads ∧ deletes = true := by
  cases direction <;> cases deletes <;> cases isNew <;> decide

/-- Towards the store only new issues are written to files. -/
theorem isNew_of_fileAction_eq_write {deletes isNew : Bool}
    (written : fileAction .filesToBeads deletes isNew = .write) : isNew = true := by
  cases isNew
  · cases written
  · rfl

/-- The store is updated for an issue that it has, if it may be written. -/
theorem beadsAction_eq_update {direction : Direction} {deletes isNew : Bool} :
    beadsAction direction deletes isNew = .update ↔
      isNew = false ∧ direction ≠ .beadsToFiles := by
  cases direction <;> cases deletes <;> cases isNew <;> decide

/-- Towards the files nothing is created or updated in the store. -/
theorem beadsAction_beadsToFiles (deletes isNew : Bool) :
    beadsAction .beadsToFiles deletes isNew ≠ .create ∧
      beadsAction .beadsToFiles deletes isNew ≠ .update := by
  cases deletes <;> cases isNew <;> decide

end Plan

namespace ReconcileOptions

variable {options : ReconcileOptions} {beadsIssues fileIssues : List Issue} {id : Text}

/-- What only the store has is sent to files. -/
theorem mem_ids_toFiles_of_beadsOnly
    (only : id ∈ (options.changes beadsIssues fileIssues).beadsOnly) :
    ∃ issue ∈ (options.changes beadsIssues fileIssues).toFiles, issue.id = id := by
  obtain ⟨present, absent⟩ := mem_beadsOnly.mp only
  obtain ⟨beads, place, rfl⟩ := Issue.hasId_iff.mp present
  refine ⟨beads, ?_, rfl⟩
  rw [changes_toFiles]
  exact List.mem_append_right _ (List.mem_filter.mpr ⟨place, by rw [absent]; rfl⟩)

/-- What only the files have is sent to the store. -/
theorem mem_ids_toBeads_of_filesOnly
    (only : id ∈ (options.changes beadsIssues fileIssues).filesOnly) :
    ∃ issue ∈ (options.changes beadsIssues fileIssues).toBeads, issue.id = id := by
  obtain ⟨present, absent⟩ := mem_filesOnly.mp only
  obtain ⟨file, place, rfl⟩ := Issue.hasId_iff.mp present
  refine ⟨file, ?_, rfl⟩
  rw [changes_toBeads]
  exact List.mem_filter.mpr ⟨place, decide_eq_true (.inl (verdict_eq_fileOnly.mpr absent))⟩

/-- What is deleted from the store: with leave to delete, and unless files follow the store, what
no file holds. -/
theorem mem_beadsDeletes_directed :
    id ∈ (options.plan beadsIssues fileIssues).beadsDeletes ↔
      options.direction ≠ .beadsToFiles ∧ options.deletes = true ∧
        Issue.hasId id beadsIssues = true ∧ Issue.hasId id fileIssues = false := by
  have shape : (options.plan beadsIssues fileIssues).beadsDeletes =
      ((options.changes beadsIssues fileIssues).toFiles.filter fun issue =>
        Plan.fileAction options.direction options.deletes
          ((options.changes beadsIssues fileIssues).beadsOnly.contains issue.id) =
            .deleteFromBeads).map Issue.id := rfl
  rw [shape]
  simp only [List.mem_map, List.mem_filter, decide_eq_true_eq, Plan.fileAction_eq_deleteFromBeads,
    List.contains_iff_mem]
  have oneSided : id ∈ (options.changes beadsIssues fileIssues).beadsOnly ↔ _ := mem_beadsOnly
  rw [← oneSided]
  constructor
  · rintro ⟨issue, ⟨-, only, follows, deletes⟩, rfl⟩
    exact ⟨follows, deletes, only⟩
  · rintro ⟨follows, deletes, only⟩
    obtain ⟨issue, place, rfl⟩ := mem_ids_toFiles_of_beadsOnly only
    exact ⟨issue, ⟨place, only, follows, deletes⟩, rfl⟩

/-- Whose files are removed: with leave to delete, and unless the store follows files, those of
issues that the store has not. -/
theorem mem_fileRemovals_directed :
    id ∈ (options.plan beadsIssues fileIssues).fileRemovals ↔
      options.direction ≠ .filesToBeads ∧ options.deletes = true ∧
        Issue.hasId id fileIssues = true ∧ Issue.hasId id beadsIssues = false := by
  have shape : (options.plan beadsIssues fileIssues).fileRemovals =
      ((options.changes beadsIssues fileIssues).toBeads.filter fun issue =>
        Plan.beadsAction options.direction options.deletes
          ((options.changes beadsIssues fileIssues).filesOnly.contains issue.id) =
            .removeFile).map Issue.id := rfl
  rw [shape]
  simp only [List.mem_map, List.mem_filter, decide_eq_true_eq, Plan.beadsAction_eq_removeFile,
    List.contains_iff_mem]
  have oneSided : id ∈ (options.changes beadsIssues fileIssues).filesOnly ↔ _ := mem_filesOnly
  rw [← oneSided]
  constructor
  · rintro ⟨issue, ⟨-, only, follows, deletes⟩, rfl⟩
    exact ⟨follows, deletes, only⟩
  · rintro ⟨follows, deletes, only⟩
    obtain ⟨issue, place, rfl⟩ := mem_ids_toBeads_of_filesOnly only
    exact ⟨issue, ⟨place, only, follows, deletes⟩, rfl⟩

/-- Where files follow the store, the plan leaves the store alone. -/
theorem plan_beadsToFiles (follows : options.direction = .beadsToFiles) :
    (options.plan beadsIssues fileIssues).beadsCreates = [] ∧
      (options.plan beadsIssues fileIssues).beadsUpdates = [] ∧
      (options.plan beadsIssues fileIssues).beadsDeletes = [] := by
  have still (isNew : Bool) := Plan.beadsAction_beadsToFiles options.deletes isNew
  have noWrites : options.direction.writesBeads = false := by
    rw [follows]
    rfl
  refine ⟨List.filter_eq_nil_iff.mpr fun issue _ => ?_, List.append_eq_nil_iff.mpr
    ⟨List.filter_eq_nil_iff.mpr fun issue _ => ?_, if_neg (by simp [noWrites])⟩,
    List.eq_nil_iff_forall_not_mem.mpr fun id deleted =>
      (mem_beadsDeletes_directed.mp deleted).1 follows⟩
  · rw [follows]
    exact fun created => (still _).1 (of_decide_eq_true created)
  · rw [follows]
    exact fun updated => (still _).2 (of_decide_eq_true updated)

/-- Where the store follows files, only issues without a file are written. -/
theorem absent_of_mem_fileWrites {issue : Issue} (follows : options.direction = .filesToBeads)
    (written : issue ∈ (options.plan beadsIssues fileIssues).fileWrites) :
    Issue.hasId issue.id fileIssues = false := by
  have noWrites : options.direction.writesFiles = false := by
    rw [follows]
    rfl
  rcases List.mem_append.mp written with listed | kept
  · have action := of_decide_eq_true (List.mem_filter.mp listed).2
    rw [follows] at action
    have only := List.contains_iff_mem.mp (Plan.isNew_of_fileAction_eq_write action)
    exact (mem_beadsOnly.mp only).2
  · rw [if_neg (by simp [noWrites])] at kept
    exact absurd kept List.not_mem_nil

/-- An update sends the copy of a file that is newer or wins its conflict. -/
theorem of_mem_beadsUpdates {file : Issue} (distinct : (fileIssues.map Issue.id).Nodup)
    (updated : file ∈ (options.plan beadsIssues fileIssues).beadsUpdates) :
    file ∈ fileIssues ∧ (options.verdict beadsIssues file = .fileNewer ∨
      ∃ beads, options.verdict beadsIssues file = .conflicting beads ∧
        Changes.resolve options.strategy beads file = .file) := by
  rcases List.mem_append.mp updated with newer | kept
  · obtain ⟨pushed, action⟩ := List.mem_filter.mp newer
    change file ∈ (options.changes beadsIssues fileIssues).toBeads at pushed
    rw [changes_toBeads] at pushed
    obtain ⟨present, verdict⟩ := List.mem_filter.mp pushed
    refine ⟨present, (of_decide_eq_true verdict).elim (fun only => ?_) .inl⟩
    -- An issue that only files have is new, and nothing new is updated.
    have known := (Plan.beadsAction_eq_update.mp (of_decide_eq_true action)).1
    have listed : file.id ∈ (options.changes beadsIssues fileIssues).filesOnly :=
      mem_filesOnly.mpr ⟨Issue.hasId_of_mem present, verdict_eq_fileOnly.mp only⟩
    cases known.symm.trans (List.contains_iff_mem.mpr listed)
  · split_ifs at kept
    · obtain ⟨conflict, listed, chosen⟩ := List.mem_filterMap.mp kept
      obtain ⟨other, present, beads, found, rfl⟩ := mem_conflicts.mp listed
      obtain ⟨wins, same⟩ := Option.ite_none_right_eq_some.mp chosen
      obtain ⟨place, sameId⟩ := Issue.of_lastWithId? same
      obtain rfl : file = other := Issue.eq_of_same_id distinct place present sameId
      exact ⟨present, .inr ⟨beads, found, wins⟩⟩
    · cases kept

/-- A write sends the copy of the store where there is no file, or where it is newer or wins its
conflict. -/
theorem of_mem_fileWrites {issue : Issue}
    (written : issue ∈ (options.plan beadsIssues fileIssues).fileWrites) :
    Issue.hasId issue.id fileIssues = false ∨ ∃ file ∈ fileIssues, file.id = issue.id ∧
      (options.verdict beadsIssues file = .beadsNewer issue ∨
        options.verdict beadsIssues file = .conflicting issue ∧
          Changes.resolve options.strategy issue file = .beads) := by
  rcases List.mem_append.mp written with listed | kept
  · have sent : issue ∈ (options.changes beadsIssues fileIssues).toFiles :=
      (List.mem_filter.mp listed).1
    rw [changes_toFiles] at sent
    rcases List.mem_append.mp sent with newer | unfiled
    · obtain ⟨file, present, found⟩ := mem_pulled.mp newer
      have same := (Issue.of_lastWithId? (stored_of_verdict (.inl found))).2
      exact .inr ⟨file, present, same.symm, .inl found⟩
    · exact .inl (by simpa using (List.mem_filter.mp unfiled).2)
  · split_ifs at kept
    · obtain ⟨conflict, listed, chosen⟩ := List.mem_filterMap.mp kept
      obtain ⟨file, present, beads, found, rfl⟩ := mem_conflicts.mp listed
      obtain ⟨wins, same⟩ := Option.ite_none_right_eq_some.mp chosen
      have stored := stored_of_verdict (.inr found)
      obtain rfl := Option.some.inj (stored.symm.trans same)
      exact .inr ⟨file, present, (Issue.of_lastWithId? stored).2.symm, .inr ⟨found, wins⟩⟩
    · cases kept

/-- No issue is both updated in the store and written to a file. -/
theorem ne_of_updated_of_written {file issue : Issue} (distinct : (fileIssues.map Issue.id).Nodup)
    (updated : file ∈ (options.plan beadsIssues fileIssues).beadsUpdates)
    (written : issue ∈ (options.plan beadsIssues fileIssues).fileWrites) : issue.id ≠ file.id := by
  intro same
  obtain ⟨present, sent⟩ := of_mem_beadsUpdates distinct updated
  rcases of_mem_fileWrites written with absent | ⟨other, otherPresent, otherSame, kept⟩
  · rw [same, Issue.hasId_of_mem present] at absent
    cases absent
  · obtain rfl : other = file :=
      Issue.eq_of_same_id distinct otherPresent present (otherSame.trans same)
    rcases sent with newer | ⟨beads, conflicting, wins⟩ <;> rcases kept with found | ⟨found, loses⟩
    · cases newer.symm.trans found
    · cases newer.symm.trans found
    · cases conflicting.symm.trans found
    · cases conflicting.symm.trans found
      cases wins.symm.trans loses

end ReconcileOptions

end Issuebook
