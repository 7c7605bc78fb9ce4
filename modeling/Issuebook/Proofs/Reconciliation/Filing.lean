import Issuebook.Proofs.Book.Renewal
import Issuebook.Proofs.Reconciliation.Actions
import Issuebook.Proofs.Reconciliation.Effects
import Issuebook.Proofs.Reconciliation.Settling

/-!
# What a reconciliation leaves in files

A reconciliation that reports no failure leaves a book that can be loaded again. It holds what the
plan says, each written issue as it is read from its file and all others but the removed ones as
they were, exactly when the files that it writes keep out of each other's way and out of that of
others: `load_run_iff`.
-/

namespace Issuebook

open Disk

/-- A text is read as an issue with all its line ends as line feeds. -/
theorem Content.readIssue_text (text : Text) :
    (Content.text text).readIssue = Document.readIssue (Text.withLineFeeds text) :=
  rfl

namespace Issue

variable {issue written : Issue}

/-- The file of an issue that a document carries is read as the document is. -/
theorem readIssue_document (carried : issue.IsCarried) :
    (Content.text (issue.withSource .file).toDocument).readIssue =
      Document.readIssue (issue.withSource .file).toDocument := by
  have valid := isValid_withSource carried.valid .file
  have unbroken : (issue.withSource .file).IsUnbroken := carried.unbroken
  rw [Content.readIssue_text, Document.readIssue_withLineFeeds valid unbroken,
    Document.readIssue_toDocument valid unbroken]

/-- What is read from the file of an issue is the issue read again. -/
theorem reread?_of_readIssue (carried : issue.IsCarried)
    (read : (Content.text (issue.withSource .file).toDocument).readIssue = .ok written) :
    issue.reread? = some (written.withSource .file) := by
  rw [readIssue_document carried] at read
  rw [reread?, read]
  rfl

/-- The file of an issue that a document carries can be read. -/
theorem exists_readIssue (carried : issue.IsCarried) :
    ∃ written, (Content.text (issue.withSource .file).toDocument).readIssue = .ok written ∧
      written.id = issue.id := by
  have valid := isValid_withSource carried.valid .file
  have unbroken : (issue.withSource .file).IsUnbroken := carried.unbroken
  obtain ⟨copy, made, same, -⟩ := exists_copy valid unbroken carried.single
  exact ⟨copy, (readIssue_document carried).trans made, same.id⟩

/-- An issue that is written and read again keeps its identifier. -/
theorem id_of_reread? (carried : issue.IsCarried) {copy : Issue}
    (read : issue.reread? = some copy) : copy.id = issue.id := by
  obtain ⟨written, understood, same⟩ := exists_readIssue carried
  rw [reread?_of_readIssue carried understood] at read
  rw [← Option.some.inj read]
  exact same

end Issue

namespace Book

variable {disk left : Disk} {home place : Place} {names : List Text} {entries after : List Entry}
  {entry : Entry} {content : Content} {writes : List PlannedWrite} {write : PlannedWrite}
  {removals : List Text} {issue : Issue}

/-- Writes keep out of each other's way and out of that of other issues. -/
structure IsHarmless (entries : List Entry) (writes : List PlannedWrite) : Prop where
  /-- Their order does no harm. -/
  apart : AreApart entries writes
  /-- Their files have the ending of issue files. -/
  named : ∀ write ∈ writes, Text.endsWith write.path.name fileEnding
  /-- The files of issues that are not written stay as they are. -/
  spared : ∀ write ∈ writes, ∀ entry ∈ entries, entry.path = write.path →
    ∃ other ∈ writes, other.issue.id = entry.issue.id

/-- The file of an entry has the ending of issue files. -/
theorem IsEntry.ending (known : IsEntry disk home entry) :
    Text.endsWith entry.path.name fileEnding := by
  obtain ⟨names, content, written, path, file, -⟩ := known
  have name : (pathOf (home ++ names)).name = names.getLastD [] :=
    getLastD_append home file.present
  rw [path, name]
  exact file.ending

/-- A book whose files are all passed over or read can be loaded. -/
theorem exists_load (book : disk.IsBook home)
    (short : ∀ names ∈ disk.inner home, Text.endsWith (names.getLastD []) fileEnding →
      IsShort (pathOf (home ++ names)))
    (passed : ∀ names content, IsIssueFile disk home names content →
      ∀ fault, content.readIssue = .error fault → isPassedOver fault = true) :
    ∃ entries, (load disk (pathOf home)).value = .ok entries := by
  have listed := (files_pathOf_eq_ok book).mpr ⟨short, rfl⟩
  have skipped : ∀ path ∈ (disk.fileNames home fileEnding).map fun names => pathOf (home ++ names),
      ∀ fault, readFile disk path = .error fault → isPassedOver fault = true := by
    refine List.forall_mem_map.mpr fun names known fault failed => ?_
    obtain ⟨content, file⟩ := mem_fileNames_iff.mp known
    rw [readFile_pathOf book file.held file.present
      (short names file.mem_inner file.ending)] at failed
    cases read : content.readIssue with
    | error reason =>
        rw [read] at failed
        exact Except.error.inj failed ▸ passed names content file reason read
    | ok written =>
        rw [read] at failed
        cases failed
  exact ⟨_, by rw [load_of_skipped listed skipped]⟩

/-- The files of a book that is loaded are all passed over or read. -/
theorem isPassedOver_of_load (book : disk.IsBook home)
    (loaded : (load disk (pathOf home)).value = .ok entries)
    (file : IsIssueFile disk home names content) {fault : Fault}
    (failed : content.readIssue = .error fault) : isPassedOver fault = true := by
  obtain ⟨paths, listed, -⟩ := of_load loaded
  obtain ⟨-, rfl⟩ := (files_pathOf_eq_ok book).mp listed
  refine skipped_of_load listed loaded (pathOf (home ++ names))
    (List.mem_map_of_mem (mem_fileNames_iff.mpr ⟨content, file⟩)) fault ?_
  rw [readFile_pathOf book file.held file.present (isShort_of_load book loaded file), failed]
  rfl

namespace Renews

section Loaded

variable (renews : Renews disk left home entries writes removals) (book : disk.IsBook home)
include renews book

/-- The disk that is left has the book. -/
theorem isBook : left.IsBook home :=
  book.spreadsTo renews.spreads (List.forall_mem_map.mpr fun write listed =>
    (renews.inside write listed).1)

variable (carried : ∀ write ∈ writes, write.issue.IsCarried)
  (loaded : (load disk (pathOf home)).value = .ok entries)
include carried loaded

/-- A renewed book can be loaded. -/
theorem exists_load : ∃ after, (load left (pathOf home)).value = .ok after := by
  refine Book.exists_load (renews.isBook book) (fun names listed ending => ?_)
    fun names content file fault failed => ?_
  · obtain ⟨present, taken⟩ := mem_inner.mp listed
    rcases renews.spreads.onWay taken with before | ⟨target, planned, further⟩
    · obtain ⟨paths, listed, -⟩ := of_load loaded
      exact ((files_pathOf_eq_ok book).mp listed).1 names (mem_inner.mpr ⟨present, before⟩) ending
    · obtain ⟨write, listed, rfl⟩ := List.mem_map.mp planned
      obtain ⟨longer, -, whole⟩ := (renews.inside write listed).1.exists_names
      rw [whole] at planned further
      have short : IsShort ((pathOf home).onward longer) :=
        (renews.spreads.reached _ planned).1.length
      exact IsShort.of_prefix short ((List.prefix_append_right_inj home).mp further) present
  · rcases (renews.origin file.held).2 with ⟨write, listed, -, rfl⟩ | ⟨-, held, -⟩
    · obtain ⟨written, read, -⟩ := Issue.exists_readIssue (carried write listed)
      cases read.symm.trans failed
    · exact isPassedOver_of_load book loaded ⟨file.present, file.ending, held⟩ failed

/-- Each entry is that of an issue that was written, or was there before. -/
theorem isEntry_cases (known : IsEntry left home entry) :
    (∃ write ∈ writes, entry.path = write.path ∧ write.issue.reread? = some entry.issue ∧
        left.content? write.path = some (.text write.document)) ∨
      entry ∈ entries ∧ entry.issue.id ∉ removals ∧ ∀ write ∈ writes,
        write.path ≠ entry.path ∧ write.issue.id ≠ entry.issue.id := by
  obtain ⟨names, content, written, path, file, read, issue⟩ := known
  obtain ⟨stays, source⟩ := renews.origin file.held
  rcases source with ⟨write, listed, own, rfl⟩ | ⟨unwritten, held, others⟩
  · refine .inl ⟨write, listed, path.trans own.symm, ?_, ?_⟩
    · rw [issue]
      exact Issue.reread?_of_readIssue (carried write listed) read
    · rw [content?_eq_some, own]
      exact file.held
  · have before : entry ∈ entries := (mem_load_iff book loaded).mpr
      ⟨names, content, written, path, ⟨file.present, file.ending, held⟩, read, issue⟩
    refine .inr ⟨before, stays entry before path, fun write listed => ⟨?_, ?_⟩⟩
    · rw [path]
      exact unwritten write listed
    · exact others entry before path write listed

omit book loaded in
/-- An issue that is in its file has an entry. -/
theorem isEntry_of_held (listed : write ∈ writes)
    (held : left.content? write.path = some (.text write.document))
    (named : Text.endsWith write.path.name fileEnding) (read : write.issue.reread? = some issue) :
    IsEntry left home ⟨write.path, issue⟩ := by
  obtain ⟨inside, own⟩ := renews.inside write listed
  obtain ⟨names, present, whole⟩ := inside.exists_names
  rw [whole] at own
  obtain ⟨written, understood, -⟩ := Issue.exists_readIssue (carried write listed)
  have same := Issue.reread?_of_readIssue (carried write listed) understood
  have file : IsIssueFile left home names (.text write.document) := by
    refine ⟨present, ?_, ?_⟩
    · have ending := named
      rw [Path.name, whole, getLastD_append home present] at ending
      exact ending
    · have there := content?_eq_some.mp held
      rw [whole] at there
      exact there
  rw [PlannedWrite.document] at file
  exact ⟨names, _, written, own, file, understood, Option.some.inj (read.symm.trans same)⟩

omit carried in
/-- An issue that is neither written nor removed keeps its entry when its file is spared. -/
theorem isEntry_of_spared (listed : entry ∈ entries) (stays : entry.issue.id ∉ removals)
    (others : ∀ write ∈ writes, write.path ≠ entry.path ∧ write.issue.id ≠ entry.issue.id) :
    IsEntry left home entry := by
  obtain ⟨names, content, written, path, file, read⟩ := (mem_load_iff book loaded).mp listed
  refine ⟨names, content, written, path, ⟨file.present, file.ending, ?_⟩, read⟩
  refine renews.kept file.held (fun write planned same => ?_) fun other present same => ?_
  · exact (others write planned).1 (same.trans path.symm)
  · have paths := nodup_paths_load book loaded
    obtain rfl := List.inj_on_of_nodup_map paths present listed (same.trans path.symm)
    exact ⟨stays, fun write planned => (others write planned).2⟩

end Loaded

end Renews

end Book

/-! ## What the plan says -/

namespace Plan

variable {plan : Plan}

/-- A plan that acts once on each identifier writes or removes a file once at most. -/
theorem nodup_files (once : plan.ActsOnce) :
    (plan.fileWrites.map Issue.id ++ plan.fileRemovals).Nodup := by
  have ids : plan.actions.map Prod.snd = plan.beadsCreates.map Issue.id ++
      (plan.beadsUpdates.map Issue.id ++ (plan.beadsDeletes ++
        (plan.fileWrites.map Issue.id ++ plan.fileRemovals))) := by
    simp [actions, Function.comp_def]
  rw [ActsOnce, ids] at once
  exact once.of_append_right.of_append_right.of_append_right

/-- An issue that is written is not removed. -/
theorem notMem_fileRemovals (once : plan.ActsOnce) {issue : Issue}
    (written : issue ∈ plan.fileWrites) : issue.id ∉ plan.fileRemovals := fun removed =>
  (List.nodup_append.mp (nodup_files once)).2.2 _ (List.mem_map_of_mem written) _ removed rfl

end Plan

namespace ReconcileOptions

variable {plan : Plan} {fileIssues : List Issue} {id : Text} {issue : Issue}

/-- The plan leaves an issue that it writes, as it is read again, or one that it leaves alone. -/
theorem filesAfter_eq_some (once : plan.ActsOnce) :
    filesAfter plan fileIssues id = some issue ↔ id ∉ plan.fileRemovals ∧
      ((∃ written ∈ plan.fileWrites, written.id = id ∧ written.reread? = some issue) ∨
        (∀ written ∈ plan.fileWrites, written.id ≠ id) ∧
          Issue.lastWithId? id fileIssues = some issue) := by
  unfold filesAfter
  by_cases removed : id ∈ plan.fileRemovals
  · simp [removed]
  · rw [if_neg (by simpa using removed), and_iff_right removed]
    cases found : Issue.lastWithId? id plan.fileWrites with
    | none =>
        have unwritten := Issue.lastWithId?_eq_none.mp found
        refine ⟨fun left => .inr ⟨unwritten, left⟩, ?_⟩
        rintro (⟨written, listed, same, -⟩ | ⟨-, left⟩)
        · exact absurd same (unwritten written listed)
        · exact left
    | some written =>
        obtain ⟨listed, same⟩ := Issue.of_lastWithId? found
        refine ⟨fun read => .inl ⟨written, listed, same, read⟩, ?_⟩
        rintro (⟨other, otherListed, otherSame, read⟩ | ⟨unwritten, -⟩)
        · obtain rfl := Issue.eq_of_same_id (Plan.nodup_files once).of_append_left
            otherListed listed
            (otherSame.trans same.symm)
          exact read
        · exact absurd same (unwritten written listed)

end ReconcileOptions

namespace Book.Renews

open ReconcileOptions

variable {disk left : Disk} {home : Place} {entries after : List Entry} {entry : Entry}
  {writes : List PlannedWrite} {plan : Plan} {id : Text} {issue : Issue}
  (renews : Renews disk left home entries writes plan.fileRemovals) (book : disk.IsBook home)
  (loaded : (load disk (pathOf home)).value = .ok entries)
  (distinct : ((entries.map Entry.issue).map Issue.id).Nodup)
  (once : plan.ActsOnce) (owners : writes.map PlannedWrite.issue = plan.fileWrites)
  (carried : ∀ write ∈ writes, write.issue.IsCarried)
  (again : (load left (pathOf home)).value = .ok after)

section Written

include owners

/-- Every issue that is to be written has its write. -/
theorem exists_write {written : Issue} (listed : written ∈ plan.fileWrites) :
    ∃ write ∈ writes, write.issue = written :=
  List.mem_map.mp (owners ▸ listed)

/-- A write is about an issue that is to be written. -/
theorem mem_fileWrites {write : PlannedWrite} (listed : write ∈ writes) :
    write.issue ∈ plan.fileWrites :=
  owners ▸ List.mem_map_of_mem listed

include once

/-- An identifier tells which write is meant. -/
theorem eq_of_same_id {one other : PlannedWrite} (oneListed : one ∈ writes)
    (otherListed : other ∈ writes) (same : one.issue.id = other.issue.id) : one = other := by
  have ids : (writes.map fun write => write.issue.id).Nodup := by
    have nodup := (Plan.nodup_files once).of_append_left
    rwa [← owners, List.map_map] at nodup
  exact List.inj_on_of_nodup_map ids oneListed otherListed same

end Written

include renews book loaded once owners carried again

/-- After harmless writes the book has an entry for each issue that was written, and for each that
was neither written nor removed. -/
theorem mem_load_iff_of_isHarmless (harmless : IsHarmless entries writes) :
    entry ∈ after ↔
      (∃ write ∈ writes, entry.path = write.path ∧ write.issue.reread? = some entry.issue) ∨
        entry ∈ entries ∧ entry.issue.id ∉ plan.fileRemovals ∧
          ∀ write ∈ writes, write.issue.id ≠ entry.issue.id := by
  rw [mem_load_iff (renews.isBook book) again]
  constructor
  · intro known
    refine (renews.isEntry_cases book carried loaded known).imp ?_ ?_
    · rintro ⟨write, listed, path, read, -⟩
      exact ⟨write, listed, path, read⟩
    · rintro ⟨listed, stays, others⟩
      exact ⟨listed, stays, fun write planned => (others write planned).2⟩
  · rintro (⟨write, listed, path, read⟩ | ⟨listed, stays, others⟩)
    · have held := renews.written harmless.apart write listed fun other present same => by
        obtain ⟨owner, planned, own⟩ := harmless.spared write listed other present same
        exact own ▸ Plan.notMem_fileRemovals once (mem_fileWrites owners planned)
      obtain ⟨own, issue⟩ := entry
      obtain rfl : own = write.path := path
      exact renews.isEntry_of_held carried listed held (harmless.named write listed) read
    · refine renews.isEntry_of_spared book loaded listed stays fun write planned =>
        ⟨fun same => ?_, others write planned⟩
      obtain ⟨owner, written, own⟩ := harmless.spared write planned entry listed same.symm
      exact others owner written own

/-- After harmless writes the book holds what the plan says. -/
theorem areListed_of_isHarmless (harmless : IsHarmless entries writes)
    (distinct : ((entries.map Entry.issue).map Issue.id).Nodup) :
    (filesAfter plan (entries.map Entry.issue)).AreListed (after.map Entry.issue) := by
  have known {entry : Entry} : entry ∈ after ↔ _ :=
    renews.mem_load_iff_of_isHarmless book loaded once owners carried again harmless
  have sameEntry {one other : Entry} (oneListed : one ∈ entries) (otherListed : other ∈ entries)
      (same : one.issue.id = other.issue.id) : one = other := by
    rw [List.map_map] at distinct
    exact List.inj_on_of_nodup_map distinct oneListed otherListed same
  -- Two entries of one identifier were both written, or both spared; the mixed cases are excluded.
  have samePath {one other : Entry} (oneListed : one ∈ after) (otherListed : other ∈ after)
      (same : one.issue.id = other.issue.id) : one.path = other.path := by
    rcases known.mp oneListed with ⟨write, listed, path, read⟩ | ⟨listed, -, unwritten⟩ <;>
      rcases known.mp otherListed with ⟨write', listed', path', read'⟩ | ⟨listed', -, unwritten'⟩
    · have ids := (Issue.id_of_reread? (carried write listed) read).symm.trans
        (same.trans (Issue.id_of_reread? (carried write' listed') read'))
      rw [path, path', eq_of_same_id once owners listed listed' ids]
    · exact absurd ((Issue.id_of_reread? (carried write listed) read).symm.trans same)
        (unwritten' write listed)
    · exact absurd ((Issue.id_of_reread? (carried write' listed') read').symm.trans same.symm)
        (unwritten write' listed')
    · rw [sameEntry listed listed' same]
  have distinctAfter : ((after.map Entry.issue).map Issue.id).Nodup := by
    rw [List.map_map]
    have paths := nodup_paths_load (renews.isBook book) again
    exact List.pairwise_map.mpr ((List.pairwise_map.mp paths).imp_of_mem
      fun one other apart same => apart (samePath one other same))
  refine ⟨distinctAfter, funext fun id => Option.ext fun issue => ?_⟩
  rw [Contents.ofIssues, Issue.lastWithId?_eq_some distinctAfter, filesAfter_eq_some once]
  constructor
  · rintro ⟨there, rfl⟩
    obtain ⟨entry, present, rfl⟩ := List.mem_map.mp there
    rcases known.mp present with ⟨write, planned, -, read⟩ | ⟨listed, stays, others⟩
    · have same := Issue.id_of_reread? (carried write planned) read
      have written := mem_fileWrites owners planned
      refine ⟨same ▸ Plan.notMem_fileRemovals once written, .inl ⟨_, written, same.symm, read⟩⟩
    · refine ⟨stays, .inr ⟨fun written writing => ?_, ?_⟩⟩
      · obtain ⟨write, planned, rfl⟩ := exists_write owners writing
        exact others write planned
      · exact (Issue.lastWithId?_eq_some distinct).mpr ⟨List.mem_map_of_mem listed, rfl⟩
  · rintro ⟨stays, ⟨written, writing, rfl, read⟩ | ⟨unwritten, found⟩⟩
    · obtain ⟨write, planned, rfl⟩ := exists_write owners writing
      have present : ⟨write.path, issue⟩ ∈ after := known.mpr (.inl ⟨write, planned, rfl, read⟩)
      exact ⟨List.mem_map.mpr ⟨_, present, rfl⟩, Issue.id_of_reread? (carried write planned) read⟩
    · obtain ⟨there, rfl⟩ := Issue.of_lastWithId? found
      obtain ⟨entry, listed, rfl⟩ := List.mem_map.mp there
      have present : entry ∈ after := known.mpr (.inr ⟨listed, stays, fun write planned =>
        unwritten _ (mem_fileWrites owners planned)⟩)
      exact ⟨List.mem_map_of_mem present, rfl⟩

/-- Where the book holds what the plan says, the writes were harmless. -/
theorem isHarmless_of_areListed (distinct : ((entries.map Entry.issue).map Issue.id).Nodup)
    (agreed : (filesAfter plan (entries.map Entry.issue)).AreListed (after.map Entry.issue)) :
    IsHarmless entries writes := by
  have cases {entry : Entry} (present : entry ∈ after) :=
    renews.isEntry_cases book carried loaded ((mem_load_iff (renews.isBook book) again).mp present)
  have found {id : Text} {issue : Issue}
      (said : filesAfter plan (entries.map Entry.issue) id = some issue) :
      ∃ entry ∈ after, entry.issue = issue := by
    rw [← agreed.entries] at said
    exact List.mem_map.mp (Issue.of_lastWithId? said).1
  -- Each issue that was written can only be found in the file that it was written to.
  have filed (write : PlannedWrite) (planned : write ∈ writes) :
      ∃ entry ∈ after, entry.path = write.path ∧
        left.content? write.path = some (.text write.document) := by
    obtain ⟨copy, read, -⟩ := Issue.exists_reread (carried write planned)
    have written := mem_fileWrites owners planned
    obtain ⟨entry, present, rfl⟩ := found ((filesAfter_eq_some once).mpr
      ⟨Plan.notMem_fileRemovals once written, .inl ⟨_, written, rfl, read⟩⟩)
    have same := Issue.id_of_reread? (carried write planned) read
    rcases cases present with ⟨other, listed, path, otherRead, held⟩ | ⟨-, -, others⟩
    · obtain rfl := eq_of_same_id once owners listed planned
        ((Issue.id_of_reread? (carried other listed) otherRead).symm.trans same)
      exact ⟨entry, present, path, held⟩
    · exact absurd same.symm (others write planned).2
  constructor
  case apart =>
    refine renews.apart ?_ fun write planned => (filed write planned).choose_spec.2.2
    have ids := (Plan.nodup_files once).of_append_left
    rwa [← owners, List.map_map] at ids
  case named =>
    intro write planned
    obtain ⟨entry, present, path, -⟩ := filed write planned
    rw [← path]
    exact ((mem_load_iff (renews.isBook book) again).mp present).ending
  case spared =>
    intro write planned entry listed path
    by_contra none
    have others : ∀ other ∈ writes, other.issue.id ≠ entry.issue.id := fun other present same =>
      none ⟨other, present, same⟩
    obtain ⟨-, -, -, held⟩ := filed write planned
    have own := (renews.inside write planned).2
    have stays := (renews.origin (content?_eq_some.mp held)).1 entry listed (path.trans own)
    have unwritten : ∀ written ∈ plan.fileWrites, written.id ≠ entry.issue.id := fun _ writing => by
      obtain ⟨other, present, rfl⟩ := exists_write owners writing
      exact others other present
    have before : Issue.lastWithId? entry.issue.id (entries.map Entry.issue) = some entry.issue :=
      (Issue.lastWithId?_eq_some distinct).mpr ⟨List.mem_map_of_mem listed, rfl⟩
    obtain ⟨kept, present, same⟩ := found
      ((filesAfter_eq_some once).mpr ⟨stays, .inr ⟨unwritten, before⟩⟩)
    rcases cases present with ⟨other, otherListed, -, read, -⟩ | ⟨keptBefore, -, spared⟩
    · refine others other otherListed ?_
      rw [← same, Issue.id_of_reread? (carried other otherListed) read]
    · rw [List.map_map] at distinct
      obtain rfl : kept = entry :=
        List.inj_on_of_nodup_map distinct keptBefore listed (congrArg Issue.id same)
      exact (spared write planned).1 path.symm

end Book.Renews

/-! ## The files' part of a run -/

namespace FilePhase

open Book

variable {disk : Disk} {today : Date} {options : ReconcileOptions} {home : Place} {root : Path}
  {files : Entries Path} {entries : List Entry} {ids : List Text} {writing : List Issue}
  {plan : Plan} {summary last : Summary} {how : WriteOptions}

/-- The writes of issues, planned before any of them is made. -/
def plannedWrites (disk : Disk) (today : Date) (options : ReconcileOptions) (files : Entries Path)
    (writing : List Issue) : Except Fault (List PlannedWrite) :=
  if writing.isEmpty then .ok []
  else do
    let how ← writeOptions disk options files writing
    Book.plan disk today options.todoRoot how writing

/-- The file of an identifier is that of its entry, where none is repeated. -/
theorem get?_filesById_eq_some (distinct : ((entries.map Entry.issue).map Issue.id).Nodup)
    {id : Text} {path : Path} : (filesById entries).get? id = some path ↔
      ∃ entry ∈ entries, entry.issue.id = id ∧ entry.path = path := by
  have keys : (Entries.keys (entries.map fun entry => (entry.issue.id, entry.path))).Nodup := by
    rw [Entries.keys, List.map_map]
    rw [List.map_map] at distinct
    exact distinct
  rw [filesById, Entries.ofList_of_distinct keys, Entries.get?_eq_some_iff keys, List.mem_map]
  simp only [Prod.mk.injEq]

/-- The earlier file of an issue that is written is its file. -/
theorem get?_ownFiles {id : Text} {path : Path} : (ownFiles files writing).get? id = some path ↔
    Issue.hasId id writing = true ∧ files.get? id = some path := by
  rw [ownFiles]
  refine (congrArg (· = some path)
    (Entries.get?_filter (fun id => Issue.hasId id writing) files)).to_iff.trans ?_
  split_ifs with known <;> simp [known]

/-- Writing knows the earlier files of the issues that are written. -/
theorem previousPaths_of_writeOptions (made : writeOptions disk options files writing = .ok how) :
    how.previousPaths = ownFiles files writing := by
  obtain ⟨existing, -, rfl⟩ := Fault.map_eq_ok.mp made
  rfl

/-- A removal that does not end the part is followed by the others. -/
theorem of_remove_cons {isDry : Bool} {id : Text}
    (ended : (remove root isDry files disk summary (id :: ids)).summary = .ok last) :
    ∃ next, (removeOne root isDry files disk summary id).summary = .ok next ∧
      let later := remove root isDry files
        (removeOne root isDry files disk summary id).disk next ids
      later.summary = .ok last ∧
        (remove root isDry files disk summary (id :: ids)).disk = later.disk := by
  rw [remove] at ended ⊢
  dsimp only at ended ⊢
  cases first : (removeOne root isDry files disk summary id).summary with
  | error fault =>
      rw [first] at ended
      cases first.symm.trans ended
  | ok next =>
      rw [first] at ended
      exact ⟨next, rfl, ended, rfl⟩

/-- A removal adds failures and drops none. -/
theorem failures_prefix_of_removeOne {isDry : Bool} {id : Text}
    (ended : (removeOne root isDry files disk summary id).summary = .ok last) :
    summary.failures <+: last.failures := by
  unfold removeOne at ended
  split at ended
  · exact Except.ok.inj ended ▸ List.prefix_rfl
  · split_ifs at ended
    · exact Except.ok.inj ended ▸ List.prefix_rfl
    · split at ended
      · exact Except.ok.inj ended ▸ List.prefix_rfl
      · split_ifs at ended
        exact Except.ok.inj ended ▸ List.prefix_append _ _

/-- What did not work earlier is told in the end. -/
theorem failures_prefix_of_remove {isDry : Bool}
    (ended : (remove root isDry files disk summary ids).summary = .ok last) :
    summary.failures <+: last.failures := by
  induction ids generalizing disk summary with
  | nil => exact Except.ok.inj ended ▸ List.prefix_rfl
  | cons id ids inductionHypothesis =>
      obtain ⟨next, first, later, -⟩ := of_remove_cons ended
      exact (failures_prefix_of_removeOne first).trans (inductionHypothesis later)

/-- A removal clears the file of its issue, and changes nothing else. -/
theorem clearsTo_removeOne (book : disk.HasBook (pathOf home) home) {id : Text}
    (former : ∀ path ∈ files.get? id, IsFormer home path)
    (ended : (removeOne (pathOf home) false files disk summary id).summary = .ok last) :
    disk.ClearsTo (removeOne (pathOf home) false files disk summary id).disk
      ((files.get? id).toList.map Path.segments) := by
  unfold removeOne at ended ⊢
  cases found : files.get? id with
  | none => exact .refl disk
  | some path =>
      have step := clearsTo_deleteFile book (former path found)
      rw [found] at ended
      dsimp only at ended ⊢
      rw [if_neg Bool.false_ne_true] at ended ⊢
      rcases deleted : deleteFile disk (pathOf home) path with ⟨⟨notices, fault | done⟩, left⟩ <;>
        rw [deleted] at ended step
      · dsimp only at ended step ⊢
        split_ifs at ended ⊢
        exact step
      · exact step

/-- The files of issues that are to go are gone. -/
theorem clearsTo_remove (book : disk.HasBook (pathOf home) home)
    (formers : ∀ id ∈ ids, ∀ path ∈ files.get? id, IsFormer home path)
    (ended : (remove (pathOf home) false files disk summary ids).summary = .ok last) :
    disk.ClearsTo (remove (pathOf home) false files disk summary ids).disk
      (ids.flatMap fun id => (files.get? id).toList.map Path.segments) := by
  induction ids generalizing disk summary with
  | nil => exact .refl disk
  | cons id ids inductionHypothesis =>
      obtain ⟨own, others⟩ := List.forall_mem_cons.mp formers
      obtain ⟨next, first, later, same⟩ := of_remove_cons ended
      have step := clearsTo_removeOne book own first
      rw [same, List.flatMap_cons]
      exact step.trans (inductionHypothesis (book.evolves step.evolves) others later)

/-- Where no failure is told of a batch, all of it was written. -/
theorem of_makeWrites {hadFile : Text → Bool} (present : writing ≠ [])
    (ended : (makeWrites disk today root how hadFile writing summary).summary = .ok last)
    (worked : last.failures = []) :
    (Book.write disk today root how writing).fault = none ∧
      (Book.write disk today root how writing).report.failed = [] := by
  have told {failures : List Failure} (none : summary.failures ++ failures = []) : failures = [] :=
    (List.append_eq_nil_iff.mp none).2
  unfold makeWrites at ended
  dsimp only at ended
  cases fault : (Book.write disk today root how writing).fault with
  | some fault =>
      rw [‹(Book.write _ _ _ _ _).fault = _›] at ended
      dsimp only [allFailed] at ended
      split_ifs at ended
      obtain rfl := Except.ok.inj ended
      exact absurd (List.map_eq_nil_iff.mp (told worked)) present
  | none =>
      rw [fault] at ended
      obtain ⟨names, -, rfl⟩ := Fault.map_eq_ok.mp ended
      exact ⟨rfl, List.map_eq_nil_iff.mp (told worked)⟩

/-- Where no failure is told, every write that was planned was made. -/
theorem exists_trace_of_write (real : options.isDry = false)
    (ended : (write disk today options files writing summary).summary = .ok last)
    (worked : last.failures = []) : ∃ report : WriteReport,
      plannedWrites disk today options files writing = .ok (report.map Prod.fst) ∧
        (∀ step ∈ report, step.2.isWritten = true) ∧
        Trace options.todoRoot (ownFiles files writing) disk report
          (write disk today options files writing summary).disk := by
  unfold write at ended ⊢
  unfold plannedWrites
  by_cases none : writing.isEmpty
  · rw [if_pos none, if_pos none]
    exact ⟨[], rfl, List.forall_mem_nil _, .done⟩
  · rw [if_neg none] at ended
    rw [if_neg none, if_neg none]
    cases made : writeOptions disk options files writing with
    | error fault =>
        rw [made] at ended
        cases ended
    | ok how =>
        rw [made] at ended
        dsimp only [bind, Except.bind] at ended ⊢
        rw [if_neg (by simp [real])] at ended ⊢
        obtain ⟨returns, succeeds⟩ :=
          of_makeWrites (fun empty => none (List.isEmpty_iff.mpr empty)) ended worked
        rw [makeWrites_disk]
        unfold Book.write at returns succeeds ⊢
        cases planned : Book.plan disk today options.todoRoot how writing with
        | error fault =>
            rw [planned] at returns
            cases returns
        | ok planned =>
            rw [‹Book.plan _ _ _ _ _ = _›] at returns succeeds
            obtain ⟨trace, listed⟩ := trace_of_writeAll returns
            rw [previousPaths_of_writeOptions made] at *
            exact ⟨_, congrArg Except.ok listed.symm, isWritten_of_failed_eq_nil succeeds, trace⟩

/-- Every planned write is about its issue, and inside the home. -/
theorem inside_of_plannedWrites {planned : List PlannedWrite}
    (linkFree : disk.IsLinkFree options.todoRoot)
    (made : plannedWrites disk today options files writing = .ok planned) :
    planned.map PlannedWrite.issue = writing ∧ ∀ write ∈ planned, ∃ place : Place,
      write.path = pathOf place ∧ place.IsInside (disk.home options.todoRoot) := by
  unfold plannedWrites at made
  split_ifs at made with none
  · obtain rfl := Except.ok.inj made
    exact ⟨(List.isEmpty_iff.mp none).symm, List.forall_mem_nil _⟩
  · obtain ⟨how, -, made⟩ := Fault.bind_eq_ok.mp made
    exact (inside_of_plan linkFree made).2

/-- The files' part of a run that tells no failure renews the files of the book. -/
theorem renews_of_run (book : disk.IsBook home)
    (loaded : (load disk (pathOf home)).value = .ok entries)
    (distinct : ((entries.map Entry.issue).map Issue.id).Nodup)
    (root : options.todoRoot = pathOf home) (real : options.isDry = false)
    (ended : (run disk today options entries plan summary).summary = .ok last)
    (worked : last.failures = []) :
    ∃ writes, plannedWrites disk today options (filesById entries) plan.fileWrites = .ok writes ∧
      writes.map PlannedWrite.issue = plan.fileWrites ∧
      Renews disk (run disk today options entries plan summary).disk home entries writes
        plan.fileRemovals := by
  unfold run at ended ⊢
  dsimp only at ended ⊢
  cases written :
      (write disk today options (filesById entries) plan.fileWrites summary).summary with
  | error fault =>
      rw [written] at ended
      cases written.symm.trans ended
  | ok next =>
      rw [written, real, root] at ended
      dsimp only at ended ⊢
      -- Failures are only ever added, so the writes failed nowhere before the removals began.
      have early : next.failures = [] :=
        List.prefix_nil.mp (worked ▸ failures_prefix_of_remove ended)
      obtain ⟨report, planned, wrote, trace⟩ := exists_trace_of_write real written early
      obtain ⟨owners, inside⟩ := inside_of_plannedWrites (root ▸ book.linkFree) planned
      rw [root, book.home_pathOf] at inside
      rw [real, root]
      rw [root] at trace
      have steps : ∀ step ∈ report, ∃ place : Place,
          step.1.path = pathOf place ∧ place.IsInside home := fun step listed =>
        inside step.1 (List.mem_map_of_mem listed)
      have known (id : Text) (path : Path) :
          (ownFiles (filesById entries) plan.fileWrites).get? id = some path ↔
            (∃ step ∈ report, step.1.issue.id = id) ∧ ∃ entry ∈ entries, entry.issue.id = id ∧
              entry.path = path := by
        rw [get?_ownFiles, get?_filesById_eq_some distinct, ← owners, Issue.hasId_iff,
          List.map_map]
        simp only [List.mem_map, exists_exists_and_eq_and, Function.comp_apply]
      have within := isWithin_of_formers book loaded steps known
      have formers : ∀ id ∈ plan.fileRemovals, ∀ path ∈ (filesById entries).get? id,
          IsFormer home path := fun id _ path former => by
        obtain ⟨entry, listed, -, rfl⟩ := (get?_filesById_eq_some distinct).mp former
        obtain ⟨place, path, below, noZero, -⟩ := exists_place_of_mem_load book loaded listed
        exact ⟨place, path, below, noZero⟩
      have clears := clearsTo_remove (book.hasBook.evolves (trace.evolves book.hasBook within))
        formers ended
      refine ⟨_, planned, owners, renews_of_trace book loaded trace wrote steps known clears ?_⟩
      intro place
      simp only [List.mem_flatMap, List.mem_map, Option.mem_toList]
      constructor
      · rintro ⟨id, removal, path, former, rfl⟩
        obtain ⟨entry, listed, rfl, rfl⟩ := (get?_filesById_eq_some distinct).mp former
        obtain ⟨own, path, -⟩ := exists_place_of_mem_load book loaded listed
        exact ⟨entry, listed, removal, by rw [path]; rfl⟩
      · rintro ⟨entry, listed, removal, path⟩
        refine ⟨_, removal, entry.path, ?_, by rw [path]; rfl⟩
        exact (get?_filesById_eq_some distinct).mpr ⟨entry, listed, rfl, rfl⟩

/-- The files' part of a run that tells no failure leaves a book that can be loaded, and it holds
what the plan says exactly when the writes are harmless. -/
theorem load_run_iff (book : disk.IsBook home)
    (loaded : (load disk (pathOf home)).value = .ok entries)
    (distinct : ((entries.map Entry.issue).map Issue.id).Nodup) (once : plan.ActsOnce)
    (carried : ∀ issue ∈ plan.fileWrites, issue.IsCarried)
    (root : options.todoRoot = pathOf home) (real : options.isDry = false)
    (ended : (run disk today options entries plan summary).summary = .ok last)
    (worked : last.failures = []) :
    ∃ writes after,
      plannedWrites disk today options (filesById entries) plan.fileWrites = .ok writes ∧
      (load (run disk today options entries plan summary).disk (pathOf home)).value = .ok after ∧
      ((ReconcileOptions.filesAfter plan (entries.map Entry.issue)).AreListed
        (after.map Entry.issue) ↔ IsHarmless entries writes) := by
  obtain ⟨writes, planned, owners, renews⟩ :=
    renews_of_run book loaded distinct root real ended worked
  have sound : ∀ write ∈ writes, write.issue.IsCarried := fun write listed =>
    carried _ (Renews.mem_fileWrites owners listed)
  obtain ⟨after, again⟩ := renews.exists_load book sound loaded
  refine ⟨writes, after, planned, again, fun agreed => ?_, fun harmless => ?_⟩
  · exact renews.isHarmless_of_areListed book loaded once owners sound again distinct agreed
  · exact renews.areListed_of_isHarmless book loaded once owners sound again harmless distinct

end FilePhase

end Issuebook
