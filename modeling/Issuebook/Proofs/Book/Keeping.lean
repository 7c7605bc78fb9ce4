import Issuebook.Proofs.Book.Steps
import Issuebook.Proofs.Document.Restoration

/-!
# What a batch keeps

A batch that is written keeps every issue, the written ones in their new files and the others in
their former ones, exactly when its order lets it: no issue is written to a place that an earlier
one was written to, no issue loses as its former file what was written for an earlier one, and
what overwrites the former file of an issue that fails has the same content.
-/

namespace Issuebook

/-- The document of a planned issue. -/
def PlannedWrite.document (planned : PlannedWrite) : Text :=
  (planned.issue.withSource .file).toDocument

/-- Whether the file of an issue was written. -/
def WriteOutcome.isWritten : WriteOutcome → Bool
  | .written _ => true
  | .failed _ => false

namespace WriteReport

/-- Every issue that was written is in its new file, and every other in its former one. -/
structure KeepsIssues (report : WriteReport) (previous : Entries Path) (before after : Disk) :
    Prop where
  /-- New files hold the documents of their issues. -/
  written : ∀ entry ∈ report, entry.2.isWritten = true →
    after.content? entry.1.path = some (.text entry.1.document)
  /-- Former files of issues that failed hold what they held. -/
  failed : ∀ entry ∈ report, entry.2.isWritten = false →
    ∀ path ∈ previous.get? entry.1.issue.id, after.content? path = before.content? path

/-- The order of a batch does no harm. -/
structure IsOrderly (report : WriteReport) (previous : Entries Path) (before : Disk) : Prop where
  /-- No issue is written over an earlier one or has its file as the former one. -/
  apart : report.Pairwise fun earlier later =>
    earlier.2.isWritten = true → later.2.isWritten = true →
      later.1.path ≠ earlier.1.path ∧
        previous.get? later.1.issue.id ≠ some earlier.1.path
  /-- What is written over the former file of an issue that failed was there before. -/
  spared : ∀ failed ∈ report, failed.2.isWritten = false →
    ∀ writer ∈ report, writer.2.isWritten = true →
      previous.get? failed.1.issue.id = some writer.1.path →
        before.content? writer.1.path = some (.text writer.1.document)

end WriteReport

namespace Book

open Disk

variable {disk left : Disk} {root : Path} {home place : Place} {previous : Entries Path}
  {report front back : WriteReport} {content : Content}

/-- The steps of a batch that led from one disk to another. -/
inductive Trace (root : Path) (previous : Entries Path) : Disk → WriteReport → Disk → Prop where
  /-- Nothing was to do. -/
  | done {disk : Disk} : Trace root previous disk [] disk
  /-- An issue was tried first. -/
  | step {disk next left : Disk} {planned : PlannedWrite} {outcome : WriteOutcome}
      {report : WriteReport} (tried : writeOne disk root previous planned = (.ok outcome, next))
      (later : Trace root previous next report left) :
      Trace root previous disk ((planned, outcome) :: report) left

/-- A batch that comes to its end leaves a trace of all its writes. -/
theorem trace_of_writeAll {planned : List PlannedWrite}
    (returns : (writeAll disk root previous planned).fault = none) :
    Trace root previous disk (writeAll disk root previous planned).report
        (writeAll disk root previous planned).disk ∧
      (writeAll disk root previous planned).report.map Prod.fst = planned := by
  induction planned generalizing disk with
  | nil => exact ⟨.done, rfl⟩
  | cons write planned inductionHypothesis =>
      rw [writeAll] at returns ⊢
      split at returns
      · cases returns
      · rename_i outcome next tried
        obtain ⟨later, own⟩ := inductionHypothesis returns
        exact ⟨.step tried later, congrArg (write :: ·) own⟩

/-- A trace is one part behind the other. -/
theorem Trace.split (trace : Trace root previous disk (front ++ back) left) :
    ∃ middle, Trace root previous disk front middle ∧ Trace root previous middle back left := by
  induction front generalizing disk with
  | nil => exact ⟨disk, .done, trace⟩
  | cons entry front inductionHypothesis =>
      cases trace with
      | step tried later =>
          obtain ⟨middle, first, second⟩ := inductionHypothesis later
          exact ⟨middle, .step tried first, second⟩

/-- The files of a report and the former ones are inside the book. -/
structure IsWithin (home : Place) (previous : Entries Path) (report : WriteReport) : Prop where
  /-- Planned files are inside. -/
  planned : ∀ entry ∈ report, ∃ place : Place,
    entry.1.path = pathOf place ∧ place.IsInside home
  /-- Former files are inside. -/
  formers : ∀ id, ∀ path ∈ previous.get? id, IsFormer home path

/-- The rest of a batch inside a home is inside. -/
theorem IsWithin.tail {entry : PlannedWrite × WriteOutcome}
    (within : IsWithin home previous (entry :: report)) : IsWithin home previous report :=
  ⟨fun other present => within.planned other (List.mem_cons_of_mem entry present),
    within.formers⟩

/-- So are both parts of it. -/
theorem IsWithin.parts (within : IsWithin home previous (front ++ back)) :
    IsWithin home previous front ∧ IsWithin home previous back :=
  ⟨⟨fun entry present => within.planned entry (List.mem_append_left back present),
      within.formers⟩,
    ⟨fun entry present => within.planned entry (List.mem_append_right front present),
      within.formers⟩⟩

/-- What a step does: it fails and adds directories at most, or it writes. -/
theorem step_cases (book : disk.HasBook root home) {planned : PlannedWrite}
    {outcome : WriteOutcome} (within : IsWithin home previous ((planned, outcome) :: report))
    (tried : writeOne disk root previous planned = (.ok outcome, left)) :
    (outcome.isWritten = false ∧ disk.GrowsTo left) ∨
      (outcome.isWritten = true ∧ ∃ place : Place, planned.path = pathOf place ∧
        Writes disk left place planned.document (previous.get? planned.issue.id)) := by
  obtain ⟨place, target, inside⟩ := within.planned _ List.mem_cons_self
  rcases writeOne_cases book inside target (within.formers planned.issue.id) tried with
    ⟨⟨fault, rfl⟩, grows⟩ | ⟨⟨stale, rfl⟩, writes⟩
  · exact .inl ⟨rfl, grows⟩
  · exact .inr ⟨rfl, place, target, writes⟩

/-- A disk evolves along a trace. -/
theorem Trace.evolves (trace : Trace root previous disk report left)
    (book : disk.HasBook root home) (within : IsWithin home previous report) :
    disk.EvolvesTo left := by
  induction trace with
  | done => exact EvolvesTo.refl _
  | step tried later inductionHypothesis =>
      rcases step_cases book within tried with ⟨-, grows⟩ | ⟨-, place, -, writes⟩
      · exact grows.evolvesTo.trans
          (inductionHypothesis (book.evolves grows.evolvesTo) within.tail)
      · exact writes.evolves.trans (inductionHypothesis (book.evolves writes.evolves) within.tail)

/-- A file that no issue loses, and that no issue is written over with another content, stays. -/
theorem Trace.keeps_file (trace : Trace root previous disk report left)
    (book : disk.HasBook root home) (within : IsWithin home previous report)
    (present : disk.node? place = some (.file content))
    (spared : ∀ entry ∈ report, entry.2.isWritten = true →
      previous.get? entry.1.issue.id ≠ some (pathOf place) ∧
        (entry.1.path = pathOf place → content = .text entry.1.document)) :
    left.node? place = some (.file content) := by
  induction trace with
  | done => exact present
  | step tried later inductionHypothesis =>
      obtain ⟨here, after⟩ := List.forall_mem_cons.mp spared
      rcases step_cases book within tried with ⟨-, grows⟩ | ⟨wrote, target, path, writes⟩
      · exact inductionHypothesis (book.evolves grows.evolvesTo) within.tail
          (grows.keeps present) after
      · refine inductionHypothesis (book.evolves writes.evolves) within.tail ?_ after
        obtain ⟨own, onto⟩ := here wrote
        by_cases same : place = target
        · rw [onto (path.trans (congrArg pathOf same.symm)), same]
          exact writes.written
        · exact writes.keeps same own present

/-- A file that is there holds what an issue was written with, or was there before. -/
theorem Trace.file_cases (trace : Trace root previous disk report left)
    (book : disk.HasBook root home) (within : IsWithin home previous report)
    (present : left.node? place = some (.file content)) :
    (∃ entry ∈ report, entry.2.isWritten = true ∧ entry.1.path = pathOf place ∧
        content = .text entry.1.document) ∨
      (∀ entry ∈ report, entry.2.isWritten = true → entry.1.path ≠ pathOf place) ∧
        disk.node? place = some (.file content) := by
  induction trace with
  | done => exact .inr ⟨List.forall_mem_nil _, present⟩
  | step tried later inductionHypothesis =>
      rcases step_cases book within tried with ⟨failed, grows⟩ | ⟨wrote, target, path, writes⟩
      · rcases inductionHypothesis (book.evolves grows.evolvesTo) within.tail present with
          ⟨entry, listed, written⟩ | ⟨unwritten, next⟩
        · exact .inl ⟨entry, List.mem_cons_of_mem _ listed, written⟩
        · refine .inr ⟨List.forall_mem_cons.mpr ⟨fun impossible => ?_, unwritten⟩,
            (grows.adds next).resolve_right (by simp)⟩
          exact absurd (failed.symm.trans impossible) (by decide)
      · rcases inductionHypothesis (book.evolves writes.evolves) within.tail present with
          ⟨entry, listed, written⟩ | ⟨unwritten, next⟩
        · exact .inl ⟨entry, List.mem_cons_of_mem _ listed, written⟩
        · by_cases same : place = target
          · subst same
            refine .inl ⟨_, List.mem_cons_self, wrote, path, ?_⟩
            exact Node.file.inj (Option.some.inj (next.symm.trans writes.written))
          · refine .inr ⟨List.forall_mem_cons.mpr ⟨fun _ own => ?_, unwritten⟩,
              (writes.adds same next).resolve_right (by simp)⟩
            exact same (pathOf_injective (own.symm.trans path))

/-- A file that no issue was written to was there before. -/
theorem Trace.file_before (trace : Trace root previous disk report left)
    (book : disk.HasBook root home) (within : IsWithin home previous report)
    (present : left.node? place = some (.file content))
    (unwritten : ∀ entry ∈ report, entry.2.isWritten = true → entry.1.path ≠ pathOf place) :
    disk.node? place = some (.file content) := by
  rcases trace.file_cases book within present with ⟨entry, listed, wrote, path, -⟩ | ⟨-, before⟩
  · exact absurd path (unwritten entry listed wrote)
  · exact before

/-- The former file of an issue that was written is gone, unless an issue was written to it. -/
theorem Trace.former_gone (trace : Trace root previous disk report left)
    (book : disk.HasBook root home) (within : IsWithin home previous report)
    {entry : PlannedWrite × WriteOutcome} (present : entry ∈ report)
    (written : entry.2.isWritten = true)
    (former : previous.get? entry.1.issue.id = some (pathOf place)) (reaches : disk.Reaches place)
    (unwritten : ∀ other ∈ report, other.2.isWritten = true → other.1.path ≠ pathOf place)
    (content : Content) : left.node? place ≠ some (.file content) := by
  obtain ⟨front, back, rfl⟩ := List.append_of_mem present
  obtain ⟨middle, first, rest⟩ := trace.split
  obtain ⟨withinFront, withinBack⟩ := within.parts
  have evolves := first.evolves book withinFront
  have own := unwritten entry present written
  cases rest with
  | step tried last =>
      have bookLater := book.evolves evolves
      rcases step_cases bookLater withinBack tried with ⟨failed, -⟩ | ⟨-, target, path, writes⟩
      · exact absurd (failed.symm.trans written) (by decide)
      · have apart : place ≠ target := fun same =>
          own (path.trans (congrArg pathOf same.symm))
        have gone := writes.removes apart former (reaches.evolves evolves) content
        refine fun held => gone (last.file_before (bookLater.evolves writes.evolves)
          withinBack.tail held fun other listed => unwritten other ?_)
        exact List.mem_append_right _ (List.mem_cons_of_mem _ listed)

/-- In an orderly batch written issues stay where they were written. -/
theorem Trace.written_of_apart (trace : Trace root previous disk report left)
    (book : disk.HasBook root home) (within : IsWithin home previous report)
    (apart : report.Pairwise fun earlier later =>
      earlier.2.isWritten = true → later.2.isWritten = true →
        later.1.path ≠ earlier.1.path ∧ previous.get? later.1.issue.id ≠ some earlier.1.path) :
    ∀ entry ∈ report, entry.2.isWritten = true →
      left.content? entry.1.path = some (.text entry.1.document) := by
  induction trace with
  | done => exact fun entry impossible => absurd impossible List.not_mem_nil
  | step tried later inductionHypothesis =>
      obtain ⟨here, after⟩ := List.pairwise_cons.mp apart
      rcases step_cases book within tried with ⟨failed, grows⟩ | ⟨wrote, target, path, writes⟩
      · have next := book.evolves grows.evolvesTo
        refine List.forall_mem_cons.mpr ⟨fun impossible => ?_,
          inductionHypothesis next within.tail after⟩
        exact absurd (failed.symm.trans impossible) (by decide)
      · have next := book.evolves writes.evolves
        refine List.forall_mem_cons.mpr ⟨fun _ => ?_, inductionHypothesis next within.tail after⟩
        rw [content?_eq_some, path]
        refine later.keeps_file next within.tail writes.written fun entry present written => ?_
        obtain ⟨other, kept⟩ := here entry present wrote written
        rw [path] at other kept
        exact ⟨kept, fun same => absurd same other⟩

/-- Two documents held by one file are of one identifier. -/
theorem id_eq_of_path_eq {one other : PlannedWrite}
    (oneHeld : left.content? one.path = some (.text one.document))
    (otherHeld : left.content? other.path = some (.text other.document))
    (same : one.path = other.path) : one.issue.id = other.issue.id := by
  rw [same] at oneHeld
  have documents := Content.text.inj (Option.some.inj (oneHeld.symm.trans otherHeld))
  have ids : (one.issue.withSource .file).id = (other.issue.withSource .file).id :=
    Issue.id_eq_of_toDocument_eq documents
  exact ids

/-- A batch whose written issues all stay was orderly. -/
theorem Trace.apart_of_written (trace : Trace root previous disk report left)
    (book : disk.HasBook root home) (within : IsWithin home previous report)
    (distinct : (report.map fun entry => entry.1.issue.id).Nodup)
    (held : ∀ entry ∈ report, entry.2.isWritten = true →
      left.content? entry.1.path = some (.text entry.1.document)) :
    report.Pairwise fun earlier later =>
      earlier.2.isWritten = true → later.2.isWritten = true →
        later.1.path ≠ earlier.1.path ∧ previous.get? later.1.issue.id ≠ some earlier.1.path := by
  induction trace with
  | done => exact .nil
  | @step _ _ _ _ _ others tried later inductionHypothesis =>
      obtain ⟨heldHere, heldAfter⟩ := List.forall_mem_cons.mp held
      obtain ⟨absent, distinctAfter⟩ := List.nodup_cons.mp distinct
      rcases step_cases book within tried with ⟨failed, grows⟩ | ⟨wrote, place, path, writes⟩
      · refine .cons (fun entry present impossible => ?_)
          (inductionHypothesis (book.evolves grows.evolvesTo) within.tail distinctAfter heldAfter)
        exact absurd (failed.symm.trans impossible) (by decide)
      · have next := book.evolves writes.evolves
        refine .cons (fun entry present _ written => ?_)
          (inductionHypothesis next within.tail distinctAfter heldAfter)
        have own := heldHere wrote
        -- Another issue that was written to the place would have the same identifier.
        have alone {other : PlannedWrite × WriteOutcome} (listed : other ∈ others)
            (otherWritten : other.2.isWritten = true) : other.1.path ≠ pathOf place := by
          intro same
          have equal := id_eq_of_path_eq (heldAfter other listed otherWritten) own
            (same.trans path.symm)
          exact absent (List.mem_map.mpr ⟨other, listed, equal⟩)
        rw [path]
        refine ⟨alone present written, fun former => ?_⟩
        rw [content?_eq_some, path] at own
        exact later.former_gone next within.tail present written former writes.reaches
          (fun _ listed => alone listed) _ own

/-- Along a trace every issue keeps a file exactly when the batch is orderly. -/
theorem Trace.keepsIssues_iff (trace : Trace root previous disk report left)
    (book : disk.HasBook root home) (within : IsWithin home previous report)
    (distinct : (report.map fun entry => entry.1.issue.id).Nodup)
    (current : ∀ id, ∀ path ∈ previous.get? id, (disk.content? path).isSome = true)
    (own : ∀ id other, ∀ path ∈ previous.get? id, path ∈ previous.get? other → other = id) :
    report.KeepsIssues previous disk left ↔ report.IsOrderly previous disk := by
  constructor
  · intro keeps
    refine ⟨trace.apart_of_written book within distinct keeps.written, ?_⟩
    intro failed failedPresent notWritten writer writerPresent written former
    rw [← keeps.failed failed failedPresent notWritten _ former]
    exact keeps.written writer writerPresent written
  · intro orderly
    refine ⟨trace.written_of_apart book within orderly.apart, ?_⟩
    intro entry present notWritten path former
    obtain ⟨place, rfl, -, -⟩ := within.formers _ path former
    obtain ⟨content, held⟩ := Option.isSome_iff_exists.mp (current _ _ former)
    have there : disk.node? place = some (.file content) := content?_eq_some.mp held
    rw [held]
    refine content?_eq_some.mpr ?_
    change left.node? place = some (.file content)
    refine trace.keeps_file book within there fun other listed written => ?_
    refine ⟨fun same => ?_, fun onto => ?_⟩
    · have ids := own _ _ _ former same
      obtain rfl := List.inj_on_of_nodup_map distinct listed present ids
      exact absurd (notWritten.symm.trans written) (by decide)
    · have spared := orderly.spared entry present notWritten other listed written
        (former.trans (congrArg some onto.symm))
      rw [onto, held] at spared
      exact Option.some.inj spared

/-- A batch that comes to its end keeps every issue, on a disk without links in the book and
with the current file of each issue as its former one, exactly when it was orderly. Any place may
refuse to be written. -/
theorem write_keepsIssues_iff (disk : Disk) (today : Date) (root : Path) (options : WriteOptions)
    (issues : List Issue) (linkFree : disk.IsLinkFree root)
    (permits : ∀ place, disk.refuses .remove place = none)
    (distinct : (issues.map Issue.id).Nodup)
    (current : ∀ id, ∀ path ∈ options.previousPaths.get? id,
      disk.ensureWithin root path = .ok path ∧ (disk.content? path).isSome = true)
    (own : ∀ id other, ∀ path ∈ options.previousPaths.get? id,
      path ∈ options.previousPaths.get? other → other = id)
    (returns : (write disk today root options issues).fault = none) :
    ((write disk today root options issues).report.map fun entry => entry.1.issue) = issues ∧
      ((write disk today root options issues).report.KeepsIssues options.previousPaths disk
          (write disk today root options issues).disk ↔
        (write disk today root options issues).report.IsOrderly options.previousPaths disk) := by
  unfold write at returns ⊢
  split at returns
  · cases returns
  · rename_i planned made
    obtain ⟨noZero, owners, inside⟩ := inside_of_plan linkFree made
    obtain ⟨trace, listed⟩ := trace_of_writeAll returns
    have book : disk.HasBook root (disk.home root) := ⟨rfl, linkFree, noZero, permits⟩
    have within : IsWithin (disk.home root) options.previousPaths
        (writeAll disk root options.previousPaths planned).report := by
      refine ⟨fun entry present => ?_, fun id path former => ?_⟩
      · exact inside entry.1 (listed ▸ List.mem_map_of_mem present)
      · obtain ⟨-, clear, place, clean, below, apart, rfl⟩ :=
          of_ensureWithin linkFree (current id path former).1
        exact ⟨place, rfl, ⟨clean, below, apart rfl⟩, clear⟩
    have issuesListed : (writeAll disk root options.previousPaths planned).report.map
        (fun entry => entry.1.issue) = issues := by
      have owned := congrArg (List.map PlannedWrite.issue) listed
      rw [List.map_map, owners] at owned
      exact owned
    refine ⟨issuesListed, trace.keepsIssues_iff book within ?_ ?_ own⟩
    · rw [← issuesListed, List.map_map] at distinct
      exact distinct
    · exact fun id path former => (current id path former).2

/-- A directory of three issue files. -/
def shelf : Disk where
  nodes :=
    [(["p"], .directory), (["p", "book"], .directory),
      (["p", "book", "a.md"], .file (.text "first")),
      (["p", "book", "b.md"], .file (.text "second")),
      (["p", "book", "c.md"], .file (.text "third"))]

/-- The directory with its issue files, one of which cannot be written. -/
def guardedShelf : Disk :=
  { shelf with refuses := fun access place =>
      if access = .write ∧ place = ["p", "book", "e.md"] then some .forbidden else none }

/-- The path of a file in the directory. -/
def shelfFile (name : Text) : Path :=
  ⟨.root, ["p", "book", name]⟩

/-- Files are named by the titles of their issues. -/
def byTitle : WriteOptions where
  pattern := "[title].md"
  previousPaths := [("1", shelfFile "a.md"), ("2", shelfFile "b.md"), ("3", shelfFile "c.md")]

/-- An issue with an identifier and a title. -/
def titled (id title : Text) : Issue where
  id := id
  title := title
  description := none
  status := .opened
  kind := .task
  priority := .standard
  labels := none
  assignee := none
  createdAt := none
  updatedAt := none
  closedAt := none
  dependsOn := none
  blocks := none
  children := none
  parent := none
  source := none

/-- Of files that are all different each is the former one of one issue only. -/
theorem own_of_distinct (distinct : (previous.map Prod.snd).Nodup) (id other : Text) (path : Path)
    (former : path ∈ previous.get? id) (otherFormer : path ∈ previous.get? other) : other = id :=
  congrArg Prod.fst (List.inj_on_of_nodup_map distinct (Entries.mem_of_get? otherFormer)
    (Entries.mem_of_get? former) rfl)

/-- A batch in which one issue takes over the name of another, and keeps all. -/
theorem handedOver_kept :
    let batch := [titled "2" "d", titled "1" "b", titled "3" "e"]
    let run := write guardedShelf ⟨2024, 1, 1⟩ ⟨.root, ["p", "book"]⟩ byTitle batch
    run.fault = none ∧ run.report.KeepsIssues byTitle.previousPaths guardedShelf run.disk := by
  have there : ∀ entry ∈ byTitle.previousPaths,
      guardedShelf.ensureWithin ⟨.root, ["p", "book"]⟩ entry.2 = .ok entry.2 ∧
        (guardedShelf.content? entry.2).isSome = true := by
    decide +kernel
  refine ⟨by decide +kernel, ?_⟩
  refine (write_keepsIssues_iff guardedShelf ⟨2024, 1, 1⟩ ⟨.root, ["p", "book"]⟩ byTitle _
    (.of_linkCount (by decide) _) (fun _ => rfl) (by decide)
    (fun id path former => there (id, path) (Entries.mem_of_get? former))
    (own_of_distinct (by decide)) (by decide +kernel)).2.mpr ?_
  exact ⟨by decide +kernel, by decide +kernel⟩

/-- A batch in which two issues swap their names, and one is lost. -/
theorem swapped_not_kept :
    let batch := [titled "1" "b", titled "2" "a"]
    let run := write shelf ⟨2024, 1, 1⟩ ⟨.root, ["p", "book"]⟩ byTitle batch
    shelf.IsLinkFree ⟨.root, ["p", "book"]⟩ ∧ (batch.map Issue.id).Nodup ∧
      (∀ id, ∀ path ∈ byTitle.previousPaths.get? id,
        shelf.ensureWithin ⟨.root, ["p", "book"]⟩ path = .ok path ∧
          (shelf.content? path).isSome = true) ∧
      (∀ id other, ∀ path ∈ byTitle.previousPaths.get? id,
        path ∈ byTitle.previousPaths.get? other → other = id) ∧
      run.fault = none ∧ ¬ run.report.KeepsIssues byTitle.previousPaths shelf run.disk := by
  have there : ∀ entry ∈ byTitle.previousPaths,
      shelf.ensureWithin ⟨.root, ["p", "book"]⟩ entry.2 = .ok entry.2 ∧
        (shelf.content? entry.2).isSome = true := by
    decide +kernel
  refine ⟨.of_linkCount (by decide) _, by decide,
    fun id path former => there (id, path) (Entries.mem_of_get? former),
    own_of_distinct (by decide), by decide +kernel, fun keeps => ?_⟩
  have lost : ¬ ∀ entry ∈ (write shelf ⟨2024, 1, 1⟩ ⟨.root, ["p", "book"]⟩ byTitle
      [titled "1" "b", titled "2" "a"]).report, entry.2.isWritten = true →
      (write shelf ⟨2024, 1, 1⟩ ⟨.root, ["p", "book"]⟩ byTitle
        [titled "1" "b", titled "2" "a"]).disk.content? entry.1.path =
          some (.text entry.1.document) := by
    decide +kernel
  exact lost keeps.written

end Book

end Issuebook
