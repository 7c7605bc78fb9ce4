import Issuebook.Proofs.Book.Entries

/-!
# What renews the files of a book

A batch that writes every issue, and removals behind it: which files are there then, and what is in
them (`renews_of_trace`). The book can be loaded afterwards, and each entry is that of an issue that
was written, or was there before: `Renews.of_mem_load`.
-/

namespace Issuebook

namespace Disk

variable {disk left last : Disk} {place : Place} {gone others : List Place}

/-- A disk on which nothing is new, and files at some places are gone. -/
structure ClearsTo (disk left : Disk) (gone : List Place) : Prop where
  /-- Directories stay, and no link is new. -/
  evolves : disk.EvolvesTo left
  /-- Nothing is new. -/
  stays : ∀ {place node}, left.node? place = some node → disk.node? place = some node
  /-- What is at other places stays. -/
  keeps : ∀ {place node}, place ∉ gone → disk.node? place = some node →
    left.node? place = some node
  /-- A file that is reached at one of the places is gone. -/
  clears : ∀ place ∈ gone, disk.Reaches place → ∀ content, left.node? place ≠ some (.file content)
  /-- No place is listed twice. -/
  distinct : ∀ {start}, (disk.inner start).Nodup → (left.inner start).Nodup

namespace ClearsTo

/-- Nothing is cleared by staying. -/
theorem refl (disk : Disk) : disk.ClearsTo disk [] where
  evolves := .refl disk
  stays := id
  keeps _ := id
  clears _ impossible := absurd impossible List.not_mem_nil
  distinct := id

/-- Clearing goes on. -/
theorem trans (first : disk.ClearsTo left gone) (second : left.ClearsTo last others) :
    disk.ClearsTo last (gone ++ others) where
  evolves := first.evolves.trans second.evolves
  stays present := first.stays (second.stays present)
  keeps {place node} apart present := by
    rw [List.mem_append, not_or] at apart
    exact second.keeps apart.2 (first.keeps apart.1 present)
  clears := List.forall_mem_append.mpr
    ⟨fun place listed reaches content held =>
        first.clears place listed reaches content (second.stays held),
      fun place listed reaches => second.clears place listed (reaches.evolves first.evolves)⟩
  distinct before := second.distinct (first.distinct before)

/-- What is dropped is cleared. -/
theorem drop (free : disk.node? place ≠ some .directory) :
    disk.ClearsTo (disk.drop place) [place] := by
  have gone : (disk.drop place).node? place = none :=
    node?_drop_same (by rintro rfl; exact free rfl)
  constructor
  case evolves => exact evolvesTo_drop free
  case stays =>
    intro other node present
    by_cases same : other = place
    · rw [same, gone] at present
      cases present
    · rwa [node?_drop_other same] at present
  case keeps =>
    intro other node apart present
    rwa [node?_drop_other (List.mem_singleton.not.mp apart)]
  case clears =>
    refine List.forall_mem_singleton.mpr fun _ content held => ?_
    rw [gone] at held
    cases held
  case distinct => exact nodup_inner_drop

/-- So is what was not there. -/
theorem of_absent
    (absent : disk.Reaches place → ∀ content, disk.node? place ≠ some (.file content)) :
    disk.ClearsTo disk [place] where
  evolves := .refl disk
  stays := id
  keeps _ := id
  clears := List.forall_mem_singleton.mpr absent
  distinct := id

/-- Clearing spreads no file. -/
theorem spreadsTo (clears : disk.ClearsTo left gone) : disk.SpreadsTo left [] where
  evolves := clears.evolves
  adds _ present := .inl (clears.stays present)
  onWay taken := by
    obtain ⟨node, present⟩ := Option.ne_none_iff_exists'.mp taken
    exact .inl (by simp [clears.stays present])
  distinct := clears.distinct
  reached _ impossible := absurd impossible List.not_mem_nil

end ClearsTo

end Disk

namespace Book

open Disk

variable {disk between left : Disk} {home place : Place} {names : List Text}
  {entries : List Entry} {entry : Entry} {content : Content} {path : Path}
  {previous : Entries Path} {report : WriteReport} {writes : List PlannedWrite}
  {removals : List Text} {gone : List Place}

/-- The file of a book is gone when it is deleted. -/
theorem clearsTo_deleteFile (book : disk.HasBook (pathOf home) home) (former : IsFormer home path) :
    disk.ClearsTo (deleteFile disk (pathOf home) path).2 [path.segments] := by
  obtain ⟨place, rfl, inside, noZero⟩ := former
  have same : (deleteFile disk (pathOf home) (pathOf place)).2 =
      (removeFile disk (pathOf home) (pathOf place)).2 := by
    unfold deleteFile
    split <;> next removed => rw [removed]
  rw [same, removeFile_pathOf book inside noZero]
  rcases remove_pathOf inside.clean (book.hasNoLink inside) noZero (book.permits place)
    (Prod.eta _).symm with ⟨free, drops⟩ | ⟨stays, absent⟩
  · rw [drops]
    exact .drop free
  · rw [stays]
    exact .of_absent absent

/-- The former file of an entry is one that the book can have, and is reached. -/
theorem exists_place_of_mem_load (book : disk.IsBook home)
    (loaded : (load disk (pathOf home)).value = .ok entries) (listed : entry ∈ entries) :
    ∃ place : Place, entry.path = pathOf place ∧ place.IsInside home ∧
      hasZero (pathOf place) = false ∧ disk.Reaches place := by
  obtain ⟨names, content, written, path, file, -⟩ := (mem_load_iff book loaded).mp listed
  refine ⟨home ++ names, path, book.isInside file.mem_inner, book.hasZero_append file.mem_inner,
    isShort_of_load book loaded file, book.reached.passes.append ?_⟩
  exact (book.within names file.mem_inner).1

/-- The order of writes does no harm: none goes where an earlier one went, and none loses what was
written there before as its former file. -/
def AreApart (entries : List Entry) (writes : List PlannedWrite) : Prop :=
  writes.Pairwise fun earlier later => later.path ≠ earlier.path ∧
    ∀ entry ∈ entries, entry.issue.id = later.issue.id → entry.path ≠ earlier.path

/-- What writes and removals make of the files of a book with some entries. -/
structure Renews (disk left : Disk) (home : Place) (entries : List Entry)
    (writes : List PlannedWrite) (removals : List Text) : Prop where
  /-- Nothing is new but what is at planned places, and directories on the way there. -/
  spreads : disk.SpreadsTo left (writes.map fun write => write.path.segments)
  /-- Planned places are inside the book. -/
  inside : ∀ write ∈ writes, Place.IsInside write.path.segments home ∧
    write.path = pathOf write.path.segments
  /-- What is in a file was written to it, or the file was there before, and is not one that an
  issue lost. -/
  origin : ∀ {place content}, left.node? place = some (.file content) →
    (∀ entry ∈ entries, entry.path = pathOf place → entry.issue.id ∉ removals) ∧
      ((∃ write ∈ writes, write.path = pathOf place ∧ content = .text write.document) ∨
        (∀ write ∈ writes, write.path ≠ pathOf place) ∧ disk.node? place = some (.file content) ∧
          ∀ entry ∈ entries, entry.path = pathOf place →
            ∀ write ∈ writes, write.issue.id ≠ entry.issue.id)
  /-- The file of an issue that is neither written nor removed stays, if none is written to it. -/
  kept : ∀ {place content}, disk.node? place = some (.file content) →
    (∀ write ∈ writes, write.path ≠ pathOf place) →
    (∀ entry ∈ entries, entry.path = pathOf place → entry.issue.id ∉ removals ∧
      ∀ write ∈ writes, write.issue.id ≠ entry.issue.id) →
    left.node? place = some (.file content)
  /-- Where the order does no harm, written issues are in their files, if those are not removed. -/
  written : AreApart entries writes → ∀ write ∈ writes,
    (∀ entry ∈ entries, entry.path = write.path → entry.issue.id ∉ removals) →
    left.content? write.path = some (.text write.document)
  /-- Where all of them are, the order did no harm. -/
  apart : (writes.map fun write => write.issue.id).Nodup →
    (∀ write ∈ writes, left.content? write.path = some (.text write.document)) →
    AreApart entries writes

section Trace

variable (book : disk.IsBook home) (loaded : (load disk (pathOf home)).value = .ok entries)
  (trace : Trace (pathOf home) previous disk report between)
  (wrote : ∀ step ∈ report, step.2.isWritten = true)
  (inside : ∀ step ∈ report, ∃ place : Place,
    step.1.path = pathOf place ∧ place.IsInside home)
  (formers : ∀ id path, previous.get? id = some path ↔
    (∃ step ∈ report, step.1.issue.id = id) ∧ ∃ entry ∈ entries, entry.issue.id = id ∧
      entry.path = path)
  (clears : between.ClearsTo left gone)
  (removed : ∀ place, place ∈ gone ↔
    ∃ entry ∈ entries, entry.issue.id ∈ removals ∧ entry.path = pathOf place)
include formers

/-- Entries are apart from the files of a batch exactly when no write takes over a file written
before, and none removes one. -/
theorem areApart_iff (wrote : ∀ step ∈ report, step.2.isWritten = true) :
    AreApart entries (report.map Prod.fst) ↔ report.Pairwise fun earlier later =>
      earlier.2.isWritten = true → later.2.isWritten = true →
        later.1.path ≠ earlier.1.path ∧
          previous.get? later.1.issue.id ≠ some earlier.1.path := by
  rw [AreApart, List.pairwise_map]
  refine ⟨fun apart => ?_, fun apart => ?_⟩
  · refine apart.imp fun {earlier later} both _ _ => ⟨both.1, fun former => ?_⟩
    obtain ⟨-, entry, listed, same, path⟩ := (formers _ _).mp former
    exact both.2 entry listed same path
  · refine apart.imp_of_mem fun {earlier later} first second both => ?_
    obtain ⟨other, kept⟩ := both (wrote earlier first) (wrote later second)
    refine ⟨other, fun entry listed same path => kept ?_⟩
    exact (formers _ _).mpr ⟨⟨later, second, rfl⟩, entry, listed, same, path⟩

include book loaded inside

/-- A batch whose earlier files are inside is inside. -/
theorem isWithin_of_formers : IsWithin home previous report where
  planned := inside
  formers id path former := by
    obtain ⟨-, entry, listed, -, rfl⟩ := (formers id path).mp former
    obtain ⟨place, path, below, noZero, -⟩ := exists_place_of_mem_load book loaded listed
    exact ⟨place, path, below, noZero⟩

include trace wrote

/-- The former file of an issue that was written is gone, unless one was written to it. -/
theorem former_gone_of_entry {step : PlannedWrite × WriteOutcome} (stepped : step ∈ report)
    (listed : entry ∈ entries) (same : entry.issue.id = step.1.issue.id)
    (path : entry.path = pathOf place)
    (unwritten : ∀ other ∈ report, other.2.isWritten = true → other.1.path ≠ pathOf place) :
    between.node? place ≠ some (.file content) := by
  obtain ⟨own, ownPath, -, -, reaches⟩ := exists_place_of_mem_load book loaded listed
  obtain rfl := pathOf_injective (ownPath.symm.trans path)
  have former : previous.get? step.1.issue.id = some (pathOf own) :=
    (formers _ _).mpr ⟨⟨step, stepped, rfl⟩, entry, listed, same, path⟩
  exact trace.former_gone book.hasBook (isWithin_of_formers book loaded inside formers) stepped
    (wrote step stepped) former reaches unwritten content

include clears removed

/-- A batch that writes every issue, and removals behind it, renew the files of a book. -/
theorem renews_of_trace :
    Renews disk left home entries (report.map Prod.fst) removals := by
  have within := isWithin_of_formers book loaded inside formers
  have spreads := trace.spreadsTo book.hasBook within wrote
  have places : (report.map Prod.fst).map (fun write => write.path.segments) =
      Book.places report := List.map_map
  constructor
  case spreads =>
    rw [places, ← List.append_nil (Book.places report)]
    exact spreads.trans clears.spreadsTo
  case inside =>
    refine List.forall_mem_map.mpr fun step listed => ?_
    obtain ⟨place, path, below⟩ := inside step listed
    rw [path]
    exact ⟨below, rfl⟩
  case origin =>
    intro place content held
    refine ⟨fun entry listed path removal => ?_, ?_⟩
    · obtain ⟨own, ownPath, -, -, reaches⟩ := exists_place_of_mem_load book loaded listed
      obtain rfl := pathOf_injective (ownPath.symm.trans path)
      exact clears.clears own ((removed own).mpr ⟨entry, listed, removal, path⟩)
        (reaches.evolves spreads.evolves) content held
    · rcases trace.file_cases book.hasBook within (clears.stays held) with
        ⟨step, listed, -, path, same⟩ | ⟨unwritten, before⟩
      · exact .inl ⟨step.1, List.mem_map_of_mem listed, path, same⟩
      · refine .inr ⟨List.forall_mem_map.mpr fun step listed => unwritten step listed
          (wrote step listed), before, fun entry listed path => ?_⟩
        refine List.forall_mem_map.mpr fun step stepped same => ?_
        exact former_gone_of_entry book loaded trace wrote inside formers stepped listed same.symm
          path unwritten (clears.stays held)
  -- No entry at the place is removed or written elsewhere, so nothing takes the file away.
  case kept =>
    intro place content held unwritten known
    have spared : place ∉ gone := fun listed => by
      obtain ⟨entry, present, removal, path⟩ := (removed place).mp listed
      exact (known entry present path).1 removal
    refine clears.keeps spared (trace.keeps_file book.hasBook within held
      fun step listed _ => ⟨fun former => ?_, fun path => ?_⟩)
    · obtain ⟨-, entry, present, same, path⟩ := (formers _ _).mp former
      exact (known entry present path).2 step.1 (List.mem_map_of_mem listed) same.symm
    · exact absurd path (unwritten step.1 (List.mem_map_of_mem listed))
  case written =>
    intro apart
    rw [areApart_iff formers wrote] at apart
    refine List.forall_mem_map.mpr fun step listed spared => ?_
    have held := trace.written_of_apart book.hasBook within apart step listed (wrote step listed)
    refine content?_eq_some.mpr (clears.keeps (fun dropped => ?_) (content?_eq_some.mp held))
    obtain ⟨entry, present, removal, path⟩ := (removed _).mp dropped
    obtain ⟨place, own, -⟩ := inside step listed
    refine spared entry present ?_ removal
    rw [path, own]
    rfl
  -- Conversely, where every written file is there at the end, no later write has harmed it.
  case apart =>
    intro distinct held
    rw [List.map_map] at distinct
    rw [areApart_iff formers wrote]
    refine trace.apart_of_written book.hasBook within distinct fun step listed _ => ?_
    exact content?_eq_some.mpr (clears.stays
      (content?_eq_some.mp (held step.1 (List.mem_map_of_mem listed))))

end Trace

end Book

end Issuebook
