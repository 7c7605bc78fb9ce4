import Issuebook.Proofs.Book.Reloading

/-!
# Entries of a book

Where everything below the directory of a book can be reached and read, the book has an entry for
each file that holds an issue and whose name has the ending of issue files: `mem_load_iff`. A disk
stays like that when files are written, rewritten and removed, so the book can be loaded again:
`IsBook.spreadsTo`, `exists_load_iff`.
-/

namespace Issuebook

namespace Disk

variable {disk left : Disk} {home place target : Place} {names rest : List Text}
  {targets : List Place}

/-- A way that passes goes on through one that passes from there. -/
theorem Passes.append (passes : disk.Passes place names)
    (further : disk.Passes (place ++ names) rest) : disk.Passes place (names ++ rest) := by
  induction names generalizing place with
  | nil => simpa using further
  | cons name names inductionHypothesis =>
      obtain ⟨directory, short, later⟩ := passes_cons.mp passes
      refine passes_cons.mpr ⟨directory, short, inductionHypothesis later ?_⟩
      rwa [List.append_assoc, List.singleton_append]

/-- A directory without links, or a free name for one, by its canonical path. Whatever is below it
can be reached, read and removed. -/
structure IsBook (disk : Disk) (home : Place) : Prop where
  /-- The path is in canonical form. -/
  tidy : home.IsTidy
  /-- It can be asked about. -/
  noZero : hasZero (pathOf home) = false
  /-- No link is at, above or below the directory. -/
  linkFree : disk.IsLinkFree (pathOf home)
  /-- The path leads there. -/
  reached : disk.Reaches home
  /-- What is there is a directory. -/
  directory : ∀ node ∈ disk.node? home, node = .directory
  /-- The way to what is below passes directories, by names that can be asked about. -/
  within : ∀ names ∈ disk.inner home,
    disk.Passes home names ∧ Place.IsTidy names ∧ hasZero ⟨.none, names⟩ = false
  /-- No place is listed twice. -/
  distinct : (disk.inner home).Nodup
  /-- Nothing below refuses to be read. -/
  readable : ∀ names, disk.refuses .read (home ++ names) = none
  /-- Nothing refuses to be removed. -/
  removable : ∀ place, disk.refuses .remove place = none

namespace IsBook

/-- A directory that holds nothing but files, on a disk without links that refuses nothing. -/
theorem of_flat (names : List Text) (tidy : home.IsTidy) (noZero : hasZero (pathOf home) = false)
    (linkFree : disk.IsLinkFree (pathOf home)) (reached : disk.Reaches home)
    (directory : disk.node? home = some .directory)
    (inner : disk.inner home = names.map fun name => [name]) (distinct : names.Nodup)
    (plain : ∀ name ∈ names, Text.byteLength name ≤ nameLimit ∧ Place.IsTidy [name] ∧
      hasZero ⟨.none, [name]⟩ = false)
    (refuses : disk.refuses = fun _ _ => none) : disk.IsBook home where
  tidy := tidy
  noZero := noZero
  linkFree := linkFree
  reached := reached
  directory node found := Option.some.inj (found.symm.trans directory)
  within := by
    rw [inner]
    refine List.forall_mem_map.mpr fun name listed => ?_
    obtain ⟨short, rest⟩ := plain name listed
    exact ⟨passes_cons.mpr ⟨directory, short, passes_nil disk _⟩, rest⟩
  distinct := by
    rw [inner]
    exact distinct.map fun _ _ same => (List.cons.inj same).1
  readable := by simp [refuses]
  removable := by simp [refuses]

variable (book : disk.IsBook home)
include book

/-- The home of the book is its place. -/
theorem home_pathOf : disk.home (pathOf home) = home :=
  Disk.home_pathOf book.tidy disk

/-- A flat book is a book. -/
theorem hasBook : disk.HasBook (pathOf home) home where
  home := book.home_pathOf
  linkFree := book.linkFree
  noZero := by
    have same : disk.absolute (pathOf home) = pathOf home :=
      congrArg (Path.mk .root) book.home_pathOf
    rw [same, book.noZero]
  permits := book.removable

/-- No link is on the way to a listed place. -/
theorem hasNoLink (names : List Text) : disk.HasNoLink [] (home ++ names) :=
  book.linkFree.hasNoLink (book.home_pathOf.symm ▸ List.prefix_append home names)

/-- A home in which something is listed is a directory. -/
theorem exists_directory (listed : names ∈ disk.inner home) :
    disk.node? home = some .directory := by
  have present := (mem_inner.mp listed).1
  have front := (book.within names listed).1.directories [] List.nil_prefix present.symm
  rwa [List.append_nil] at front

/-- A listed place is tidy. -/
theorem isTidy (listed : names ∈ disk.inner home) : Place.IsTidy (home ++ names) := by
  intro name present
  rcases List.mem_append.mp present with above | below
  · exact book.tidy name above
  · exact (book.within names listed).2.1 name below

/-- It is inside the home. -/
theorem isInside (listed : names ∈ disk.inner home) : (home ++ names).IsInside home where
  clean := book.isTidy listed
  below := List.prefix_append home names
  apart same := (mem_inner.mp listed).1 (List.append_right_eq_self.mp same)

/-- Its path has no zero character. -/
theorem hasZero_append (listed : names ∈ disk.inner home) :
    hasZero (pathOf (home ++ names)) = false :=
  (hasZero_onward (pathOf home) names).trans
    (by rw [book.noZero, (book.within names listed).2.2]; rfl)

/-- A short enough path to it finds what stands there. -/
theorem walk_append (listed : names ∈ disk.inner home) (short : IsShort (pathOf (home ++ names))) :
    disk.walk (pathOf (home ++ names)) = .ok (disk.foundAt (home ++ names)) := by
  refine (walk_pathOf (book.isTidy listed) (book.hasNoLink names) true _).mpr ⟨⟨short, ?_⟩, rfl⟩
  exact book.reached.passes.append (book.within names listed).1

/-- The book shows its home. -/
theorem shows : disk.Shows (pathOf home) home where
  noZero := book.noZero
  leads := by
    refine (walk_pathOf book.tidy ?_ true _).mpr ⟨book.reached, rfl⟩
    simpa using book.hasNoLink []
  plain names listed := (book.within names listed).2.2
  walks _ := book.walk_append

/-- The home is a directory, or nothing is there and nothing listed. -/
theorem directory_or_inner_eq_nil :
    disk.node? home = some .directory ∨ disk.node? home = none ∧ disk.inner home = [] := by
  cases present : disk.node? home with
  | some node => exact .inl (congrArg some (book.directory node present))
  | none =>
      refine .inr ⟨rfl, List.eq_nil_iff_forall_not_mem.mpr fun names listed => ?_⟩
      exact Option.some_ne_none _ ((book.exists_directory listed).symm.trans present)

/-- Files that are written below the directory, and directories on the way to them, do no harm. -/
theorem spreadsTo (spreads : disk.SpreadsTo left targets)
    (inside : ∀ target ∈ targets, target.IsInside home) : left.IsBook home where
  tidy := book.tidy
  noZero := book.noZero
  linkFree := book.linkFree.evolves spreads.evolves
  reached := book.reached.evolves spreads.evolves
  directory node present := by
    have apart : home ∉ targets := fun listed => (inside home listed).apart rfl
    exact (spreads.adds apart present).elim (book.directory node) id
  within names listed := by
    obtain ⟨present, taken⟩ := mem_inner.mp listed
    rcases spreads.onWay taken with before | ⟨target, planned, further⟩
    · obtain ⟨passes, rest⟩ := book.within names (mem_inner.mpr ⟨present, before⟩)
      exact ⟨passes.evolves spreads.evolves, rest⟩
    · obtain ⟨reaches, noZero⟩ := spreads.reached target planned
      have passes := passes_of_prefix (inside target planned) reaches noZero further
      exact passes.2
  distinct := spreads.distinct book.distinct
  readable names := by rw [spreads.evolves.refuses, book.readable]
  removable place := by rw [spreads.evolves.refuses, book.removable]

end IsBook

end Disk

namespace Book

open Disk

variable {disk left : Disk} {home place : Place} {names : List Text} {entries : List Entry}
  {entry : Entry} {content : Content} {path : Path} {targets : List Place}

/-- What is read from a file is the issue in its content. -/
theorem readFile_eq (disk : Disk) (path : Path) : readFile disk path =
    disk.readContent path >>= fun content =>
      content.readIssue.map (Issue.withSource .file) := by
  unfold readFile
  rw [readText_eq]
  cases disk.readContent path with
  | error fault => rfl
  | ok content =>
      unfold Content.readIssue
      dsimp only [bind, Except.bind]
      cases content.decoded with
      | error fault => rfl
      | ok text =>
          dsimp only
          cases Document.readIssue text <;> rfl

section Book

variable (book : disk.IsBook home)
include book

/-- A file below the directory is read by its content. -/
theorem readFile_pathOf (held : disk.node? (home ++ names) = some (.file content))
    (present : names ≠ []) (short : IsShort (pathOf (home ++ names))) :
    readFile disk (pathOf (home ++ names)) = content.readIssue.map (Issue.withSource .file) := by
  have listed : names ∈ disk.inner home := mem_inner.mpr ⟨present, by simp [held]⟩
  have read : disk.readContent (pathOf (home ++ names)) = .ok content := by
    rw [readContent, if_neg (by simp [book.hasZero_append listed]), book.walk_append listed short,
      foundAt, held]
    dsimp only
    rw [book.readable]
  rw [readFile_eq, read]
  rfl

/-- The files are listed when all their paths are short enough, and then they are those of the
home. -/
theorem files_pathOf_eq_ok {paths : List Path} : files disk (pathOf home) = .ok paths ↔
    (∀ names ∈ disk.inner home, Text.endsWith (names.getLastD []) fileEnding →
      IsShort (pathOf (home ++ names))) ∧
      paths = (disk.fileNames home fileEnding).map fun names => pathOf (home ++ names) :=
  files_eq_ok book.shows book.directory_or_inner_eq_nil

end Book

/-- A file below the directory of a book that has the ending of issue files and a content. -/
structure IsIssueFile (disk : Disk) (home : Place) (names : List Text) (content : Content) :
    Prop where
  /-- It is below. -/
  present : names ≠ []
  /-- It has the ending. -/
  ending : Text.endsWith (names.getLastD []) fileEnding
  /-- The content is in it. -/
  held : disk.node? (home ++ names) = some (.file content)

/-- An issue file is listed. -/
theorem IsIssueFile.mem_inner (file : IsIssueFile disk home names content) :
    names ∈ disk.inner home :=
  Disk.mem_inner.mpr ⟨file.present, by simp [file.held]⟩

/-- The names of files are those of issue files. -/
theorem mem_fileNames_iff : names ∈ disk.fileNames home fileEnding ↔
    ∃ content, IsIssueFile disk home names content := by
  rw [mem_fileNames]
  constructor
  · rintro ⟨known, ending, held⟩
    obtain ⟨content, held⟩ := Option.isSome_iff_exists.mp held
    exact ⟨content, (Disk.mem_inner.mp known).1, ending, content?_eq_some.mp held⟩
  · rintro ⟨content, file⟩
    have held : disk.content? (pathOf (home ++ names)) = some content :=
      content?_eq_some.mpr file.held
    exact ⟨file.mem_inner, file.ending, by simp [held]⟩

/-- An entry that a book has for one of its files. -/
def IsEntry (disk : Disk) (home : Place) (entry : Entry) : Prop :=
  ∃ names content written, entry.path = pathOf (home ++ names) ∧
    IsIssueFile disk home names content ∧ content.readIssue = .ok written ∧
      entry.issue = written.withSource .file

section Loaded

variable (book : disk.IsBook home) (loaded : (load disk (pathOf home)).value = .ok entries)
include book loaded

/-- Where the book is loaded, the path of every issue file is short enough. -/
theorem isShort_of_load (file : IsIssueFile disk home names content) :
    IsShort (pathOf (home ++ names)) := by
  obtain ⟨paths, listed, -⟩ := of_load loaded
  exact ((files_pathOf_eq_ok book).mp listed).1 names file.mem_inner file.ending

/-- A book that is loaded has an entry for each file with the ending that holds an issue. -/
theorem mem_load_iff : entry ∈ entries ↔ IsEntry disk home entry := by
  obtain ⟨paths, listed, rfl⟩ := of_load loaded
  obtain ⟨short, rfl⟩ := (files_pathOf_eq_ok book).mp listed
  rw [List.filterMap_map, List.mem_filterMap]
  constructor
  · rintro ⟨names, known, made⟩
    obtain ⟨content, file⟩ := mem_fileNames_iff.mp known
    rw [Function.comp_apply, entryAt?, readFile_pathOf book file.held file.present
      (short names file.mem_inner file.ending)] at made
    cases read : content.readIssue with
    | error fault => simp [read, Except.map] at made
    | ok written =>
        obtain rfl : (⟨pathOf (home ++ names), written.withSource .file⟩ : Entry) = entry := by
          simpa [read, Except.map] using made
        exact ⟨names, content, written, rfl, file, read, rfl⟩
  · rintro ⟨names, content, written, path, file, read, issue⟩
    refine ⟨names, mem_fileNames_iff.mpr ⟨content, file⟩, ?_⟩
    rw [Function.comp_apply, entryAt?, readFile_pathOf book file.held file.present
      (short names file.mem_inner file.ending), read]
    obtain ⟨ownPath, ownIssue⟩ := entry
    obtain rfl : ownPath = pathOf (home ++ names) := path
    obtain rfl : ownIssue = written.withSource .file := issue
    rfl

/-- Each entry has a file of its own. -/
theorem nodup_paths_load : (entries.map Entry.path).Nodup := by
  obtain ⟨paths, listed, rfl⟩ := of_load loaded
  obtain ⟨-, rfl⟩ := (files_pathOf_eq_ok book).mp listed
  have own {path : Path} {entry : Entry} (made : entryAt? disk path = some entry) :
      entry.path = path := by
    unfold entryAt? at made
    split at made
    · rw [← Option.some.inj made]
    · cases made
  have distinct : ((disk.fileNames home fileEnding).map fun names =>
      pathOf (home ++ names)).Nodup :=
    (nodup_fileNames book.distinct fileEnding).map fun one other same =>
      List.append_cancel_left (pathOf_injective same)
  refine List.pairwise_map.mpr (List.pairwise_filterMap.mpr (distinct.imp ?_))
  intro one other apart entry made another makes same
  exact apart ((own made).symm.trans (same.trans (own makes)))

end Loaded

end Book

end Issuebook
