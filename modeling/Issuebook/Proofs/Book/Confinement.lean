import Issuebook.Proofs.Book.Names
import Issuebook.Proofs.Disk.Resolving

/-!
# Confinement

Where no link leads back to itself, a batch changes no file outside its book, whatever the names of
its issues, its pattern, its former files and the links of the disk are: `write_isConfined`. A link
that leads back to itself ends the canonical form early, and a name behind it can lead outside.
-/

namespace Issuebook

/-- A path that some text writes: none of its segments is empty or a single dot. -/
def Path.IsWritten (path : Path) : Prop :=
  ∀ segment ∈ path.segments, Path.isSegment segment = true

/-- A path that is read from a text is written. -/
theorem Path.isWritten_ofText (text : Text) : (Path.ofText text).IsWritten :=
  Disk.isSegment_of_mem_ofText text

namespace Disk

variable {disk left last : Disk} {root path : Path} {home place : Place} {steps : Nat}

/-- Changes that keep links and, outside a directory, everything but names that become
directories. -/
structure Confines (home : Place) (disk left : Disk) : Prop extends disk.KeepsLinks left where
  /-- What is outside stays, or was free and is a directory. -/
  outside : ∀ place : Place, ¬place.IsInside home → left.node? place = disk.node? place ∨
    disk.node? place = none ∧ left.node? place = some .directory

namespace Confines

/-- A disk that stays is confined. -/
theorem refl (home : Place) (disk : Disk) : Confines home disk disk :=
  ⟨.refl disk, fun _ _ => .inl rfl⟩

/-- Confined changes go on. -/
theorem trans (first : Confines home disk left) (second : Confines home left last) :
    Confines home disk last where
  toKeepsLinks := first.toKeepsLinks.trans second.toKeepsLinks
  outside place apart := by
    rcases second.outside place apart with same | ⟨free, made⟩
    · rw [same]
      exact first.outside place apart
    · rcases first.outside place apart with same | ⟨-, impossible⟩
      · exact .inr ⟨same ▸ free, made⟩
      · rw [free] at impossible
        cases impossible

/-- Making directories is confined everywhere. -/
theorem of_growsTo (home : Place) (grows : disk.GrowsTo left) : Confines home disk left where
  here := grows.here
  links place target := by
    constructor
    · intro linked
      rcases grows.adds linked with earlier | impossible
      · exact earlier
      · cases impossible
    · exact grows.keeps
  outside place _ := by
    cases before : disk.node? place with
    | some node => exact .inl (grows.keeps before)
    | none =>
        cases after : left.node? place with
        | none => exact .inl rfl
        | some node =>
            rcases grows.adds after with impossible | rfl
            · rw [before] at impossible
              cases impossible
            · exact .inr ⟨rfl, rfl⟩

/-- A change of one place inside, which was no link and is none, is confined. -/
theorem of_apart (apart : ∀ other, other ≠ place → left.node? other = disk.node? other)
    (here : left.here = disk.here) (before : ∀ target, disk.node? place ≠ some (.link target))
    (after : ∀ target, left.node? place ≠ some (.link target)) (inside : place.IsInside home) :
    Confines home disk left where
  here := here
  links other target := by
    by_cases same : other = place
    · rw [same]
      exact iff_of_false (after target) (before target)
    · rw [apart other same]
  outside other outer := by
    refine .inl (apart other ?_)
    rintro rfl
    exact outer inside

/-- So is a file that is put there. -/
theorem put (clear : disk.IsClear place) (inside : place.IsInside home) (content : Content) :
    Confines home disk (disk.put place (.file content)) := by
  refine of_apart (fun other apart => node?_put_other apart) rfl
    (fun target => clear.noLink place List.prefix_rfl target) (fun target => ?_) inside
  rw [node?_put_same inside.ne_nil]
  simp

/-- So is what is dropped there. -/
theorem drop (clear : disk.IsClear place) (inside : place.IsInside home) :
    Confines home disk (disk.drop place) := by
  refine of_apart (fun other apart => node?_drop_other apart) rfl
    (fun target => clear.noLink place List.prefix_rfl target) (fun target => ?_) inside
  rw [node?_drop_same inside.ne_nil]
  simp

end Confines

/-- A text that is written to a place inside changes nothing outside. -/
theorem confines_writeText (clear : disk.IsClear place) (inside : place.IsInside home)
    (text : Text) : Confines home disk (disk.writeText (pathOf place) text).2 := by
  rcases writeText_pathOf clear.clean clear.noLink (Prod.eta _).symm with
    ⟨-, -, -, -, written⟩ | ⟨-, stays⟩
  · rw [written]
    exact .put clear inside _
  · rw [stays]
    exact .refl home disk

/-- Neither does what is removed there. -/
theorem confines_remove (clear : disk.IsClear place) (inside : place.IsInside home) :
    Confines home disk (disk.remove (pathOf place)).2 := by
  unfold remove
  split_ifs
  · exact .refl home disk
  · split
    · exact .refl home disk
    · exact .refl home disk
    · exact .refl home disk
    · exact .refl home disk
    · next other node _ walked =>
        obtain ⟨-, found⟩ := (walk_pathOf clear.clean clear.noLink false _).mp walked
        obtain ⟨rfl, -⟩ := foundAt_eq_there found
        split
        · exact .refl home disk
        · exact .drop clear inside

/-! ## Inside a book -/

/-- A place in canonical form without a link on the way is what its names lead to. -/
theorem IsClear.resolves (clear : disk.IsClear place) :
    ∃ steps, disk.Resolves steps [] place place := by
  suffices next : ∀ (rest front : Place), front ++ rest = place →
      ∃ steps, disk.Resolves steps front rest place from next place [] rfl
  intro rest
  induction rest with
  | nil =>
      intro front shape
      rw [List.append_nil] at shape
      exact ⟨0, shape ▸ .here front⟩
  | cons segment rest inductionHypothesis =>
      intro front shape
      have isFront : front ++ [segment] <+: place := ⟨rest, by simpa using shape⟩
      obtain ⟨steps, later⟩ := inductionHypothesis (front ++ [segment]) (by simpa using shape)
      have present : segment ∈ place := isFront.subset (by simp)
      exact ⟨_, .name (clear.clean segment present).1 (clear.noLink _ isFront) later⟩

/-- The directory of a book on a disk where no link leads back to itself. -/
structure HasHome (disk : Disk) (root : Path) (home : Place) : Prop where
  /-- No link leads back to itself. -/
  loopFree : disk.IsLoopFree
  /-- The path of the directory can be resolved. -/
  noZero : hasZero (disk.absolute root) = false
  /-- It leads to the directory. -/
  leads : ∃ steps, disk.Resolves steps [] (disk.absolute root).segments home

/-- The absolute form of a path is written. -/
theorem isWritten_absolute (disk : Disk) (path : Path) : (disk.absolute path).IsWritten :=
  fun segment present => (isTidy_home disk path segment present).2

namespace HasHome

/-- No link is on the way to the home of a book. -/
theorem isClear (book : disk.HasHome root home) : disk.IsClear home := by
  obtain ⟨steps, leads⟩ := book.leads
  exact leads.isClear (isWritten_absolute disk root) (isClear_nil disk)

/-- The root of a book resolves to its home. -/
theorem resolve_root (book : disk.HasHome root home) :
    disk.resolve (disk.absolute root) = .ok (pathOf home) := by
  obtain ⟨_, leads⟩ := book.leads
  obtain ⟨_, reached, resolves, -, resolved⟩ := resolve_of_isLoopFree book.loopFree
    (isClear_start (isAbsolute_absolute disk root)) (isWritten_absolute disk root) book.noZero
  rw [start_of_isAbsolute (isAbsolute_absolute disk root)] at resolves
  rw [resolved, (resolves.unique leads).2]

/-- A book keeps its home when the links are kept. -/
theorem keeps (book : disk.HasHome root home) (keeps : disk.KeepsLinks left) :
    left.HasHome root home := by
  have same : left.absolute root = disk.absolute root := by
    unfold Disk.absolute start
    rw [keeps.here]
  obtain ⟨steps, leads⟩ := book.leads
  exact ⟨keeps.isLoopFree book.loopFree, same ▸ book.noZero,
    ⟨steps, same ▸ keeps.resolves leads⟩⟩

/-- What is found to stay inside a book is a place without a link on the way. -/
theorem of_ensureWithin (book : disk.HasHome root home) (written : path.IsWritten)
    {strict : Bool} {target : Path} (made : disk.ensureWithin root path strict = .ok target) :
    ∃ place, target = pathOf place ∧ disk.IsClear place ∧ home <+: place ∧
      (strict = true → place ≠ home) := by
  unfold ensureWithin at made
  rw [book.resolve_root] at made
  change (disk.resolve ((pathOf home).append path)).bind _ = _ at made
  obtain ⟨resolved, found, made⟩ := Fault.bind_eq_ok.mp made
  split_ifs at made with within
  obtain rfl := Except.ok.inj made
  have absolute : ((pathOf home).append path).isAbsolute = true := by
    unfold Path.append
    split_ifs with already
    · exact already
    · rfl
  have allWritten : ((pathOf home).append path).IsWritten := by
    unfold Path.append
    split_ifs
    · exact written
    · intro segment present
      rcases List.mem_append.mp present with outer | inner
      · exact (book.isClear.clean segment outer).2
      · exact written segment inner
  obtain ⟨_, place, -, clear, resolves⟩ := resolve_of_isLoopFree book.loopFree
    (isClear_start absolute) allWritten (of_resolve found).1
  obtain rfl := Except.ok.inj (found.symm.trans resolves)
  obtain ⟨below, apart⟩ := below_of_isWithin within
  exact ⟨place, rfl, clear, below, apart⟩

/-- What is found to stay inside a book, and is not its directory, is inside. -/
theorem inside_of_ensureWithin (book : disk.HasHome root home) (written : path.IsWritten)
    {target : Path} (made : disk.ensureWithin root path = .ok target) :
    ∃ place : Place, target = pathOf place ∧ disk.IsClear place ∧ place.IsInside home := by
  obtain ⟨place, same, clear, below, apart⟩ := book.of_ensureWithin written made
  exact ⟨place, same, clear, clear.clean, below, apart rfl⟩

/-- A directory below is a home of its own. -/
theorem of_below (book : disk.HasHome root home) (clear : disk.IsClear place)
    (noZero : hasZero (disk.absolute (pathOf place)) = false) :
    disk.HasHome (pathOf place) place where
  loopFree := book.loopFree
  noZero := noZero
  leads := by
    have same : (disk.absolute (pathOf place)).segments = place := home_pathOf clear.clean disk
    rw [same]
    exact clear.resolves

end HasHome

/-- On a disk where no link leads back to itself, every root that can be resolved has a home. -/
theorem exists_hasHome (loopFree : disk.IsLoopFree)
    (noZero : hasZero (disk.absolute root) = false) :
    ∃ home, disk.HasHome root home := by
  obtain ⟨steps, home, leads⟩ := loopFree.exists_resolves [] (disk.absolute root).segments
  exact ⟨home, loopFree, noZero, steps, leads⟩

/-- A root that something stays inside has no zero character. -/
theorem noZero_of_ensureWithin {strict : Bool} {target : Path}
    (made : disk.ensureWithin root path strict = .ok target) :
    hasZero (disk.absolute root) = false := by
  obtain ⟨_, found, -⟩ := Fault.bind_eq_ok.mp made
  exact (of_resolve found).1

end Disk

namespace Book

open Disk

variable {disk left : Disk} {root : Path} {home place : Place} {today : Date}
  {options : WriteOptions} {issues : List Issue} {planned : List PlannedWrite}

/-- A planned file is inside the book, without a link on the way. -/
def IsConfined (disk : Disk) (home : Place) (write : PlannedWrite) : Prop :=
  ∃ place : Place, write.path = pathOf place ∧ disk.IsClear place ∧ place.IsInside home

/-- Every file that is planned is confined to the home of its book. -/
theorem isConfined_of_plan (loopFree : disk.IsLoopFree) (written : root.IsWritten)
    (made : plan disk today root options issues = .ok planned) :
    ∃ home, disk.HasHome root home ∧ ∀ write ∈ planned, IsConfined disk home write := by
  obtain ⟨base, found, made⟩ := of_plan made
  obtain ⟨home, book⟩ := exists_hasHome loopFree (noZero_of_ensureWithin found)
  obtain ⟨place, rfl, clear, below, -⟩ := book.of_ensureWithin written found
  refine ⟨home, book, fun write present => ?_⟩
  have chosen := (of_planFrom made).2 write present
  have inner := book.of_below clear (noZero_of_ensureWithin chosen)
  obtain ⟨target, same, targetClear, inside⟩ :=
    inner.inside_of_ensureWithin (Path.isWritten_ofText _) chosen
  refine ⟨target, same, targetClear, inside.clean, below.trans inside.below, ?_⟩
  rintro rfl
  exact inside.apart (below.eq_of_length_le inside.below.length_le)

/-- A file that is written inside changes nothing outside. -/
theorem confines_writeFile (clear : disk.IsClear place) (inside : place.IsInside home)
    (text : Text) : Confines home disk (writeFile disk (pathOf place) text).2 := by
  have grows := Confines.of_growsTo home (growsTo_makeDirectories disk (pathOf place).parent)
  unfold writeFile
  split
  · next made makes =>
      rw [makes] at grows
      have stillClear := grows.toKeepsLinks.isClear clear
      exact grows.trans (confines_writeText stillClear inside text)
  · exact grows

/-- Neither does a file that is removed from the book. -/
theorem confines_removeFile (book : disk.HasHome root home) {path : Path}
    (written : path.IsWritten) : Confines home disk (removeFile disk root path).2 := by
  unfold removeFile
  split
  · exact .refl home disk
  · next target found =>
      obtain ⟨place, rfl, clear, inside⟩ := book.inside_of_ensureWithin written found
      have removes := confines_remove clear inside
      split <;> next done =>
        rw [done] at removes
        exact removes

/-- Neither does the removal of an earlier file. -/
theorem confines_removeStale (book : disk.HasHome root home) (path : Path)
    {previous : Option Path} (written : ∀ former ∈ previous, former.IsWritten) :
    Confines home disk (removeStale disk root path previous).2 := by
  unfold removeStale
  split
  · exact .refl home disk
  · next former =>
      have removes := confines_removeFile book (written former rfl)
      split
      · exact .refl home disk
      · split_ifs
        · exact .refl home disk
        · split
          · next done =>
              rw [done] at removes
              exact removes
          · next done =>
              rw [done] at removes
              split_ifs <;> exact removes

/-- Neither does the writing of one issue, at any of its steps. -/
theorem confines_writeOne (book : disk.HasHome root home) {former : Entries Path}
    {write : PlannedWrite} (confined : IsConfined disk home write)
    (written : ∀ path ∈ former.get? write.issue.id, path.IsWritten) :
    Confines home disk (writeFile disk write.path write.document).2 ∧
      Confines home disk (writeOne disk root former write).2 := by
  obtain ⟨place, same, clear, inside⟩ := confined
  have writes : Confines home disk (writeFile disk write.path write.document).2 := by
    rw [same]
    exact confines_writeFile clear inside _
  refine ⟨writes, ?_⟩
  unfold PlannedWrite.document at writes
  unfold writeOne
  split
  · next done =>
      rw [done] at writes
      split_ifs <;> exact writes
  · next left done =>
      rw [done] at writes
      have removes := confines_removeStale (book.keeps writes.toKeepsLinks) write.path written
      split <;> next gone =>
        rw [gone] at removes
        exact writes.trans removes

/-- The disks of a batch: one after each write, and one after the removal that it may lead to. -/
def stages (root : Path) (former : Entries Path) (disk : Disk) : List PlannedWrite → List Disk
  | [] => []
  | write :: later =>
    let (outcome, left) := writeOne disk root former write
    (writeFile disk write.path write.document).2 :: left ::
      match outcome with
      | .ok _ => stages root former left later
      | .error _ => []

/-- A batch leaves behind the last of its disks. -/
theorem disk_writeAll (disk : Disk) (root : Path) (former : Entries Path)
    (planned : List PlannedWrite) :
    (writeAll disk root former planned).disk = (stages root former disk planned).getLastD disk := by
  induction planned generalizing disk with
  | nil => rfl
  | cons write later inductionHypothesis =>
      rw [writeAll, stages]
      rcases writeOne disk root former write with ⟨fault | outcome, left⟩
      · rfl
      · dsimp only
        rw [inductionHypothesis left, List.getLastD_cons, List.getLastD_cons]

/-- Neither does a whole batch, at any of its steps. -/
theorem confines_stages (book : disk.HasHome root home) {former : Entries Path}
    (confined : ∀ write ∈ planned, IsConfined disk home write)
    (written : ∀ id, ∀ path ∈ former.get? id, path.IsWritten) :
    ∀ stage ∈ stages root former disk planned, Confines home disk stage := by
  induction planned generalizing disk with
  | nil => exact fun _ impossible => absurd impossible List.not_mem_nil
  | cons write later inductionHypothesis =>
      obtain ⟨own, others⟩ := List.forall_mem_cons.mp confined
      obtain ⟨writes, all⟩ := confines_writeOne book own (written _)
      rw [stages]
      rcases tried : writeOne disk root former write with ⟨outcome, left⟩
      rw [tried] at all
      refine List.forall_mem_cons.mpr ⟨writes, List.forall_mem_cons.mpr ⟨all, ?_⟩⟩
      cases outcome with
      | error fault => exact fun _ impossible => absurd impossible List.not_mem_nil
      | ok outcome =>
          intro stage present
          have stillConfined : ∀ other ∈ later, IsConfined left home other := by
            intro other listed
            obtain ⟨place, same, clear, inside⟩ := others other listed
            exact ⟨place, same, all.toKeepsLinks.isClear clear, inside⟩
          exact all.trans
            (inductionHypothesis (book.keeps all.toKeepsLinks) stillConfined stage present)

/-- A batch that is not stopped before it begins changes nothing outside the directory of its book
but that new directories are made: not after any write, nor after any removal. -/
theorem write_isConfined (disk : Disk) (today : Date) (root : Path) (options : WriteOptions)
    (issues : List Issue) (loopFree : disk.IsLoopFree) (written : root.IsWritten)
    (formersWritten : ∀ entry ∈ options.previousPaths, entry.2.IsWritten) :
    let run := write disk today root options issues
    (run.fault ≠ none ∧ run.report = [] ∧ run.disk = disk) ∨
      ∃ home planned, disk.resolve (disk.absolute root) = .ok (pathOf home) ∧
        plan disk today root options issues = .ok planned ∧
        run.disk = (stages root options.previousPaths disk planned).getLastD disk ∧
        ∀ stage ∈ run.disk :: stages root options.previousPaths disk planned,
          Confines home disk stage := by
  intro run
  cases made : plan disk today root options issues with
  | error fault =>
      have stopped : run = ⟨[], disk, some fault⟩ := by
        change write disk today root options issues = _
        rw [write, made]
      rw [stopped]
      exact .inl ⟨by simp, rfl, rfl⟩
  | ok planned =>
      obtain ⟨home, book, confined⟩ := isConfined_of_plan loopFree written made
      have ends : run.disk = (stages root options.previousPaths disk planned).getLastD disk := by
        change (write disk today root options issues).disk = _
        rw [write, made]
        exact disk_writeAll disk root options.previousPaths planned
      have stays := confines_stages book confined fun id path former =>
        formersWritten _ (Entries.mem_of_get? former)
      refine .inr ⟨home, planned, book.resolve_root, rfl, ends, ?_⟩
      refine List.forall_mem_cons.mpr ⟨?_, stays⟩
      rw [ends]
      rcases List.mem_cons.mp List.getLastD_mem_cons with same | last
      · rw [same]
        exact .refl home disk
      · exact stays _ last

/-- A book behind a link, beside a file that an issue claims as its former one. -/
def hostile : Disk where
  nodes :=
    [(["p"], .directory), (["p", "other.md"], .file (.text "kept")), (["p", "real"], .directory),
      (["p", "real", "out"], .link "../.."), (["p", "book"], .link "real")]

/-- The directory of the book as it is named. -/
def hostileRoot : Path :=
  ⟨.root, ["p", "book"]⟩

/-- Names from titles, and a former file outside. -/
def hostileOptions : WriteOptions where
  pattern := "[title].md"
  previousPaths := [("1", ⟨.root, ["p", "book", "out", "p", "other.md"]⟩)]

/-- A batch with a title that climbs, in a book behind a link, at all its steps. -/
theorem hostile_isConfined :
    hostile.IsLoopFree ∧ ∃ home planned,
      hostile.resolve (hostile.absolute hostileRoot) = .ok (pathOf home) ∧ home = ["p", "real"] ∧
        plan hostile ⟨2024, 1, 1⟩ hostileRoot hostileOptions [titled "1" "../../evil"] =
          .ok planned ∧
        planned.map PlannedWrite.path = [⟨.root, ["p", "real", "evil.md"]⟩] ∧
        ∀ stage ∈ stages hostileRoot hostileOptions.previousPaths hostile planned,
          Confines home hostile stage := by
  have loopFree : hostile.IsLoopFree := isLoopFree_of_endsLinks (by decide +kernel)
  have formersWritten : ∀ entry ∈ hostileOptions.previousPaths, entry.2.IsWritten := by
    unfold Path.IsWritten
    decide +kernel
  have resolved : hostile.resolve (hostile.absolute hostileRoot) = .ok ⟨.root, ["p", "real"]⟩ := by
    decide +kernel
  have paths : (plan hostile ⟨2024, 1, 1⟩ hostileRoot hostileOptions
      [titled "1" "../../evil"]).map (List.map PlannedWrite.path) =
        .ok [⟨.root, ["p", "real", "evil.md"]⟩] := by
    decide +kernel
  have completes : (write hostile ⟨2024, 1, 1⟩ hostileRoot hostileOptions
      [titled "1" "../../evil"]).fault = none := by
    decide +kernel
  obtain ⟨planned, made, same⟩ := Fault.map_eq_ok.mp paths
  refine ⟨loopFree, ["p", "real"], planned, resolved, rfl, made, same, ?_⟩
  rcases write_isConfined hostile ⟨2024, 1, 1⟩ hostileRoot hostileOptions [titled "1" "../../evil"]
    loopFree (by unfold Path.IsWritten; decide +kernel) formersWritten with
      ⟨failed, -⟩ | ⟨home, others, found, chosen, -, confines⟩
  · exact absurd completes failed
  · obtain rfl := Except.ok.inj (made.symm.trans chosen)
    obtain rfl : home = ["p", "real"] :=
      pathOf_injective (Except.ok.inj (found.symm.trans resolved))
    exact fun stage present => confines stage (List.mem_cons_of_mem _ present)

/-- A book with a link that leads back to itself and one that leads outside. -/
def looping : Disk where
  nodes :=
    [(["p"], .directory), (["p", "outside.md"], .file (.text "kept")), (["p", "book"], .directory),
      (["p", "book", "loop"], .link "loop"), (["p", "book", "link.md"], .link "../outside.md")]

/-- A pattern that leads through the first link to the second. -/
def throughLoop : WriteOptions where
  pattern := "loop/../link.md"

/-- Through a link that leads back to itself a file outside is written over. -/
theorem throughLoop_escapes :
    let run := write looping ⟨2024, 1, 1⟩ ⟨.root, ["p", "book"]⟩ throughLoop [titled "1" "a"]
    run.fault = none ∧
      looping.resolve (looping.absolute ⟨.root, ["p", "book"]⟩) = .ok (pathOf ["p", "book"]) ∧
      ¬Place.IsInside ["p", "outside.md"] ["p", "book"] ∧
      looping.node? ["p", "outside.md"] = some (.file (.text "kept")) ∧
      run.disk.node? ["p", "outside.md"] =
        some (.file (.text ((titled "1" "a").withSource .file).toDocument)) := by
  intro run
  refine ⟨by decide +kernel, by decide +kernel, fun inside => ?_, rfl, by decide +kernel⟩
  exact absurd inside.below (by decide)

end Book

end Issuebook
