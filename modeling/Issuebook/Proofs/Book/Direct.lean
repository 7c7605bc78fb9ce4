import Issuebook.Proofs.Book.Names
import Issuebook.Proofs.Book.Passing
import Issuebook.Proofs.Filename.Standard
import Issuebook.Proofs.Text.Cleaning

/-!
# Files directly in a book

Under the standard pattern, and without a directory for closed issues, no issue can stop the
planning of a batch: each is to be written to a file of the book's own directory, whatever its
identifier, its title and its assignee are. What can stop the planning is the directory alone, when
its path is not found to be inside itself: `plan_isDirect`.
-/

namespace Issuebook

open Text

/-- A text without slashes that is no sequence of dots writes a path of one segment. -/
theorem Path.ofText_of_slashless {text : Text} (slashless : '/' ∉ text)
    (written : isSegment text = true) : ofText text = ⟨.none, [text]⟩ := by
  have none : countLeading '/' text = 0 := by
    refine List.length_eq_zero_iff.mpr (List.takeWhile_eq_nil_iff.mpr fun first => ?_)
    have other : text[0] ≠ '/' := fun same => slashless (same ▸ List.getElem_mem first)
    simpa using other
  rw [ofText, anchorOf, none, splitOn_of_absent slashless, List.filter_singleton, written]
  rfl

namespace Disk

variable {disk : Disk} {root base : Path} {place : Place} {name : Text}

/-- A directory in its canonical form, on the way to which and below which no link is. -/
structure IsBase (disk : Disk) (root base : Path) : Prop where
  /-- The path of the directory leads to it. -/
  resolved : disk.resolve root = .ok base
  /-- No link is at, above or below it. -/
  linkFree : disk.IsLinkFree base
  /-- Its own path can be looked up. -/
  noZero : hasZero base = false

/-- Where paths lead somewhere, the canonical form of a directory is free of links if no link is
below it. -/
theorem IsPassable.isBase (passable : disk.IsPassable) (named : root.IsNamed)
    (resolved : disk.resolve root = .ok (pathOf place))
    (bare : ∀ other, place <+: other → other ≠ place →
      ∀ target, disk.node? other ≠ some (.link target)) : disk.IsBase root (pathOf place) := by
  obtain ⟨begins, startNamed⟩ := passable.start root
  obtain ⟨steps, reached, resolves, clear, found⟩ :=
    resolve_of_isLoopFree passable.loopFree begins named.isWritten named.noZero
  obtain rfl : reached = place := pathOf_injective (Except.ok.inj (found.symm.trans resolved))
  have reachedNamed : (pathOf reached).IsNamed :=
    resolves.isNamed passable.targets named startNamed
  refine ⟨resolved, fun other near target => ?_, reachedNamed.noZero⟩
  rw [home_pathOf clear.clean] at near
  by_cases same : other = reached
  · exact clear.noLink other (same ▸ List.prefix_rfl) target
  · rcases near with above | below
    · exact clear.noLink other above target
    · exact bare other below same target

/-- A directory is within itself. -/
theorem isWithin_self (base : Path) : isWithin base base false = true := by
  have dropped : Path.dropFront? base.segments base.segments = some [] :=
    Path.dropFront?_eq_some.mpr (List.append_nil _).symm
  rw [isWithin, Path.relativeTo?, if_pos rfl, dropped]
  rfl

/-- A path whose canonical form is known stays inside a root if the form does. -/
theorem ensureWithin_eq {path home target : Path} {strict : Bool}
    (rootResolves : disk.resolve (disk.absolute root) = .ok home)
    (resolves : disk.resolve (home.append path) = .ok target)
    (within : isWithin home target strict = true) :
    disk.ensureWithin root path strict = .ok target := by
  unfold ensureWithin
  rw [rootResolves]
  dsimp only [bind, Except.bind]
  rw [resolves]
  dsimp only
  rw [if_pos within]
  rfl

namespace IsBase

variable (settled : disk.IsBase root base)
include settled

/-- The directory is a place, and its path leads to it. -/
theorem exists_place : ∃ place : Place, place.IsTidy ∧ base = pathOf place ∧
    disk.resolve (disk.absolute base) = .ok base ∧ disk.resolve base = .ok base := by
  obtain ⟨-, place, clean, rfl⟩ := of_resolve settled.resolved
  have same : disk.absolute (pathOf place) = pathOf place :=
    congrArg pathOf (home_pathOf clean disk)
  have found := settled.linkFree.resolve_absolute (same.symm ▸ settled.noZero)
  rw [home_pathOf clean] at found
  exact ⟨place, clean, rfl, found, (congrArg disk.resolve same).symm.trans found⟩

/-- A base stays inside itself. -/
theorem ensureWithin_self : disk.ensureWithin base base false = .ok base := by
  obtain ⟨place, -, rfl, absolute, resolves⟩ := settled.exists_place
  exact ensureWithin_eq absolute resolves (isWithin_self _)

/-- A file of a directory is inside it. -/
theorem ensureWithin_child (slashless : '/' ∉ name) (plain : Path.isSegment name = true)
    (notUp : name ≠ Path.up) (free : IsZeroFree name) :
    disk.ensureWithin base (Path.ofText name) = .ok (base.child name) := by
  obtain ⟨place, clean, rfl, absolute, -⟩ := settled.exists_place
  have inside : Place.IsInside (place ++ [name]) place := by
    refine ⟨List.forall_mem_append.mpr ⟨clean, List.forall_mem_singleton.mpr ⟨notUp, plain⟩⟩,
      List.prefix_append _ _, ?_⟩
    simp
  have clear : disk.HasNoLink [] (place ++ [name]) :=
    settled.linkFree.hasNoLink (by rw [home_pathOf clean]; exact inside.below)
  have noZero : hasZero (pathOf (place ++ [name])) = false := by
    have own : (name.any fun char => char.val = 0) = false :=
      List.any_eq_false.mpr fun char present => by simpa using free char present
    have both : hasZero (pathOf (place ++ [name])) =
        (hasZero (pathOf place) || name.any fun char => char.val = 0) := by
      simp only [hasZero, pathOf, List.any_append, List.any_cons, List.any_nil, Bool.or_false]
    rw [both, settled.noZero, own]
    rfl
  rw [Path.ofText_of_slashless slashless plain]
  exact ensureWithin_eq absolute (resolve_of_hasNoLink rfl inside.clean clear noZero)
    (isWithin_pathOf inside)

/-- An absolute path without double dots is found to be inside itself. -/
theorem ensureWithin_root (written : root.IsWritten) (absolute : root.isAbsolute = true)
    (noUp : Path.up ∉ root.segments) : disk.ensureWithin root root false = .ok base := by
  have clean : Place.IsTidy root.segments := fun segment present =>
    ⟨fun same => noUp (same ▸ present), written segment present⟩
  have same : disk.absolute root = root := by
    rw [Disk.absolute, start, if_pos absolute, if_pos absolute, List.nil_append,
      Path.tidy_of_isTidy clean, List.nil_append]
  have whole : base.append root = root := by
    rw [Path.append, if_pos absolute]
  exact ensureWithin_eq (same.symm ▸ settled.resolved) (whole.symm ▸ settled.resolved)
    (isWithin_self base)

/-- An absolute path that is found to be inside itself is found at its canonical form. -/
theorem eq_of_ensureWithin_root {target : Path} (absolute : root.isAbsolute = true)
    (found : disk.ensureWithin root root false = .ok target) : target = base := by
  obtain ⟨home, -, found⟩ := Fault.bind_eq_ok.mp found
  obtain ⟨resolved, resolves, found⟩ := Fault.bind_eq_ok.mp found
  rw [Path.append, if_pos absolute, settled.resolved] at resolves
  split_ifs at found
  exact (Except.ok.inj found).symm.trans (Except.ok.inj resolves).symm

end IsBase

end Disk

namespace Book

open Disk

variable {disk : Disk} {root base : Path} {today : Date} {options : WriteOptions}
  {issues : List Issue} {issue : Issue} {taken : List Text}

/-- A file that is to be written directly in a directory. -/
structure IsFileIn (base : Path) (write : PlannedWrite) : Prop where
  /-- Its path is that of the directory with its name. -/
  path : write.path = base.child write.relative
  /-- Its name is one segment. -/
  slashless : '/' ∉ write.relative
  /-- Its name has the ending of issue files. -/
  ending : fileEnding <:+ write.relative

/-- A safe identifier is not empty and has no slash. -/
theorem id_withSafeNames (issue : Issue) :
    (withSafeNames issue).id ≠ [] ∧ '/' ∉ (withSafeNames issue).id := by
  unfold withSafeNames
  dsimp only
  split_ifs with empty
  · exact ⟨by decide, by decide⟩
  · exact ⟨by simpa using empty, (isHarmless_safeName issue.id).slash⟩

/-- A book in one directory is planned from its base. -/
theorem plan_of_together (together : options.separateClosed = false)
    (found : disk.ensureWithin root root false = .ok base) :
    plan disk today root options issues =
      planFrom disk today base options options.existingNames issues := by
  have none : issues.any (isSeparated options) = false :=
    List.any_eq_false.mpr fun issue _ => by simp [isSeparated, together]
  unfold plan
  rw [found, none]
  rfl

section Planning

variable (settled : disk.IsBase root base) (standard : options.pattern = Pattern.standard)
  (together : options.separateClosed = false)
include settled standard together

/-- Every issue has a file in the directory, whatever names are taken. -/
theorem exists_planOne (today : Date) (taken : List Text) (issue : Issue) :
    ∃ name write, planOne disk today base options taken issue = .ok (name, write) ∧
      IsFileIn base write := by
  obtain ⟨named, slashless⟩ := id_withSafeNames issue
  obtain ⟨name, applied⟩ : ∃ name,
      Filename.apply today options.pattern (withSafeNames issue) taken = .ok name :=
    ⟨_, standard ▸ Filename.apply_standard today named taken⟩
  have free : IsZeroFree name := isZeroFree_apply (standard ▸ by decide) applied
  obtain ⟨plain, ending⟩ := Filename.isFileName_of_apply named slashless (standard ▸ applied)
  have long : 3 ≤ name.length := ending.length_le
  have segment : Path.isSegment name = true := by
    refine decide_eq_true ⟨?_, ?_⟩ <;> rintro rfl <;> revert long <;> decide
  have notUp : name ≠ Path.up := by
    rintro rfl
    revert long
    decide
  have stays : relativeName options issue name = name := by
    rw [relativeName, isSeparated, together, Bool.false_and, if_neg Bool.false_ne_true]
  have target := settled.ensureWithin_child plain segment notUp free
  have above : (base.child name).parent = base := by
    rw [Path.parent, Path.child, List.dropLast_concat]
  refine ⟨name, ⟨issue, base.child name, name⟩, ?_, rfl, plain, ending⟩
  unfold planOne
  rw [applied]
  dsimp only [bind, Except.bind]
  rw [stays, target]
  dsimp only
  rw [above, settled.ensureWithin_self]
  rfl

/-- Every batch is planned in the directory, whatever names are taken. -/
theorem exists_planFrom (today : Date) (taken : List Text) (issues : List Issue) :
    ∃ planned, planFrom disk today base options taken issues = .ok planned ∧
      ∀ write ∈ planned, IsFileIn base write := by
  induction issues generalizing taken with
  | nil => exact ⟨[], rfl, fun _ impossible => absurd impossible List.not_mem_nil⟩
  | cons issue issues inductionHypothesis =>
      obtain ⟨name, write, made, own⟩ := exists_planOne settled standard together today taken issue
      obtain ⟨writes, rest, others⟩ := inductionHypothesis (name :: taken)
      refine ⟨write :: writes, ?_, List.forall_mem_cons.mpr ⟨own, others⟩⟩
      unfold planFrom
      rw [made]
      dsimp only [bind, Except.bind]
      rw [rest]
      rfl

end Planning

/-- Under the standard pattern, and without a directory for closed issues, only the path of the
directory can stop the planning of a batch. Where the directory is found at its canonical form, each
issue is planned to a file of it, whatever the issues are and whatever names are taken; and an
absolute path is found there if it has no double dots, and stops every batch if it is not. -/
theorem plan_isDirect (disk : Disk) (today : Date) (root base : Path) (options : WriteOptions)
    (issues : List Issue) (settled : disk.IsBase root base) (written : root.IsWritten)
    (standard : options.pattern = Pattern.standard) (together : options.separateClosed = false) :
    (disk.ensureWithin root root false = .ok base →
      ∃ planned, plan disk today root options issues = .ok planned ∧
        planned.map PlannedWrite.issue = issues ∧ ∀ write ∈ planned, IsFileIn base write) ∧
      (root.isAbsolute = true →
        (Path.up ∉ root.segments → disk.ensureWithin root root false = .ok base) ∧
          ((∃ planned, plan disk today root options issues = .ok planned) ↔
            disk.ensureWithin root root false = .ok base)) := by
  have direct (found : disk.ensureWithin root root false = .ok base) :
      ∃ planned, plan disk today root options issues = .ok planned ∧
        planned.map PlannedWrite.issue = issues ∧ ∀ write ∈ planned, IsFileIn base write := by
    obtain ⟨planned, made, files⟩ :=
      exists_planFrom settled standard together today options.existingNames issues
    exact ⟨planned, (plan_of_together together found).trans made, (of_planFrom made).1, files⟩
  refine ⟨direct, fun absolute => ⟨settled.ensureWithin_root written absolute, ⟨?_, ?_⟩⟩⟩
  · rintro ⟨planned, made⟩
    obtain ⟨other, found, -⟩ := of_plan made
    rwa [settled.eq_of_ensureWithin_root absolute found] at found
  · intro found
    obtain ⟨planned, made, -⟩ := direct found
    exact ⟨planned, made⟩

/-- A directory, and a link to it from another one. -/
def linkedBook : Disk where
  nodes :=
    [(["p"], .directory), (["p", "link"], .link "other/deep"), (["p", "other"], .directory),
      (["p", "other", "deep"], .directory)]

/-- The directory with a link has that link only. -/
theorem eq_of_linkedBook_link {place : Place} {target : Text}
    (linked : linkedBook.node? place = some (.link target)) :
    place = (["p", "link"] : Place) ∧ target = "other/deep" := by
  have notRoot : place ≠ [] := by
    rintro rfl
    cases linked
  rw [node?_of_ne_nil notRoot] at linked
  simpa [linkedBook] using mem_of_find? linked

/-- Paths lead somewhere in it. -/
theorem linkedBook_isPassable : linkedBook.IsPassable where
  loopFree := isLoopFree_of_endsLinks (by decide +kernel)
  targets place target linked := by
    rw [(eq_of_linkedBook_link linked).2]
    decide
  clear := isClear_nil linkedBook
  named := Place.isNamed_nil

/-- What is apart from the link is a base. -/
theorem linkedBook_isBase {place : Place} (named : root.IsNamed)
    (resolved : linkedBook.resolve root = .ok (pathOf place))
    (apart : ¬ place <+: ["p", "link"]) : linkedBook.IsBase root (pathOf place) :=
  linkedBook_isPassable.isBase named resolved fun _ below _ _ linked =>
    apart ((eq_of_linkedBook_link linked).1 ▸ below)

/-- Issues whose texts would lead out of the directory. -/
def hostileIssues : List Issue :=
  [titled "../../evil" "/etc/passwd", titled "..\\../x" "c/d", titled "///" "...",
    { titled "1" "" with assignee := some "../me" }]

/-- Issues with names that climb, planned through the link. -/
theorem hostileIssues_planned :
    ∃ planned, plan linkedBook ⟨2024, 1, 1⟩ ⟨.root, ["p", "link"]⟩ {} hostileIssues = .ok planned ∧
      planned.map PlannedWrite.issue = hostileIssues ∧
      ∀ write ∈ planned, IsFileIn ⟨.root, ["p", "other", "deep"]⟩ write := by
  have settled : linkedBook.IsBase ⟨.root, ["p", "link"]⟩ (pathOf ["p", "other", "deep"]) :=
    linkedBook_isBase (by decide) (by decide +kernel) (by decide)
  have written : Path.IsWritten ⟨.root, ["p", "link"]⟩ := by
    unfold Path.IsWritten
    decide
  obtain ⟨direct, found⟩ := plan_isDirect linkedBook ⟨2024, 1, 1⟩ ⟨.root, ["p", "link"]⟩
    ⟨.root, ["p", "other", "deep"]⟩ {} hostileIssues settled written rfl rfl
  exact direct ((found rfl).1 (by decide))

/-- A path with double dots behind a link is taken to leave the directory that it leads to, and a
relative one leads below itself. -/
theorem detouredRoot_not_planned :
    linkedBook.IsBase ⟨.root, ["p", "link", "..", "todo"]⟩ ⟨.root, ["p", "other", "todo"]⟩ ∧
      plan linkedBook ⟨2024, 1, 1⟩ ⟨.root, ["p", "link", "..", "todo"]⟩ {} [titled "1" "a"] =
        .error (.escapes "/p/link/../todo" "/p/todo") ∧
      linkedBook.IsBase ⟨.none, ["todo"]⟩ ⟨.root, ["todo"]⟩ ∧
      plan linkedBook ⟨2024, 1, 1⟩ ⟨.none, ["todo"]⟩ {} [titled "1" "a"] =
        .ok [⟨titled "1" "a", ⟨.root, ["todo", "todo", "1-a.md"]⟩, "1-a.md"⟩] :=
  ⟨linkedBook_isBase (by decide) (by decide +kernel) (by decide), by decide +kernel,
    linkedBook_isBase (by decide) (by decide +kernel) (by decide), by decide +kernel⟩

end Book

end Issuebook
