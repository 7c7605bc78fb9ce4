import Issuebook.Book.Naming
import Issuebook.Proofs.Disk.Reaching

/-!
# The directory of a book

A book without links: its directory is its own canonical form, and what has to stay inside it is
a place below. Every file of a plan is.
-/

namespace Issuebook

/-- The place of a book's directory, when no link is on the way. -/
def Disk.home (disk : Disk) (root : Path) : Place :=
  (disk.absolute root).segments

/-- No link is at, above or below the directory of a book. -/
def Disk.IsLinkFree (disk : Disk) (root : Path) : Prop :=
  ∀ place : Place, place <+: disk.home root ∨ disk.home root <+: place →
    ∀ target, disk.node? place ≠ some (.link target)

/-- A place below the directory of a book. -/
structure Place.IsInside (place home : Place) : Prop where
  /-- Its names are in canonical form. -/
  clean : place.IsTidy
  /-- It is below the directory. -/
  below : home <+: place
  /-- It is not the directory itself. -/
  apart : place ≠ home

/-- A place inside another is not the root. -/
theorem Place.IsInside.ne_nil {place home : Place} (inside : place.IsInside home) : place ≠ [] := by
  rintro rfl
  exact inside.apart (List.prefix_nil.mp inside.below).symm

namespace Disk

variable {disk left : Disk} {root : Path} {home place : Place}

/-- The path of a place tells the place. -/
theorem pathOf_injective {one other : Place} (same : pathOf one = pathOf other) : one = other :=
  (Path.mk.inj same).2

/-- The absolute form of a path is absolute. -/
theorem isAbsolute_absolute (disk : Disk) (path : Path) :
    (disk.absolute path).isAbsolute = true := by
  unfold absolute
  by_cases begins : path.isAbsolute = true
  · rw [if_pos begins]
    exact begins
  · rw [if_neg begins]
    rfl

/-- The home of a root is tidy. -/
theorem isTidy_home (disk : Disk) (root : Path) : Place.IsTidy (disk.home root) :=
  Path.isTidy_tidy Place.isTidy_nil _

/-- The home of the path of a place is the place. -/
theorem home_pathOf (clean : place.IsTidy) (disk : Disk) : disk.home (pathOf place) = place :=
  (Path.tidy_of_isTidy clean []).trans (List.nil_append place)

/-- The absolute form of a path stays while a disk evolves. -/
theorem EvolvesTo.absolute (evolves : disk.EvolvesTo left) (path : Path) :
    left.absolute path = disk.absolute path := by
  unfold Disk.absolute start
  rw [evolves.here]

/-- On a disk without links, no node is one. -/
theorem node?_ne_link (none : disk.linkCount = 0) (place : Place) (target : Text) :
    disk.node? place ≠ some (.link target) := by
  intro linked
  have present : place ≠ [] := by
    rintro rfl
    cases linked
  rw [node?_of_ne_nil present] at linked
  exact List.countP_eq_zero.mp none _ (mem_of_find? linked) rfl

namespace IsLinkFree

/-- On such a disk no link is on the way to a root or below it. -/
theorem of_linkCount (none : disk.linkCount = 0) (root : Path) : disk.IsLinkFree root :=
  fun place _ target => node?_ne_link none place target

/-- No link comes up there while a disk evolves. -/
theorem evolves (linkFree : disk.IsLinkFree root) (evolves : disk.EvolvesTo left) :
    left.IsLinkFree root := by
  intro place near target linked
  rw [Disk.home, evolves.absolute] at near
  exact linkFree place near target (evolves.links linked)

/-- No link is on the way to the home. -/
theorem hasNoLink_home (linkFree : disk.IsLinkFree root) : disk.HasNoLink [] (disk.home root) :=
  fun front isFront target => linkFree front (.inl isFront) target

/-- No link is on the way to a place below the home. -/
theorem hasNoLink (linkFree : disk.IsLinkFree root) (below : disk.home root <+: place) :
    disk.HasNoLink [] place :=
  fun front isFront target =>
    linkFree front (List.prefix_or_prefix_of_prefix isFront below) target

/-- A directory below has no links either. -/
theorem of_below (linkFree : disk.IsLinkFree root) (clean : place.IsTidy)
    (below : disk.home root <+: place) : disk.IsLinkFree (pathOf place) := by
  intro other near target
  rw [home_pathOf clean] at near
  rcases near with above | inner
  · exact linkFree other (List.prefix_or_prefix_of_prefix above below) target
  · exact linkFree other (.inr (below.trans inner)) target

/-- The directory of a book is its own canonical form. -/
theorem resolve_absolute (linkFree : disk.IsLinkFree root)
    (noZero : hasZero (disk.absolute root) = false) :
    disk.resolve (disk.absolute root) = .ok (pathOf (disk.home root)) :=
  resolve_of_hasNoLink (isAbsolute_absolute disk root) (isTidy_home disk root)
    linkFree.hasNoLink_home noZero

end IsLinkFree

/-- A tidy place has no double dots. -/
theorem not_mem_up {home inner : Place} (clean : Place.IsTidy (home ++ inner)) :
    Path.up ∉ inner :=
  fun present => (clean Path.up (List.mem_append_right home present)).1 rfl

/-- A place inside a home is within it as a path. -/
theorem isWithin_pathOf (inside : place.IsInside home) :
    isWithin (pathOf home) (pathOf place) true = true := by
  obtain ⟨inner, rfl⟩ := inside.below
  have within : Path.relativeTo? (pathOf home) (pathOf (home ++ inner)) = some ⟨.none, inner⟩ := by
    change (Path.dropFront? home (home ++ inner)).map _ = _
    rw [Path.dropFront?_eq_some.mpr rfl]
    rfl
  have present : inner ≠ [] := by
    rintro rfl
    exact inside.apart (List.append_nil home)
  rw [isWithin, within]
  simp [present, not_mem_up inside.clean]

/-- A place that is within a home as a path is below it. -/
theorem below_of_isWithin {strict : Bool}
    (within : isWithin (pathOf home) (pathOf place) strict = true) :
    home <+: place ∧ (strict = true → place ≠ home) := by
  unfold isWithin at within
  split at within
  · cases within
  · rename_i inner found
    obtain ⟨segments, dropped, rfl⟩ := Option.map_eq_some_iff.mp found
    have shape : place = home ++ segments := Path.dropFront?_eq_some.mp dropped
    refine ⟨⟨segments, shape.symm⟩, ?_⟩
    rintro rfl same
    have empty : segments = [] := by simpa [same] using shape
    simp [empty] at within

/-- A path that is found to stay inside a book is resolved to a place in it. -/
theorem of_ensureWithin (linkFree : disk.IsLinkFree root) {path target : Path} {strict : Bool}
    (made : disk.ensureWithin root path strict = .ok target) :
    hasZero (disk.absolute root) = false ∧
      hasZero ((pathOf (disk.home root)).append path) = false ∧
      ∃ place : Place, place.IsTidy ∧ disk.home root <+: place ∧
        (strict = true → place ≠ disk.home root) ∧ target = pathOf place := by
  unfold ensureWithin at made
  simp only [bind, Except.bind] at made
  split at made
  · cases made
  · rename_i resolvedRoot rootResolved
    have rootNoZero := (of_resolve rootResolved).1
    rw [linkFree.resolve_absolute rootNoZero] at rootResolved
    obtain rfl := Except.ok.inj rootResolved
    split at made
    · cases made
    · rename_i resolved found
      split_ifs at made with within
      obtain ⟨noZero, place, clean, rfl⟩ := of_resolve found
      obtain ⟨below, apart⟩ := below_of_isWithin within
      exact ⟨rootNoZero, noZero, place, clean, below, apart, (Except.ok.inj made).symm⟩

/-- A book without links on a disk that removes files. -/
structure HasBook (disk : Disk) (root : Path) (home : Place) : Prop where
  /-- The directory of the book. -/
  home : disk.home root = home
  /-- No link is at, above or below it. -/
  linkFree : disk.IsLinkFree root
  /-- Its path can be resolved. -/
  noZero : hasZero (disk.absolute root) = false
  /-- Nothing refuses to remove files. -/
  permits : ∀ place, disk.refuses .remove place = none

namespace HasBook

/-- A disk with a book has it while it evolves. -/
theorem evolves (book : disk.HasBook root home) (evolves : disk.EvolvesTo left) :
    left.HasBook root home where
  home := by rw [Disk.home, evolves.absolute, ← Disk.home, book.home]
  linkFree := book.linkFree.evolves evolves
  noZero := by rw [evolves.absolute, book.noZero]
  permits place := by rw [evolves.refuses, book.permits]

/-- No link is on the way to a place inside the book. -/
theorem hasNoLink (book : disk.HasBook root home) (inside : place.IsInside home) :
    disk.HasNoLink [] place :=
  book.linkFree.hasNoLink (book.home.symm ▸ inside.below)

/-- A place inside the book resolves to itself. -/
theorem resolve_pathOf (book : disk.HasBook root home) (inside : place.IsInside home)
    (noZero : hasZero (pathOf place) = false) : disk.resolve (pathOf place) = .ok (pathOf place) :=
  resolve_of_hasNoLink rfl inside.clean (book.hasNoLink inside) noZero

/-- It is found to stay inside. -/
theorem ensureWithin_pathOf (book : disk.HasBook root home) (inside : place.IsInside home)
    (noZero : hasZero (pathOf place) = false) :
    disk.ensureWithin root (pathOf place) = .ok (pathOf place) := by
  have same : (pathOf home).append (pathOf place) = pathOf place := rfl
  unfold ensureWithin
  rw [book.linkFree.resolve_absolute book.noZero, book.home]
  simp only [bind, Except.bind]
  rw [same, book.resolve_pathOf inside noZero]
  dsimp only
  rw [if_pos (isWithin_pathOf inside)]
  rfl

end HasBook

end Disk

namespace Book

open Disk

variable {disk : Disk} {root : Path} {today : Date} {options : WriteOptions}

/-- A file is planned for its issue, and inside the home. -/
theorem inside_of_planOne (linkFree : disk.IsLinkFree root) {taken : List Text} {issue : Issue}
    {name : Text} {planned : PlannedWrite}
    (made : planOne disk today root options taken issue = .ok (name, planned)) :
    planned.issue = issue ∧
      ∃ place : Place, planned.path = pathOf place ∧ place.IsInside (disk.home root) := by
  unfold planOne at made
  simp only [bind, Except.bind] at made
  split at made
  · cases made
  · split at made
    · cases made
    · rename_i target found
      split at made
      · cases made
      · obtain ⟨-, rfl⟩ := Prod.mk.inj (Except.ok.inj made)
        obtain ⟨-, -, place, clean, below, apart, same⟩ := of_ensureWithin linkFree found
        exact ⟨rfl, place, same, clean, below, apart rfl⟩

/-- The files of a plan are inside the book, one for each issue. -/
theorem inside_of_planFrom (linkFree : disk.IsLinkFree root) {taken : List Text}
    {issues : List Issue} {planned : List PlannedWrite}
    (made : planFrom disk today root options taken issues = .ok planned) :
    planned.map PlannedWrite.issue = issues ∧ ∀ write ∈ planned,
      ∃ place : Place, write.path = pathOf place ∧ place.IsInside (disk.home root) := by
  induction issues generalizing taken planned with
  | nil =>
      obtain rfl := Except.ok.inj made
      exact ⟨rfl, fun _ impossible => absurd impossible List.not_mem_nil⟩
  | cons issue issues inductionHypothesis =>
      unfold planFrom at made
      simp only [bind, Except.bind] at made
      split at made
      · cases made
      · rename_i first chosen
        obtain ⟨name, write⟩ := first
        split at made
        · cases made
        · rename_i later rest
          obtain rfl := Except.ok.inj made
          obtain ⟨own, inside⟩ := inside_of_planOne linkFree chosen
          obtain ⟨owns, insides⟩ := inductionHypothesis rest
          refine ⟨by rw [List.map_cons, own, owns], ?_⟩
          exact List.forall_mem_cons.mpr ⟨inside, insides⟩

/-- All files are planned for their issues in order, and inside the home. -/
theorem inside_of_plan (linkFree : disk.IsLinkFree root) {issues : List Issue}
    {planned : List PlannedWrite} (made : plan disk today root options issues = .ok planned) :
    hasZero (disk.absolute root) = false ∧ planned.map PlannedWrite.issue = issues ∧
      ∀ write ∈ planned,
        ∃ place : Place, write.path = pathOf place ∧ place.IsInside (disk.home root) := by
  unfold plan at made
  simp only [bind, Except.bind] at made
  split at made
  · cases made
  · rename_i resolvedRoot found
    obtain ⟨noZero, -, place, clean, below, -, rfl⟩ := of_ensureWithin linkFree found
    have planned : planFrom disk today (pathOf place) options options.existingNames issues =
        .ok planned := by
      split_ifs at made
      · split at made
        · cases made
        · exact made
      · exact made
    obtain ⟨own, inside⟩ := inside_of_planFrom (linkFree.of_below clean below) planned
    refine ⟨noZero, own, fun write present => ?_⟩
    obtain ⟨target, same, inner⟩ := inside write present
    rw [home_pathOf clean] at inner
    refine ⟨target, same, inner.clean, below.trans inner.below, fun equal => ?_⟩
    have outer : place <+: disk.home root := equal ▸ inner.below
    exact inner.apart (equal.trans (below.eq_of_length_le outer.length_le))

end Book

end Issuebook
