import Issuebook.Proofs.Book.Confinement
import Issuebook.Proofs.Text.Characters

/-!
# Disks on which paths lead somewhere

Where no link leads back to itself and no name holds the character zero, every path of such names
has a canonical form, so a path is found to stay inside a directory or to leave it, and nothing else
can go wrong: `yields_ensureWithin`.
-/

namespace Issuebook

open Text

/-- A name that a path can hold and a disk can take. -/
structure Path.IsName (segment : Text) : Prop where
  /-- It is neither empty nor a single dot. -/
  written : Path.isSegment segment = true
  /-- It holds no zero. -/
  zeroFree : segment.IsZeroFree

instance (segment : Text) : Decidable (Path.IsName segment) :=
  decidable_of_iff (Path.isSegment segment = true ∧ segment.IsZeroFree)
    ⟨fun ⟨written, zeroFree⟩ => ⟨written, zeroFree⟩, fun name => ⟨name.written, name.zeroFree⟩⟩

/-- Segments that are all names. -/
def Place.IsNamed (segments : Place) : Prop :=
  ∀ segment ∈ segments, Path.IsName segment

instance (segments : Place) : Decidable segments.IsNamed :=
  inferInstanceAs (Decidable (∀ segment ∈ segments, Path.IsName segment))

namespace Place

variable {place rest : Place}

/-- The root is named. -/
theorem isNamed_nil : IsNamed [] :=
  fun _ impossible => absurd impossible List.not_mem_nil

/-- Two parts of a place are named together if each of them is. -/
theorem isNamed_append : IsNamed (place ++ rest) ↔ place.IsNamed ∧ rest.IsNamed :=
  List.forall_mem_append

/-- So is a name with a named rest. -/
theorem isNamed_cons {segment : Text} :
    IsNamed (segment :: rest) ↔ Path.IsName segment ∧ rest.IsNamed :=
  List.forall_mem_cons

/-- The directory of a named place is named. -/
theorem IsNamed.dropLast (named : place.IsNamed) : IsNamed place.dropLast :=
  fun segment present => named segment (List.mem_of_mem_dropLast present)

/-- Tidying named segments gives a named place. -/
theorem IsNamed.tidy (named : rest.IsNamed) (keptNamed : place.IsNamed) :
    IsNamed (Path.tidy place rest) := by
  induction rest generalizing place with
  | nil => exact keptNamed
  | cons segment rest inductionHypothesis =>
      obtain ⟨own, later⟩ := isNamed_cons.mp named
      rw [Path.tidy]
      split_ifs
      · exact inductionHypothesis later keptNamed.dropLast
      · exact inductionHypothesis later
          (isNamed_append.mpr ⟨keptNamed, isNamed_cons.mpr ⟨own, isNamed_nil⟩⟩)
      · exact inductionHypothesis later keptNamed

end Place

namespace Path

variable {path : Path}

/-- A path whose segments are names. -/
def IsNamed (path : Path) : Prop :=
  Place.IsNamed path.segments

instance (path : Path) : Decidable path.IsNamed :=
  inferInstanceAs (Decidable (Place.IsNamed path.segments))

/-- A named path is written. -/
theorem IsNamed.isWritten (named : path.IsNamed) : path.IsWritten :=
  fun segment present => (named segment present).written

/-- It has no zero character. -/
theorem IsNamed.noZero (named : path.IsNamed) : Disk.hasZero path = false := by
  refine List.any_eq_false.mpr fun segment present => ?_
  rw [Bool.not_eq_true]
  refine List.any_eq_false.mpr fun char place => ?_
  simpa using (named segment present).zeroFree char place

/-- Its parent is named. -/
theorem IsNamed.parent (named : path.IsNamed) : path.parent.IsNamed :=
  Place.IsNamed.dropLast named

/-- A named path that goes on by one is named. -/
theorem IsNamed.append {inner : Path} (named : path.IsNamed) (innerNamed : inner.IsNamed) :
    (path.append inner).IsNamed := by
  unfold Path.append
  split_ifs
  · exact innerNamed
  · exact Place.isNamed_append.mpr ⟨named, innerNamed⟩

/-- A text without zeros writes a path of names. -/
theorem isNamed_ofText {text : Text} (free : text.IsZeroFree) : (ofText text).IsNamed := by
  intro segment present
  obtain ⟨part, isSegment⟩ := List.mem_filter.mp present
  exact ⟨isSegment, free.of_subset fun _ place => mem_of_mem_splitOn part place⟩

/-- Its text has no zero character. -/
theorem IsNamed.isZeroFree_toText (named : path.IsNamed) : path.toText.IsZeroFree := by
  have joined : IsZeroFree (anchorText path.anchor ++ Text.join ['/'] path.segments) := by
    refine isZeroFree_append.mpr ⟨?_, ?_⟩
    · cases path.anchor <;> decide
    · have slash : IsZeroFree ['/'] := by decide
      exact forall_mem_join slash fun segment present => (named segment present).zeroFree
  unfold toText
  split
  · decide
  · exact joined

end Path

namespace Disk

variable {disk left : Disk} {root path : Path} {place reached : Place} {rest : List Text}
  {steps : Nat}

/-- A disk on which paths of names lead somewhere. -/
structure IsPassable (disk : Disk) : Prop where
  /-- No link leads back to itself. -/
  loopFree : disk.IsLoopFree
  /-- No link is given a path with zeros. -/
  targets : ∀ place target, disk.node? place = some (.link target) → Text.IsZeroFree target
  /-- No link is on the way to the working directory. -/
  clear : disk.IsClear disk.here
  /-- The working directory has a path of names. -/
  named : disk.here.IsNamed

/-- Named segments resolve to a named place, if no link has a zero in its target. -/
theorem Resolves.isNamed (resolves : disk.Resolves steps place rest reached)
    (targets : ∀ place target, disk.node? place = some (.link target) → Text.IsZeroFree target)
    (restNamed : Place.IsNamed rest) (placeNamed : place.IsNamed) : reached.IsNamed := by
  induction resolves with
  | here => exact placeNamed
  | up later inductionHypothesis =>
      exact inductionHypothesis (Place.isNamed_cons.mp restNamed).2 placeNamed.dropLast
  | name notUp plain later inductionHypothesis =>
      obtain ⟨own, others⟩ := Place.isNamed_cons.mp restNamed
      exact inductionHypothesis others
        (Place.isNamed_append.mpr ⟨placeNamed, Place.isNamed_cons.mpr ⟨own, Place.isNamed_nil⟩⟩)
  | link notUp linked follows later followed inductionHypothesis =>
      refine inductionHypothesis (Place.isNamed_cons.mp restNamed).2
        (followed (Path.isNamed_ofText (targets _ _ linked)) ?_)
      unfold linkStart
      split_ifs
      · exact Place.isNamed_nil
      · exact placeNamed

namespace IsPassable

/-- Without links, paths lead somewhere. -/
theorem of_linkCount (none : disk.linkCount = 0) (atRoot : disk.here = []) : disk.IsPassable where
  loopFree place target linked := absurd linked (node?_ne_link none place target)
  targets place target linked := absurd linked (node?_ne_link none place target)
  clear := by
    rw [atRoot]
    exact isClear_nil disk
  named := by
    rw [atRoot]
    exact Place.isNamed_nil

/-- On a passable disk every path starts at a clear and named place. -/
theorem start (passable : disk.IsPassable) (path : Path) :
    disk.IsClear (disk.start path) ∧ (disk.start path).IsNamed := by
  unfold Disk.start
  split_ifs
  · exact ⟨isClear_nil disk, Place.isNamed_nil⟩
  · exact ⟨passable.clear, passable.named⟩

/-- There the absolute form of a named path is named. -/
theorem isNamed_absolute (passable : disk.IsPassable) (named : root.IsNamed) :
    (disk.absolute root).IsNamed :=
  Place.IsNamed.tidy (Place.isNamed_append.mpr ⟨(passable.start root).2, named⟩)
    Place.isNamed_nil

/-- A path of names has a canonical form of names. -/
theorem exists_resolve (passable : disk.IsPassable) (named : path.IsNamed) :
    ∃ place : Place, disk.resolve path = .ok (pathOf place) ∧ place.IsNamed := by
  obtain ⟨begins, startNamed⟩ := passable.start path
  obtain ⟨_, reached, resolves, -, resolved⟩ := resolve_of_isLoopFree passable.loopFree begins
    named.isWritten named.noZero
  exact ⟨reached, resolved, resolves.isNamed passable.targets named startNamed⟩

/-- A path of names stays inside a directory, or it is found to leave it. -/
theorem yields_ensureWithin (passable : disk.IsPassable) (rootNamed : root.IsNamed)
    (named : path.IsNamed) (strict : Bool) :
    Fault.Yields Fault.isExpected Path.IsNamed (disk.ensureWithin root path strict) := by
  obtain ⟨home, rootResolved, homeNamed⟩ :=
    passable.exists_resolve (passable.isNamed_absolute rootNamed)
  have whole : ((pathOf home).append path).IsNamed := Path.IsNamed.append homeNamed named
  obtain ⟨place, resolved, placeNamed⟩ := passable.exists_resolve whole
  have rootYields : Fault.Yields Fault.isExpected (· = pathOf home)
      (disk.resolve (disk.absolute root)) := by
    rw [rootResolved]
    rfl
  refine rootYields.bind fun resolvedRoot same => ?_
  have yields : Fault.Yields Fault.isExpected (· = pathOf place)
      (disk.resolve (resolvedRoot.append path)) := by
    rw [same, resolved]
    rfl
  refine yields.bind fun target found => ?_
  split_ifs
  · rw [found]
    exact placeNamed
  · rfl

/-- A disk stays passable when its links are kept. -/
theorem keeps (passable : disk.IsPassable) (keeps : disk.KeepsLinks left) : left.IsPassable where
  loopFree := keeps.isLoopFree passable.loopFree
  targets place target linked :=
    passable.targets place target ((keeps.links place target).mp linked)
  clear := by
    rw [keeps.here]
    exact keeps.isClear passable.clear
  named := by
    rw [keeps.here]
    exact passable.named

/-- The directory of a book has a canonical form. -/
theorem exists_hasHome (passable : disk.IsPassable) (named : root.IsNamed) :
    ∃ home, disk.HasHome root home :=
  Disk.exists_hasHome passable.loopFree (passable.isNamed_absolute named).noZero

end IsPassable

end Disk

end Issuebook
