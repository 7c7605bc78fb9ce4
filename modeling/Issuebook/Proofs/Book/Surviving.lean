import Issuebook.Proofs.Book.Passing
import Issuebook.Proofs.Filename.Rendering
import Issuebook.Proofs.Loading

/-!
# Batches that come to their end

On a disk on which paths lead somewhere, what stops a plan is expected, and what goes wrong while a
planned file is written concerns that file alone. So every file of a plan is tried, whatever becomes
of the others: `fault_writeAll`.
-/

namespace Issuebook

open Fault (Yields)

namespace Disk

variable {disk : Disk} {path : Path}

/-- Looking for a directory ends with an answer or with a fault from outside. -/
theorem yields_isDirectory (disk : Disk) (path : Path) :
    Yields Fault.isOutside (fun _ => True) (disk.isDirectory path) := by
  unfold isDirectory holds stat
  split_ifs
  · trivial
  · split
    · trivial
    · trivial
    · trivial
    · trivial
    · trivial
    · next fault _ _ _ _ found =>
        split at found
        · cases found
        · obtain rfl := Except.error.inj found
          rfl
        · obtain rfl := Except.error.inj found
          rfl

/-- So does the acceptance of a directory that is there already. -/
theorem yields_acceptPresent (disk : Disk) (path : Path) (refusal : Refusal) :
    Yields Fault.isOutside (fun _ => True) (disk.acceptPresent path refusal).1 := by
  have known := yields_isDirectory disk path
  unfold acceptPresent
  split
  · trivial
  · rfl
  · next found =>
      rw [found] at known
      exact known

/-- So does the making of all directories on a way. -/
theorem yields_makeAlong (disk : Disk) (anchor : Path.Anchor) (reversed : List Text) :
    Yields Fault.isOutside (fun _ => True) (disk.makeAlong anchor reversed).1 := by
  induction reversed with
  | nil => exact yields_acceptPresent ..
  | cons name above inductionHypothesis =>
      rw [makeAlong]
      split
      · trivial
      · split
        · next made =>
            rw [made] at inductionHypothesis
            exact inductionHypothesis
        · split
          · trivial
          · rfl
          · exact yields_acceptPresent ..
      · exact yields_acceptPresent ..

/-- So does the making of directories for a path without zero. -/
theorem yields_makeDirectories (disk : Disk) (noZero : hasZero path = false) :
    Yields Fault.isOutside (fun _ => True) (disk.makeDirectories path).1 := by
  unfold makeDirectories
  rw [if_neg (by simp [noZero])]
  split_ifs
  · rfl
  · exact yields_makeAlong ..

/-- So does the writing of a text. -/
theorem yields_writeText (disk : Disk) (noZero : hasZero path = false) (text : Text) :
    Yields Fault.isOutside (fun _ => True) (disk.writeText path text).1 := by
  have yields (place : Place) :
      Yields Fault.isOutside (fun _ => True) (disk.writeAt path place text).1 := by
    unfold writeAt
    split
    · rfl
    · trivial
  unfold writeText
  rw [if_neg (by simp [noZero])]
  split
  · rfl
  · exact yields _
  · exact yields _
  · rfl

/-- So does the removal of a file. -/
theorem yields_remove (disk : Disk) (noZero : hasZero path = false) :
    Yields Fault.isOutside (fun _ => True) (disk.remove path).1 := by
  unfold remove
  rw [if_neg (by simp [noZero])]
  split
  · trivial
  · rfl
  · trivial
  · rfl
  · split
    · rfl
    · trivial

/-! ## Faults that are not expected -/

/-- A path that cannot be resolved is not expected. -/
theorem isExpected_of_resolve {path : Path} {fault : Fault}
    (failed : disk.resolve path = .error fault) : fault.isExpected = false := by
  unfold resolve at failed
  split_ifs at failed
  · obtain rfl := Except.error.inj failed
    rfl
  · dsimp only at failed
    split at failed
    · obtain rfl := Except.error.inj failed
      rfl
    · cases failed

/-- No fault of making directories is expected. -/
theorem unexpected_makeDirectories (disk : Disk) (path : Path) :
    Fault.Yields (fun fault => !fault.isExpected) (fun _ => True)
      (disk.makeDirectories path).1 := by
  by_cases zero : hasZero path = true
  · rw [makeDirectories, if_pos zero]
    rfl
  · refine (yields_makeDirectories disk (Bool.of_not_eq_true zero)).imp ?_ fun _ _ => trivial
    exact fun fault outside => by rw [Fault.isExpected_of_isOutside outside]; rfl

/-- No fault of writing is expected. -/
theorem unexpected_writeText (disk : Disk) (path : Path) (text : Text) :
    Fault.Yields (fun fault => !fault.isExpected) (fun _ => True) (disk.writeText path text).1 := by
  by_cases zero : hasZero path = true
  · rw [writeText, if_pos zero]
    rfl
  · refine (yields_writeText disk (Bool.of_not_eq_true zero) text).imp ?_ fun _ _ => trivial
    exact fun fault outside => by rw [Fault.isExpected_of_isOutside outside]; rfl

end Disk

namespace Book

open Disk

variable {disk left : Disk} {today : Date} {root : Path} {options : WriteOptions}
  {taken : List Text} {issue : Issue} {issues : List Issue} {planned : List PlannedWrite}

/-! ## Planning -/

/-- Texts that make names without zeros. -/
structure HasZeroFreeNames (options : WriteOptions) : Prop where
  /-- The pattern. -/
  pattern : options.pattern.IsZeroFree
  /-- The directory of closed issues. -/
  closedSubdir : options.closedSubdir.IsZeroFree

/-- Names that are made from parts without zero have none. -/
theorem isZeroFree_relativeName (zeroFree : HasZeroFreeNames options) {name : Text}
    (free : name.IsZeroFree) (issue : Issue) : (relativeName options issue name).IsZeroFree := by
  unfold relativeName
  split_ifs
  · exact Path.IsNamed.isZeroFree_toText (Path.IsNamed.append
      (Path.isNamed_ofText zeroFree.closedSubdir) (Path.isNamed_ofText free))
  · exact free

section Planning

variable (passable : disk.IsPassable) (zeroFree : HasZeroFreeNames options)
include passable zeroFree

/-- Planning one issue ends with a named path or with an expected fault. -/
theorem yields_planOne (today : Date) (rootNamed : root.IsNamed) (taken : List Text)
    (issue : Issue) :
    Yields Fault.isExpected (fun chosen => chosen.2.path.IsNamed)
      (planOne disk today root options taken issue) := by
  have named : Yields Fault.isExpected Text.IsZeroFree
      (Filename.apply today options.pattern (withSafeNames issue) taken) := by
    cases applied : Filename.apply today options.pattern (withSafeNames issue) taken with
    | error fault => exact isExpected_of_apply applied
    | ok name => exact isZeroFree_apply zeroFree.pattern applied
  refine named.bind fun name free => ?_
  have relative := Path.isNamed_ofText (isZeroFree_relativeName zeroFree free issue)
  refine (passable.yields_ensureWithin rootNamed relative true).bind fun target targetNamed => ?_
  refine (passable.yields_ensureWithin rootNamed targetNamed.parent false).bind fun _ _ => ?_
  exact targetNamed

/-- So does the planning of all issues. -/
theorem yields_planFrom (today : Date) (rootNamed : root.IsNamed) (taken : List Text)
    (issues : List Issue) :
    Yields Fault.isExpected (fun planned => ∀ write ∈ planned, write.path.IsNamed)
      (planFrom disk today root options taken issues) := by
  induction issues generalizing taken with
  | nil => exact fun _ impossible => absurd impossible List.not_mem_nil
  | cons issue issues inductionHypothesis =>
      have first := yields_planOne passable zeroFree today rootNamed taken issue
      refine first.bind fun chosen named => ?_
      refine (inductionHypothesis (chosen.1 :: taken)).bind fun later laterNamed => ?_
      exact List.forall_mem_cons.mpr ⟨named, laterNamed⟩

/-- What stops a plan is expected, and the files of one that is not stopped have names. -/
theorem yields_plan (today : Date) (rootNamed : root.IsNamed) (issues : List Issue) :
    Yields Fault.isExpected (fun planned => ∀ write ∈ planned, write.path.IsNamed)
      (plan disk today root options issues) := by
  refine (passable.yields_ensureWithin rootNamed rootNamed false).bind fun base named => ?_
  have chosen := yields_planFrom passable zeroFree today named options.existingNames issues
  split_ifs
  · refine (passable.yields_ensureWithin named
      (Path.isNamed_ofText zeroFree.closedSubdir) true).bind fun _ _ => ?_
    exact chosen
  · exact chosen

end Planning

/-! ## Writing -/

/-- Writing the file of an issue ends well or with a fault from outside. -/
theorem yields_writeFile (disk : Disk) {path : Path} (named : path.IsNamed) (text : Text) :
    Yields Fault.isOutside (fun _ => True) (writeFile disk path text).1 := by
  have makes := yields_makeDirectories disk named.parent.noZero
  unfold writeFile
  split
  · exact yields_writeText _ named.noZero text
  · exact makes

/-- Removing one ends well or with a fault that is survived. -/
theorem yields_removeFile (passable : disk.IsPassable) (rootNamed : root.IsNamed) {path : Path}
    (named : path.IsNamed) :
    Yields Fault.isSurvivable (fun _ => True) (removeFile disk root path).1 := by
  have finds := passable.yields_ensureWithin rootNamed named true
  unfold removeFile
  split
  · next found => exact Bool.or_eq_true_iff.mpr (.inl (finds.of_error found))
  · next target found =>
      rw [found] at finds
      have removes := yields_remove disk (Path.IsNamed.noZero finds)
      split
      · trivial
      · next done =>
          have outside := removes.of_error (congrArg Prod.fst done)
          exact Bool.or_eq_true_iff.mpr (.inr outside)

/-- The removal of an earlier file always comes to an end. -/
theorem exists_removeStale (passable : disk.IsPassable) (rootNamed : root.IsNamed) (path : Path)
    {previous : Option Path} (named : ∀ former ∈ previous, former.IsNamed) :
    ∃ stale, (removeStale disk root path previous).1 = .ok stale := by
  unfold removeStale
  split
  · exact ⟨_, rfl⟩
  · next former =>
      have formerNamed := named former rfl
      obtain ⟨place, resolved, -⟩ := passable.exists_resolve formerNamed
      have removes := yields_removeFile passable rootNamed formerNamed
      rw [resolved]
      dsimp only
      split_ifs
      · exact ⟨_, rfl⟩
      · split
        · exact ⟨_, rfl⟩
        · next done =>
            rw [if_pos (removes.of_error (congrArg Prod.fst done))]
            exact ⟨_, rfl⟩

/-- What goes wrong while a file is written concerns that file alone. -/
theorem exists_writeOne {home : Place} (book : disk.HasHome root home)
    (passable : disk.IsPassable) (rootNamed : root.IsNamed) {former : Entries Path}
    {write : PlannedWrite} (confined : IsConfined disk home write) (named : write.path.IsNamed)
    (formersNamed : ∀ path ∈ former.get? write.issue.id, path.IsNamed) :
    ∃ outcome, (writeOne disk root former write).1 = .ok outcome := by
  have writes := yields_writeFile disk named write.document
  have confines := (confines_writeOne book confined fun path present =>
    (formersNamed path present).isWritten).1
  unfold PlannedWrite.document at writes confines
  unfold writeOne
  split
  · next failed =>
      rw [if_pos (writes.of_error (congrArg Prod.fst failed))]
      exact ⟨_, rfl⟩
  · next left done =>
      rw [done] at confines
      obtain ⟨stale, removed⟩ := exists_removeStale (passable.keeps confines.toKeepsLinks)
        rootNamed write.path formersNamed
      split
      · exact ⟨_, rfl⟩
      · next failed =>
          rw [failed] at removed
          cases removed

/-- Every file of a plan is tried, and links stay as they are. -/
theorem fault_writeAll {home : Place} (book : disk.HasHome root home)
    (passable : disk.IsPassable) (rootNamed : root.IsNamed) {former : Entries Path}
    (formersNamed : ∀ id, ∀ path ∈ former.get? id, path.IsNamed)
    (confined : ∀ write ∈ planned, IsConfined disk home write)
    (named : ∀ write ∈ planned, write.path.IsNamed) :
    (writeAll disk root former planned).fault = none ∧
      disk.KeepsLinks (writeAll disk root former planned).disk := by
  induction planned generalizing disk with
  | nil => exact ⟨rfl, .refl disk⟩
  | cons write later inductionHypothesis =>
      obtain ⟨own, others⟩ := List.forall_mem_cons.mp confined
      obtain ⟨ownNamed, othersNamed⟩ := List.forall_mem_cons.mp named
      obtain ⟨outcome, wrote⟩ := exists_writeOne book passable rootNamed own ownNamed
        (formersNamed _)
      have keeps := (confines_writeOne book own fun path present =>
        (formersNamed _ path present).isWritten).2.toKeepsLinks
      rw [writeAll]
      rcases tried : writeOne disk root former write with ⟨result, left⟩
      rw [tried] at wrote keeps
      dsimp only at wrote keeps
      subst wrote
      have stillConfined : ∀ other ∈ later, IsConfined left home other := by
        intro other listed
        obtain ⟨place, same, clear, inside⟩ := others other listed
        exact ⟨place, same, keeps.isClear clear, inside⟩
      obtain ⟨ends, laterKeeps⟩ := inductionHypothesis (book.keeps keeps) (passable.keeps keeps)
        stillConfined othersNamed
      exact ⟨ends, keeps.trans laterKeeps⟩

/-! ## Batches that are ended early -/

/-- No fault of writing a file of the book is expected. -/
theorem isExpected_of_writeFile {path : Path} {text : Text} {fault : Fault}
    (failed : (writeFile disk path text).1 = .error fault) : fault.isExpected = false := by
  unfold writeFile at failed
  split at failed
  · exact (Bool.not_eq_true' _).mp ((Disk.unexpected_writeText _ path text).of_error failed)
  · exact (Bool.not_eq_true' _).mp
      ((Disk.unexpected_makeDirectories disk path.parent).of_error failed)

/-- No fault of removing an earlier one is expected. -/
theorem isExpected_of_removeStale {path : Path} {previous : Option Path} {fault : Fault}
    (failed : (removeStale disk root path previous).1 = .error fault) :
    fault.isExpected = false := by
  unfold removeStale at failed
  split at failed
  · cases failed
  · split at failed
    · next stuck =>
        obtain rfl := Except.error.inj failed
        exact Disk.isExpected_of_resolve stuck
    · split_ifs at failed
      split at failed
      · cases failed
      · next other _ _ =>
          split_ifs at failed with survives
          obtain rfl := Except.error.inj failed
          exact (Bool.or_eq_false_iff.mp (Bool.of_not_eq_true survives)).1

/-- What ends a batch early is no fault that a plan is stopped by. -/
theorem isExpected_of_writeOne {former : Entries Path} {planned : PlannedWrite} {fault : Fault}
    {left : Disk} (failed : writeOne disk root former planned = (.error fault, left)) :
    fault.isExpected = false := by
  unfold writeOne at failed
  split at failed
  · next other _ refused =>
      split_ifs at failed
      · cases (Prod.mk.inj failed).1
      · obtain rfl := Except.error.inj (Prod.mk.inj failed).1
        exact isExpected_of_writeFile (congrArg Prod.fst refused)
  · split at failed
    · cases (Prod.mk.inj failed).1
    · next other _ stuck =>
        obtain rfl := Except.error.inj (Prod.mk.inj failed).1
        exact isExpected_of_removeStale (congrArg Prod.fst stuck)

/-- No fault that ends a batch is expected. -/
theorem isExpected_of_writeAll {former : Entries Path} {planned : List PlannedWrite} {fault : Fault}
    (ended : (writeAll disk root former planned).fault = some fault) :
    fault.isExpected = false := by
  induction planned generalizing disk with
  | nil => cases ended
  | cons write later inductionHypothesis =>
      rw [writeAll] at ended
      rcases tried : writeOne disk root former write with ⟨other | outcome, left⟩
      · rw [tried] at ended
        obtain rfl := Option.some.inj ended
        exact isExpected_of_writeOne tried
      · rw [tried] at ended
        exact inductionHypothesis ended

/-! ## The files of a book -/

/-- What a filter with faults finds was given. -/
theorem mem_of_filterAuxM {test : Path → Except Fault Bool} {paths kept found : List Path}
    (filtered : List.filterAuxM test paths kept = .ok found) :
    ∀ path ∈ found, path ∈ kept ∨ path ∈ paths := by
  induction paths generalizing kept with
  | nil =>
      obtain rfl := Except.ok.inj filtered
      exact fun _ => .inl
  | cons first paths inductionHypothesis =>
      obtain ⟨passes, -, filtered⟩ := Fault.bind_eq_ok.mp filtered
      intro path present
      rcases inductionHypothesis filtered path present with earlier | later
      · cases passes with
        | false => exact .inl earlier
        | true =>
            rcases List.mem_cons.mp earlier with rfl | earlier
            · exact .inr List.mem_cons_self
            · exact .inl earlier
      · exact .inr (List.mem_cons_of_mem _ later)

/-- Files below a root are listed there. -/
theorem mem_of_filesBelow {ending : Text} {found : List Path}
    (listed : disk.filesBelow root ending = .ok found) :
    ∀ path ∈ found, path ∈ disk.pathsBelow root := by
  obtain ⟨reversed, filtered, same⟩ := Fault.bind_eq_ok.mp listed
  obtain rfl := Except.ok.inj same
  intro path present
  have place := mem_of_filterAuxM filtered path (List.mem_reverse.mp present)
  exact place.resolve_left List.not_mem_nil

/-- The files that are found in a book have names, where all places of the disk have. -/
theorem isNamed_of_load {entries : List Entry} (rootNamed : root.IsNamed)
    (placesNamed : ∀ entry ∈ disk.nodes, entry.1.IsNamed)
    (loaded : (load disk root).value = .ok entries) : ∀ entry ∈ entries, entry.path.IsNamed := by
  obtain ⟨paths, listed, rfl⟩ := of_load loaded
  have found : ∀ path ∈ paths, path ∈ disk.pathsBelow root := by
    obtain ⟨isDirectory, -, listed⟩ := Fault.bind_eq_ok.mp listed
    split_ifs at listed
    · exact mem_of_filesBelow listed
    · obtain rfl := Except.ok.inj listed
      exact fun _ impossible => absurd impossible List.not_mem_nil
  have named : ∀ path ∈ disk.pathsBelow root, path.IsNamed := by
    rw [pathsBelow_eq]
    split
    · intro path present
      obtain ⟨segments, below, rfl⟩ := List.mem_map.mp present
      obtain ⟨place, taken, inner⟩ := List.mem_filterMap.mp (List.mem_mergeSort.mp below)
      obtain ⟨entry, known, rfl⟩ := List.mem_map.mp taken
      have placeNamed := placesNamed entry known
      unfold namesBelow? at inner
      split at inner
      · next name rest dropped =>
          rw [Path.dropFront?_eq_some.mp dropped] at placeNamed
          rw [← Option.some.inj inner]
          exact rootNamed.append (Place.isNamed_append.mp placeNamed).2
      · cases inner
    · exact fun _ impossible => absurd impossible List.not_mem_nil
  intro entry present
  obtain ⟨path, listedPath, read⟩ := List.mem_filterMap.mp present
  unfold entryAt? at read
  split at read
  · rw [← Option.some.inj read]
    exact named path (found path listedPath)
  · cases read

end Book

end Issuebook
