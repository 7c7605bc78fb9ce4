import Issuebook.Disk.Files
import Issuebook.Proofs.Disk.Reaching

/-!
# Effects on a disk

What making directories, writing a file and removing one do to a disk without links on the way. On
any disk, what a walk finds is there, whatever links it follows; so writing and removing a file keep
every directory and make no link, whether they succeed or fail.
-/

namespace Issuebook.Disk

variable {disk left : Disk} {place : Place}

/-! ## Making directories -/

/-- Making a directory makes a disk grow. -/
theorem growsTo_of_makeIn {parent : Path} {name : Text} {made : Disk}
    (done : disk.makeIn parent name = .ok made) : disk.GrowsTo made := by
  unfold makeIn at done
  split at done
  · cases done
  · cases done
  · split_ifs at done
    split at done
    · cases done
    · rename_i absent
      split at done
      · cases done
      · rw [← Except.ok.inj done]
        exact growsTo_put absent
  · cases done

/-- Accepting what is there changes nothing. -/
theorem acceptPresent_disk (path : Path) (refusal : Refusal) :
    (disk.acceptPresent path refusal).2 = disk := by
  unfold acceptPresent
  split <;> rfl

/-- Making the directories on a way makes a disk grow. -/
theorem growsTo_makeAlong (disk : Disk) (anchor : Path.Anchor) (reversed : List Text) :
    disk.GrowsTo (disk.makeAlong anchor reversed).2 := by
  induction reversed generalizing disk with
  | nil =>
      rw [makeAlong, acceptPresent_disk]
      exact GrowsTo.refl disk
  | cons name above inductionHypothesis =>
      have earlier := inductionHypothesis disk
      rw [makeAlong]
      split
      · rename_i made
        exact growsTo_of_makeIn made
      · split
        · rename_i made
          rw [made] at earlier
          exact earlier
        · rename_i made
          rw [made] at earlier
          split
          · rename_i last
            exact earlier.trans (growsTo_of_makeIn last)
          · exact earlier
          · rw [acceptPresent_disk]
            exact earlier
      · rw [acceptPresent_disk]
        exact GrowsTo.refl disk

/-- Making directories adds directories and nothing else, also when it fails. -/
theorem growsTo_makeDirectories (disk : Disk) (path : Path) :
    disk.GrowsTo (disk.makeDirectories path).2 := by
  unfold makeDirectories
  split_ifs
  · exact GrowsTo.refl disk
  · exact GrowsTo.refl disk
  · exact growsTo_makeAlong disk _ _

/-! ## Writing -/

/-- What is found free at a place has nothing there. -/
theorem foundAt_eq_free {other : Place} (found : .free other = disk.foundAt place) :
    other = place ∧ disk.node? place = none := by
  unfold foundAt at found
  split at found
  · cases found
  · rename_i absent
    exact ⟨Found.free.inj found, absent⟩

/-- What is found there at a place is its node. -/
theorem foundAt_eq_there {other : Place} {node : Node}
    (found : .there other node = disk.foundAt place) :
    other = place ∧ disk.node? place = some node := by
  unfold foundAt at found
  split at found
  · rename_i present
    obtain ⟨rfl, rfl⟩ := Found.there.inj found
    exact ⟨rfl, present⟩
  · cases found

/-- Writing at a place puts the text there, or fails and changes nothing. -/
theorem writeAt_eq {path : Path} {text : Text} {outcome : Except Fault Unit}
    (written : disk.writeAt path place text = (outcome, left)) :
    (outcome = .ok () ∧ left = disk.put place (.file (.text text))) ∨
      ((∃ fault, outcome = .error fault) ∧ left = disk) := by
  unfold writeAt at written
  split at written
  · obtain ⟨rfl, rfl⟩ := Prod.mk.inj written
    exact .inr ⟨⟨_, rfl⟩, rfl⟩
  · obtain ⟨rfl, rfl⟩ := Prod.mk.inj written
    exact .inl ⟨rfl, rfl⟩

/-- A file is written where no directory is, or nothing happens. -/
theorem writeText_pathOf (clean : place.IsTidy) (clear : disk.HasNoLink [] place) {text : Text}
    {outcome : Except Fault Unit} (written : disk.writeText (pathOf place) text = (outcome, left)) :
    (outcome = .ok () ∧ hasZero (pathOf place) = false ∧ disk.Reaches place ∧
        disk.node? place ≠ some .directory ∧ left = disk.put place (.file (.text text))) ∨
      ((∃ fault, outcome = .error fault) ∧ left = disk) := by
  unfold writeText at written
  split_ifs at written with zero
  · obtain ⟨rfl, rfl⟩ := Prod.mk.inj written
    exact .inr ⟨⟨_, rfl⟩, rfl⟩
  · have noZero : hasZero (pathOf place) = false := by simpa using zero
    split at written
    · obtain ⟨rfl, rfl⟩ := Prod.mk.inj written
      exact .inr ⟨⟨_, rfl⟩, rfl⟩
    · rename_i other walked
      obtain ⟨reaches, found⟩ := (walk_pathOf clean clear true _).mp walked
      obtain ⟨rfl, absent⟩ := foundAt_eq_free found
      refine (writeAt_eq written).imp_left fun ⟨done, put⟩ => ⟨done, noZero, reaches, ?_, put⟩
      simp [absent]
    · rename_i other content walked
      obtain ⟨reaches, found⟩ := (walk_pathOf clean clear true _).mp walked
      obtain ⟨rfl, present⟩ := foundAt_eq_there found
      refine (writeAt_eq written).imp_left fun ⟨done, put⟩ => ⟨done, noZero, reaches, ?_, put⟩
      simp [present]
    · obtain ⟨rfl, rfl⟩ := Prod.mk.inj written
      exact .inr ⟨⟨_, rfl⟩, rfl⟩

/-! ## Removing -/

/-- A file that is reached is removed; otherwise nothing happens. -/
theorem remove_pathOf (clean : place.IsTidy) (clear : disk.HasNoLink [] place)
    (noZero : hasZero (pathOf place) = false) (permits : disk.refuses .remove place = none)
    {outcome : Except Fault Unit} (removed : disk.remove (pathOf place) = (outcome, left)) :
    (disk.node? place ≠ some .directory ∧ left = disk.drop place) ∨
      (left = disk ∧
        (disk.Reaches place → ∀ content, disk.node? place ≠ some (.file content))) := by
  have stuck {refusal : Refusal} (walked : disk.walk (pathOf place) false = .error refusal) :
      ¬ disk.Reaches place := by
    intro reaches
    rw [(walk_pathOf clean clear false _).mpr ⟨reaches, rfl⟩] at walked
    cases walked
  unfold remove at removed
  rw [if_neg (by simp [noZero])] at removed
  split at removed
  · rename_i walked
    exact .inr ⟨(Prod.mk.inj removed).2.symm, fun reaches => absurd reaches (stuck walked)⟩
  · rename_i walked
    exact .inr ⟨(Prod.mk.inj removed).2.symm, fun reaches => absurd reaches (stuck walked)⟩
  · rename_i walked
    obtain ⟨-, found⟩ := (walk_pathOf clean clear false _).mp walked
    obtain ⟨rfl, absent⟩ := foundAt_eq_free found
    exact .inr ⟨(Prod.mk.inj removed).2.symm, fun _ content => by simp [absent]⟩
  · rename_i walked
    obtain ⟨-, found⟩ := (walk_pathOf clean clear false _).mp walked
    obtain ⟨rfl, present⟩ := foundAt_eq_there found
    exact .inr ⟨(Prod.mk.inj removed).2.symm, fun _ content => by simp [present]⟩
  · rename_i other node notDirectory walked
    obtain ⟨-, found⟩ := (walk_pathOf clean clear false _).mp walked
    obtain ⟨rfl, present⟩ := foundAt_eq_there found
    rw [permits] at removed
    refine .inl ⟨fun same => ?_, (Prod.mk.inj removed).2.symm⟩
    exact notDirectory (Option.some.inj (present.symm.trans same))

end Issuebook.Disk

/-! ## Disks with links -/

namespace Issuebook

namespace Disk

variable {disk : Disk}

/-- What a walk finds is there. -/
def Found.IsOn (disk : Disk) : Found → Prop
  | .there place node => disk.node? place = some node
  | .free place => disk.node? place = none

/-- What a walk finds is on the disk, if it is behind every link. -/
theorem isOn_of_walkThrough {followLast : Bool}
    {follow : Place → Path → List Text → Except Refusal Found}
    (follows : ∀ {directory target rest found}, follow directory target rest = .ok found →
      found.IsOn disk) {place : Place} {rest : List Text} {found : Found}
    (walked : disk.walkThrough followLast follow place rest = .ok found) : found.IsOn disk := by
  induction rest generalizing place with
  | nil =>
      rw [walkThrough] at walked
      split at walked
      · next node present =>
          obtain rfl := Except.ok.inj walked
          exact present
      · next absent =>
          obtain rfl := Except.ok.inj walked
          exact absent
  | cons segment rest inductionHypothesis =>
      rw [walkThrough] at walked
      split at walked
      · cases walked
      · split_ifs at walked with back long last
        · exact inductionHypothesis walked
        · split at walked
          · next target linked =>
              obtain rfl := Except.ok.inj walked
              exact linked
          · exact inductionHypothesis walked
        · split at walked
          · exact follows walked
          · exact inductionHypothesis walked
      · cases walked

/-- What a walk finds from a place is on the disk. -/
theorem isOn_of_walkFrom {followLast : Bool} {links : Nat} {place : Place} {rest : List Text}
    {found : Found} (walked : disk.walkFrom followLast links place rest = .ok found) :
    found.IsOn disk := by
  induction links generalizing place rest found with
  | zero => exact isOn_of_walkThrough (fun impossible => by cases impossible) walked
  | succ links inductionHypothesis =>
      exact isOn_of_walkThrough (fun followed => inductionHypothesis followed) walked

/-- So is what a path finds. -/
theorem isOn_of_walk {path : Path} {followLast : Bool} {found : Found}
    (walked : disk.walk path followLast = .ok found) : found.IsOn disk := by
  unfold walk at walked
  split_ifs at walked
  exact isOn_of_walkFrom walked

/-- Writing at a place that is no directory makes a disk evolve. -/
theorem evolvesTo_writeAt (path : Path) {place : Place} (text : Text)
    (free : disk.node? place ≠ some .directory) :
    disk.EvolvesTo (disk.writeAt path place text).2 := by
  unfold writeAt
  split
  · exact .refl disk
  · exact evolvesTo_put free

/-- So does writing to a path. -/
theorem evolvesTo_writeText (disk : Disk) (path : Path) (text : Text) :
    disk.EvolvesTo (disk.writeText path text).2 := by
  unfold writeText
  split_ifs
  · exact .refl disk
  · split
    · exact .refl disk
    · next place walked =>
        have absent : disk.node? place = none := isOn_of_walk walked
        exact evolvesTo_writeAt path text (by simp [absent])
    · next place content walked =>
        have present : disk.node? place = some (.file content) := isOn_of_walk walked
        exact evolvesTo_writeAt path text (by simp [present])
    · exact .refl disk

/-- So does removing a file. -/
theorem evolvesTo_remove (disk : Disk) (path : Path) :
    disk.EvolvesTo (disk.remove path).2 := by
  unfold remove
  split_ifs
  · exact .refl disk
  · split
    · exact .refl disk
    · exact .refl disk
    · exact .refl disk
    · exact .refl disk
    · next place node notDirectory walked =>
        have present : disk.node? place = some node := isOn_of_walk walked
        split
        · exact .refl disk
        · refine evolvesTo_drop fun same => ?_
          exact notDirectory (Option.some.inj (present.symm.trans same))

end Disk

end Issuebook
