import Issuebook.Book.Writing
import Issuebook.Proofs.Book.Home
import Issuebook.Proofs.Disk.Effects

/-!
# Steps of a batch

What writing one issue of a batch does to a book without links: its document is put at the planned
place, its former file goes unless it is that place, and nothing else changes but directories that
are new.
-/

namespace Issuebook

namespace Book

open Disk

variable {disk left : Disk} {root : Path} {home place : Place} {text : Text}

/-- A former file that a book can have: below its directory, in canonical form. -/
def IsFormer (home : Place) (path : Path) : Prop :=
  ∃ former : Place, path = pathOf former ∧ former.IsInside home ∧ hasZero (pathOf former) = false

/-- A file of the book is written in directories that are made for it, or only some of those are
made. -/
theorem writeFile_cases (book : disk.HasBook root home) (inside : place.IsInside home)
    {outcome : Except Fault Unit} (written : writeFile disk (pathOf place) text = (outcome, left)) :
    (outcome = .ok () ∧ ∃ made, disk.GrowsTo made ∧ made.Reaches place ∧
        made.node? place ≠ some .directory ∧ left = made.put place (.file (.text text))) ∨
      (∃ fault, outcome = .error fault) ∧ disk.GrowsTo left := by
  have grows := growsTo_makeDirectories disk (pathOf place).parent
  unfold writeFile at written
  split at written
  · rename_i made makes
    rw [makes] at grows
    have clear := (book.hasNoLink inside).evolves grows.evolvesTo
    rcases writeText_pathOf inside.clean clear written with
      ⟨done, -, reaches, free, put⟩ | ⟨failed, unchanged⟩
    · exact .inl ⟨done, made, grows, reaches, free, put⟩
    · rw [unchanged]
      exact .inr ⟨failed, grows⟩
  · rename_i refused
    rw [written] at grows refused
    refine .inr ⟨?_, grows⟩
    cases outcome with
    | ok => exact absurd rfl (refused left)
    | error fault => exact ⟨fault, rfl⟩

/-- Removing a file of the book is removing it from the disk. -/
theorem removeFile_pathOf (book : disk.HasBook root home) (inside : place.IsInside home)
    (noZero : hasZero (pathOf place) = false) :
    (removeFile disk root (pathOf place)).2 = (disk.remove (pathOf place)).2 := by
  rw [removeFile, book.ensureWithin_pathOf inside noZero]
  dsimp only
  split <;> rename_i removed <;> rw [removed]

/-- An earlier file is dropped, or there is none to drop elsewhere. -/
theorem removeStale_cases (book : disk.HasBook root home) {former : Option Path}
    (formers : ∀ path ∈ former, IsFormer home path) {stale : StaleOutcome}
    (removed : removeStale disk root (pathOf place) former = (.ok stale, left)) :
    (left = disk ∧ ∀ other, former = some (pathOf other) → other ≠ place →
        disk.Reaches other → ∀ content, disk.node? other ≠ some (.file content)) ∨
      ∃ other, former = some (pathOf other) ∧ other ≠ place ∧
        disk.node? other ≠ some .directory ∧ left = disk.drop other := by
  cases former with
  | none =>
      refine .inl ⟨(Prod.mk.inj removed).2.symm, ?_⟩
      intro other impossible
      cases impossible
  | some path =>
      obtain ⟨former, rfl, inside, noZero⟩ := formers path rfl
      rw [removeStale, book.resolve_pathOf inside noZero] at removed
      dsimp only at removed
      split_ifs at removed with same
      · refine .inl ⟨(Prod.mk.inj removed).2.symm, fun other found apart => ?_⟩
        have own := pathOf_injective (Option.some.inj found)
        exact absurd (own.symm.trans (pathOf_injective same)) apart
      · have apart : former ≠ place := fun equal => same (congrArg pathOf equal)
        have effect : left = (disk.remove (pathOf former)).2 := by
          rw [← removeFile_pathOf book inside noZero]
          split at removed
          · rename_i target rest removes
            rw [removes]
            exact (Prod.mk.inj removed).2.symm
          · rename_i fault rest removes
            split_ifs at removed
            · rw [removes]
              exact (Prod.mk.inj removed).2.symm
            · cases (Prod.mk.inj removed).1
        rcases remove_pathOf inside.clean (book.hasNoLink inside) noZero (book.permits former)
          (Prod.eta _).symm with ⟨free, drops⟩ | ⟨stays, gone⟩
        · exact .inr ⟨former, rfl, apart, free, effect.trans drops⟩
        · refine .inl ⟨effect.trans stays, fun other found _ => ?_⟩
          rw [← pathOf_injective (Option.some.inj found)]
          exact gone

/-- What writing a document at a place does to a disk, when the issue had a former file. -/
structure Writes (disk left : Disk) (place : Place) (document : Text) (former : Option Path) :
    Prop where
  /-- Directories stay, and no link is new. -/
  evolves : disk.EvolvesTo left
  /-- The place is reached. -/
  reaches : left.Reaches place
  /-- The document is there. -/
  written : left.node? place = some (.file (.text document))
  /-- Other places but that of the former file stay. -/
  keeps : ∀ {other node}, other ≠ place → former ≠ some (pathOf other) →
    disk.node? other = some node → left.node? other = some node
  /-- What is new is a directory. -/
  adds : ∀ {other node}, other ≠ place → left.node? other = some node →
    disk.node? other = some node ∨ node = .directory
  /-- The former file goes, when it is reached. -/
  removes : ∀ {other}, other ≠ place → former = some (pathOf other) → disk.Reaches other →
    ∀ content, left.node? other ≠ some (.file content)

/-- A document is put in a directory that was made for it. -/
theorem writes_put {made : Disk} (present : place ≠ []) (grows : disk.GrowsTo made)
    (reaches : made.Reaches place) (free : made.node? place ≠ some .directory) :
    Writes disk (made.put place (.file (.text text))) place text none where
  evolves := grows.evolvesTo.trans (evolvesTo_put free)
  reaches := reaches.evolves (evolvesTo_put free)
  written := node?_put_same present
  keeps apart _ found := by
    rw [node?_put_other apart]
    exact grows.keeps found
  adds apart found := by
    rw [node?_put_other apart] at found
    exact grows.adds found
  removes _ impossible := by cases impossible

/-- The former file was gone already. -/
theorem Writes.of_gone {former : Option Path} (writes : Writes disk left place text none)
    (gone : ∀ {other}, former = some (pathOf other) → other ≠ place →
      left.Reaches other → ∀ content, left.node? other ≠ some (.file content)) :
    Writes disk left place text former where
  evolves := writes.evolves
  reaches := writes.reaches
  written := writes.written
  keeps apart _ found := writes.keeps apart (by simp) found
  adds := writes.adds
  removes apart found reaches := gone found apart (reaches.evolves writes.evolves)

/-- The former file is dropped. -/
theorem Writes.drop {other : Place} {former : Option Path}
    (writes : Writes disk left place text none) (found : former = some (pathOf other))
    (apart : other ≠ place) (free : left.node? other ≠ some .directory) :
    Writes disk (left.drop other) place text former where
  evolves := writes.evolves.trans (evolvesTo_drop free)
  reaches := writes.reaches.evolves (evolvesTo_drop free)
  written := by
    rw [node?_drop_other (Ne.symm apart)]
    exact writes.written
  keeps {another node} distinct own present := by
    have different : another ≠ other := by
      rintro rfl
      exact own found
    rw [node?_drop_other different]
    exact writes.keeps distinct (by simp) present
  adds {another node} distinct present := by
    by_cases same : another = other
    · subst same
      rw [node?_drop_same (by rintro rfl; exact free rfl)] at present
      cases present
    · rw [node?_drop_other same] at present
      exact writes.adds distinct present
  removes {another} _ own _ content := by
    have same : another = other := pathOf_injective (Option.some.inj (own.symm.trans found))
    subst same
    rw [node?_drop_same (by rintro rfl; exact free rfl)]
    simp

/-- An issue of a batch fails and changes nothing but directories, or it is written. -/
theorem writeOne_cases (book : disk.HasBook root home) {previous : Entries Path}
    {planned : PlannedWrite} (inside : place.IsInside home) (target : planned.path = pathOf place)
    (formers : ∀ path ∈ previous.get? planned.issue.id, IsFormer home path)
    {outcome : WriteOutcome}
    (written : writeOne disk root previous planned = (.ok outcome, left)) :
    (∃ fault, outcome = .failed fault) ∧ disk.GrowsTo left ∨
      (∃ stale, outcome = .written stale) ∧
        Writes disk left place (planned.issue.withSource .file).toDocument
          (previous.get? planned.issue.id) := by
  unfold writeOne at written
  rw [target] at written
  split at written
  · rename_i fault rest failed
    split_ifs at written
    · obtain ⟨same, rfl⟩ := Prod.mk.inj written
      rcases writeFile_cases book inside failed with ⟨impossible, -⟩ | ⟨-, grows⟩
      · cases impossible
      · exact .inl ⟨⟨fault, (Except.ok.inj same).symm⟩, grows⟩
    · cases (Prod.mk.inj written).1
  · rename_i rest done
    rcases writeFile_cases book inside done with
      ⟨-, made, grows, reaches, free, rfl⟩ | ⟨⟨_, impossible⟩, -⟩
    · have wrote : Writes disk _ place (planned.issue.withSource .file).toDocument none :=
        writes_put inside.ne_nil grows reaches free
      split at written
      · rename_i stale last removes
        obtain ⟨same, rfl⟩ := Prod.mk.inj written
        refine .inr ⟨⟨stale, (Except.ok.inj same).symm⟩, ?_⟩
        rcases removeStale_cases (book.evolves wrote.evolves) formers removes with
          ⟨rfl, gone⟩ | ⟨other, found, apart, isFree, rfl⟩
        · exact wrote.of_gone fun found apart => gone _ found apart
        · exact wrote.drop found apart isFree
      · cases (Prod.mk.inj written).1
    · cases impossible

end Book

end Issuebook

/-!
## Books that evolve

What a book does to a disk with any links: directories stay and no link is new, whether an
operation succeeds or fails.
-/

namespace Issuebook

namespace Book

open Disk

/-- A disk evolves when a file of the book is written. -/
theorem evolvesTo_writeFile (disk : Disk) (path : Path) (text : Text) :
    disk.EvolvesTo (writeFile disk path text).2 := by
  have grows := growsTo_makeDirectories disk path.parent
  unfold writeFile
  split
  · next made makes =>
      rw [makes] at grows
      exact grows.evolvesTo.trans (evolvesTo_writeText made path text)
  · exact grows.evolvesTo

/-- It evolves when one is removed. -/
theorem evolvesTo_removeFile (disk : Disk) (root path : Path) :
    disk.EvolvesTo (removeFile disk root path).2 := by
  unfold removeFile
  split
  · exact .refl disk
  · next target _ =>
      have removes := evolvesTo_remove disk target
      split <;> next done =>
        rw [done] at removes
        exact removes

/-- It evolves when an earlier one is removed. -/
theorem evolvesTo_removeStale (disk : Disk) (root path : Path) (previous : Option Path) :
    disk.EvolvesTo (removeStale disk root path previous).2 := by
  unfold removeStale
  split
  · exact .refl disk
  · next previous =>
      have removes := evolvesTo_removeFile disk root previous
      split
      · exact .refl disk
      · split_ifs
        · exact .refl disk
        · split
          · next done =>
              rw [done] at removes
              exact removes
          · next done =>
              rw [done] at removes
              split_ifs <;> exact removes

/-- So it does when an issue is written. -/
theorem evolvesTo_writeOne (disk : Disk) (root : Path) (former : Entries Path)
    (planned : PlannedWrite) : disk.EvolvesTo (writeOne disk root former planned).2 := by
  have writes := evolvesTo_writeFile disk planned.path (planned.issue.withSource .file).toDocument
  unfold writeOne
  split
  · next done =>
      rw [done] at writes
      split_ifs <;> exact writes
  · next left done =>
      have removes := evolvesTo_removeStale left root planned.path (former.get? planned.issue.id)
      rw [done] at writes
      split <;> next gone =>
        rw [gone] at removes
        exact writes.trans removes

/-- So it does in a whole batch. -/
theorem evolvesTo_writeAll (disk : Disk) (root : Path) (former : Entries Path)
    (planned : List PlannedWrite) : disk.EvolvesTo (writeAll disk root former planned).disk := by
  induction planned generalizing disk with
  | nil => exact .refl disk
  | cons first later inductionHypothesis =>
      have writes := evolvesTo_writeOne disk root former first
      rw [writeAll]
      split
      · next done =>
          rw [done] at writes
          exact writes
      · next left done =>
          rw [done] at writes
          exact writes.trans (inductionHypothesis left)

end Book

end Issuebook
