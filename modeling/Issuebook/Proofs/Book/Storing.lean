import Issuebook.Proofs.Book.Keeping
import Issuebook.Proofs.Disk.Listing

/-!
# What a batch leaves on a disk

A batch that writes every issue reaches each planned file, and nothing is new but what is at planned
places and directories on the way to them: `Trace.spreadsTo`. Where no issue had a file before, all
other files stay, and where no two issues share a file, each file holds its issue: `Trace.stores`.
-/

namespace Issuebook

namespace Disk

variable {disk left last : Disk} {place : Place} {targets others : List Place} {content : Content}

/-- A disk with nothing new but what is at some places, all of them reached, and directories on the
way to them. -/
structure SpreadsTo (disk left : Disk) (targets : List Place) : Prop where
  /-- Directories stay, and no link is new. -/
  evolves : disk.EvolvesTo left
  /-- What is new and not at one of the places is a directory. -/
  adds : ∀ {place node}, place ∉ targets → left.node? place = some node →
    disk.node? place = some node ∨ node = .directory
  /-- What is new is on the way to one of the places. -/
  onWay : ∀ {place}, left.node? place ≠ none →
    disk.node? place ≠ none ∨ ∃ target ∈ targets, place <+: target
  /-- No place is listed twice. -/
  distinct : ∀ {start}, (disk.inner start).Nodup → (left.inner start).Nodup
  /-- The places are reached by paths that can be asked about. -/
  reached : ∀ target ∈ targets, left.Reaches target ∧ hasZero (pathOf target) = false

namespace SpreadsTo

/-- No file is spread by staying. -/
theorem refl (disk : Disk) : disk.SpreadsTo disk [] where
  evolves := .refl disk
  adds _ := .inl
  onWay := .inl
  distinct := id
  reached _ impossible := absurd impossible List.not_mem_nil

/-- Spreading goes on. -/
theorem trans (first : disk.SpreadsTo left targets) (second : left.SpreadsTo last others) :
    disk.SpreadsTo last (targets ++ others) where
  evolves := first.evolves.trans second.evolves
  adds {place node} apart present := by
    rw [List.mem_append, not_or] at apart
    exact (second.adds apart.2 present).elim (first.adds apart.1) .inr
  onWay taken := by
    rcases second.onWay taken with before | ⟨target, listed, further⟩
    · refine (first.onWay before).imp_right fun ⟨target, listed, further⟩ => ?_
      exact ⟨target, List.mem_append_left _ listed, further⟩
    · exact .inr ⟨target, List.mem_append_right _ listed, further⟩
  distinct before := second.distinct (first.distinct before)
  reached := List.forall_mem_append.mpr
    ⟨fun target listed => (first.reached target listed).imp_left (·.evolves second.evolves),
      second.reached⟩

/-- A file is put in a directory that was made for it. -/
theorem put (paves : disk.PavesTo left place) (noZero : hasZero (pathOf place) = false)
    (reaches : left.Reaches place) (free : left.node? place ≠ some .directory) :
    disk.SpreadsTo (left.put place (.file content)) [place] where
  evolves := paves.grows.evolvesTo.trans (evolvesTo_put free)
  adds {other node} apart found := by
    rw [List.mem_singleton] at apart
    rw [node?_put_other apart] at found
    exact paves.grows.adds found
  onWay {other} taken := by
    by_cases same : other = place
    · exact .inr ⟨place, List.mem_singleton_self place, same ▸ List.prefix_rfl⟩
    · rw [node?_put_other same] at taken
      refine (paves.onWay taken).imp_right fun further => ?_
      exact ⟨place, List.mem_singleton_self place, further⟩
  distinct before := nodup_inner_put (paves.distinct before)
  reached := List.forall_mem_singleton.mpr ⟨reaches.evolves (evolvesTo_put free), noZero⟩

/-- Nothing is new where a file goes. -/
theorem drop (free : disk.node? place ≠ some .directory) : disk.SpreadsTo (disk.drop place) [] := by
  have kept {other : Place} {node : Node} (present : (disk.drop place).node? other = some node) :
      disk.node? other = some node := by
    by_cases same : other = place
    · subst same
      rw [node?_drop_same (by rintro rfl; exact free rfl)] at present
      cases present
    · rwa [node?_drop_other same] at present
  constructor
  case evolves => exact evolvesTo_drop free
  case adds => exact fun _ present => .inl (kept present)
  case onWay =>
    intro other taken
    obtain ⟨node, present⟩ := Option.ne_none_iff_exists'.mp taken
    exact .inl (by simp [kept present])
  case distinct => exact nodup_inner_drop
  case reached => exact fun _ impossible => absurd impossible List.not_mem_nil

end SpreadsTo

end Disk

namespace Book

open Disk

variable {disk left last : Disk} {root : Path} {place home : Place} {text : Text}
  {previous : Entries Path} {planned : PlannedWrite} {outcome : WriteOutcome}
  {report front back : WriteReport}

/-- The places of the planned files. -/
def places (report : WriteReport) : List Place :=
  report.map fun entry => entry.1.path.segments

/-- What a batch does to a disk when it writes every issue of its report. -/
structure Stores (disk left : Disk) (report : WriteReport) : Prop
    extends disk.SpreadsTo left (places report) where
  /-- What is not at a planned place stays. -/
  keeps : ∀ {place node}, place ∉ places report → disk.node? place = some node →
    left.node? place = some node
  /-- Files that no two issues share hold their issues. -/
  held : (places report).Nodup → ∀ entry ∈ report,
    left.content? entry.1.path = some (.text entry.1.document)

namespace Stores

/-- No entry is stored by staying. -/
theorem nil (disk : Disk) : Stores disk disk [] where
  toSpreadsTo := .refl disk
  keeps _ present := present
  held _ _ impossible := absurd impossible List.not_mem_nil

/-- Entries are stored one behind the other. -/
theorem append (first : Stores disk left front) (second : Stores left last back) :
    Stores disk last (front ++ back) := by
  have parts : places (front ++ back) = places front ++ places back := List.map_append
  constructor
  case toSpreadsTo => exact parts ▸ first.toSpreadsTo.trans second.toSpreadsTo
  case keeps =>
    intro place node apart present
    rw [parts, List.mem_append, not_or] at apart
    exact second.keeps apart.2 (first.keeps apart.1 present)
  case held =>
    rw [parts]
    intro distinct
    obtain ⟨frontDistinct, backDistinct, apart⟩ := List.nodup_append.mp distinct
    refine List.forall_mem_append.mpr ⟨fun entry listed => ?_, second.held backDistinct⟩
    have own : entry.1.path.segments ∈ places front := List.mem_map_of_mem listed
    have held := content?_eq_some.mp (first.held frontDistinct entry listed)
    exact content?_eq_some.mpr (second.keeps (fun again => apart _ own _ again rfl) held)

/-- A document is put in a directory that was made for it. -/
theorem put {made : Disk} (target : planned.path = pathOf place) (paves : disk.PavesTo made place)
    (noZero : hasZero (pathOf place) = false) (reaches : made.Reaches place)
    (free : made.node? place ≠ some .directory) :
    Stores disk (made.put place (.file (.text planned.document))) [(planned, outcome)] := by
  have present : place ≠ [] := by
    rintro rfl
    exact free rfl
  have own : places [(planned, outcome)] = [place] := by
    rw [places, List.map_singleton, target]
    rfl
  constructor
  case toSpreadsTo => exact own ▸ .put paves noZero reaches free
  case keeps =>
    intro other node apart found
    rw [own, List.mem_singleton] at apart
    rw [node?_put_other apart]
    exact paves.grows.keeps found
  case held =>
    intro _ entry listed
    obtain rfl := List.mem_singleton.mp listed
    rw [content?_eq_some, target]
    exact node?_put_same present

end Stores

/-- A file is written in a directory that is made for it. -/
theorem writeFile_pathOf (clean : place.IsTidy) (clear : disk.HasNoLink [] place)
    (written : writeFile disk (pathOf place) text = (.ok (), left)) :
    ∃ made, disk.PavesTo made place ∧ hasZero (pathOf place) = false ∧ made.Reaches place ∧
      made.node? place ≠ some .directory ∧ left = made.put place (.file (.text text)) := by
  have above : place.dropLast <+: place := List.dropLast_prefix place
  have paves : disk.PavesTo (disk.makeDirectories (pathOf place.dropLast)).2 place :=
    (pavesTo_makeDirectories (fun segment listed => clean segment (above.subset listed))
      fun front isFront => clear front (isFront.trans above)).mono above
  unfold writeFile at written
  split at written
  · next made makes =>
      have same : (disk.makeDirectories (pathOf place.dropLast)).2 = made := congrArg Prod.snd makes
      rw [same] at paves
      have clear := clear.evolves paves.grows.evolvesTo
      rcases writeText_pathOf clean clear written with
        ⟨-, noZero, reaches, free, put⟩ | ⟨⟨fault, failed⟩, -⟩
      · exact ⟨made, paves, noZero, reaches, free, put⟩
      · cases failed
  · next refused =>
      exact absurd written (refused left)

/-- A step that writes an issue without a former file stores it. -/
theorem stores_step (target : planned.path = pathOf place) (clean : place.IsTidy)
    (clear : disk.HasNoLink [] place) (wrote : outcome.isWritten = true)
    (tried : writeOne disk root [] planned = (.ok outcome, left)) :
    Stores disk left [(planned, outcome)] := by
  unfold writeOne at tried
  rw [target] at tried
  split at tried
  · split_ifs at tried
    · obtain rfl := Except.ok.inj (Prod.mk.inj tried).1
      cases wrote
    · cases (Prod.mk.inj tried).1
  · next written =>
      obtain ⟨made, paves, noZero, reaches, free, rfl⟩ := writeFile_pathOf clean clear written
      obtain rfl := (Prod.mk.inj tried).2
      exact .put target paves noZero reaches free

/-- A batch that writes every issue stores all of them. -/
theorem Trace.stores (trace : Trace root [] disk report left)
    (clear : ∀ entry ∈ report, ∃ place : Place, entry.1.path = pathOf place ∧ place.IsTidy ∧
      disk.HasNoLink [] place)
    (wrote : ∀ entry ∈ report, entry.2.isWritten = true) : Stores disk left report := by
  induction trace with
  | done => exact .nil _
  | step tried later inductionHypothesis =>
      obtain ⟨⟨place, target, clean, clearHere⟩, clearLater⟩ := List.forall_mem_cons.mp clear
      obtain ⟨wroteHere, wroteLater⟩ := List.forall_mem_cons.mp wrote
      have step := stores_step target clean clearHere wroteHere tried
      refine step.append (inductionHypothesis (fun entry listed => ?_) wroteLater)
      obtain ⟨other, path, tidy, clear⟩ := clearLater entry listed
      exact ⟨other, path, tidy, clear.evolves step.evolves⟩

/-- A step that writes an issue adds its file and directories on the way to it, whatever file the
issue had. -/
theorem spreadsTo_step (book : disk.HasBook root home) (inside : place.IsInside home)
    (target : planned.path = pathOf place) (wrote : outcome.isWritten = true)
    (formers : ∀ path ∈ previous.get? planned.issue.id, IsFormer home path)
    (tried : writeOne disk root previous planned = (.ok outcome, left)) :
    disk.SpreadsTo left [place] := by
  unfold writeOne at tried
  rw [target] at tried
  split at tried
  · split_ifs at tried
    · obtain rfl := Except.ok.inj (Prod.mk.inj tried).1
      cases wrote
    · cases (Prod.mk.inj tried).1
  · next written =>
      obtain ⟨made, paves, noZero, reaches, free, rfl⟩ :=
        writeFile_pathOf inside.clean (book.hasNoLink inside) written
      have put : disk.SpreadsTo (made.put place (.file (.text
          (planned.issue.withSource .file).toDocument))) [place] :=
        SpreadsTo.put paves noZero reaches free
      split at tried
      · next stale last removes =>
          obtain rfl := (Prod.mk.inj tried).2
          rcases removeStale_cases (book.evolves put.evolves) formers removes with
            ⟨rfl, -⟩ | ⟨other, -, -, isFree, rfl⟩
          · exact put
          · exact put.trans (.drop isFree)
      · cases (Prod.mk.inj tried).1

/-- A batch that writes every issue adds their files and directories on the way to them. -/
theorem Trace.spreadsTo (trace : Trace root previous disk report left)
    (book : disk.HasBook root home) (within : IsWithin home previous report)
    (wrote : ∀ entry ∈ report, entry.2.isWritten = true) :
    disk.SpreadsTo left (places report) := by
  induction trace with
  | done => exact .refl _
  | @step _ _ _ planned _ _ tried later inductionHypothesis =>
      obtain ⟨wroteHere, wroteLater⟩ := List.forall_mem_cons.mp wrote
      obtain ⟨place, target, inside⟩ := within.planned _ List.mem_cons_self
      have step := spreadsTo_step book inside target wroteHere (within.formers _) tried
      have own : planned.path.segments = place := congrArg Path.segments target
      rw [← own] at step
      exact step.trans (inductionHypothesis (book.evolves step.evolves) within.tail wroteLater)

end Book

end Issuebook
