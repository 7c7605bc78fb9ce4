import Issuebook.Disk.Walk
import Mathlib.Data.List.Infix
import Mathlib.Tactic.SplitIfs

/-!
# Places of a disk

What is at a place after another was set or emptied. A disk grows when nothing but directories
is added to it, and evolves when directories stay and no link is new; what is done to files does
one or the other.
-/

namespace Issuebook

namespace Disk

variable {disk left last : Disk} {place other : Place} {node : Node}

/-- Every place but the root has the node that is listed for it. -/
theorem node?_of_ne_nil (present : place ≠ []) :
    disk.node? place = find? place disk.nodes := by
  cases place with
  | nil => exact absurd rfl present
  | cons => rfl

/-- A node that is found is listed. -/
theorem mem_of_find? {nodes : List (Place × Node)} (found : find? place nodes = some node) :
    (place, node) ∈ nodes := by
  induction nodes with
  | nil => cases found
  | cons entry nodes inductionHypothesis =>
      obtain ⟨name, old⟩ := entry
      rw [find?] at found
      split_ifs at found with same
      · rw [same, Option.some.inj found]
        exact List.mem_cons_self
      · exact List.mem_cons_of_mem _ (inductionHypothesis found)

/-- After a node was set, it is found at its place, and all others where they were. -/
theorem find?_setNode (nodes : List (Place × Node)) :
    find? other (setNode place node nodes) =
      if other = place then some node else find? other nodes := by
  induction nodes with
  | nil =>
      simp only [setNode, find?, eq_comm]
  | cons entry nodes inductionHypothesis =>
      obtain ⟨found, old⟩ := entry
      by_cases same : found = place
      · subst same
        by_cases own : other = found
        · simp [setNode, find?, own]
        · simp [setNode, find?, own, Ne.symm own]
      · simp only [setNode, if_neg same, find?, inductionHypothesis]
        by_cases own : found = other
        · subst own
          simp [same]
        · simp [own]

/-- After a place was left out, nothing is found there, and all else where it was. -/
theorem find?_filter (nodes : List (Place × Node)) :
    find? other (nodes.filter fun (found, _) => found ≠ place) =
      if other = place then none else find? other nodes := by
  induction nodes with
  | nil => simp [find?]
  | cons entry nodes inductionHypothesis =>
      obtain ⟨found, old⟩ := entry
      rw [List.filter_cons]
      by_cases same : found = place
      · subst same
        rw [if_neg (by simp), inductionHypothesis]
        by_cases own : other = found
        · simp [own]
        · simp [own, find?, Ne.symm own]
      · rw [if_pos (by simpa using same), find?, inductionHypothesis]
        by_cases own : found = other
        · subst own
          simp [find?, same]
        · simp [find?, own]

/-- A node that is put somewhere is there. -/
theorem node?_put_same (present : place ≠ []) : (disk.put place node).node? place = some node := by
  rw [node?_of_ne_nil present, put, find?_setNode, if_pos rfl]

/-- Other places keep their nodes. -/
theorem node?_put_other (apart : other ≠ place) :
    (disk.put place node).node? other = disk.node? other := by
  cases other with
  | nil => rfl
  | cons first rest =>
      rw [node?_of_ne_nil (by simp), node?_of_ne_nil (by simp), put, find?_setNode, if_neg apart]

/-- What is dropped is gone. -/
theorem node?_drop_same (present : place ≠ []) : (disk.drop place).node? place = none := by
  rw [node?_of_ne_nil present, drop, find?_filter, if_pos rfl]

/-- Other places keep their nodes. -/
theorem node?_drop_other (apart : other ≠ place) :
    (disk.drop place).node? other = disk.node? other := by
  cases other with
  | nil => rfl
  | cons first rest =>
      rw [node?_of_ne_nil (by simp), node?_of_ne_nil (by simp), drop, find?_filter, if_neg apart]

/-- The content of the file at the place of a resolved path. -/
def content? (disk : Disk) (path : Path) : Option Content :=
  match disk.node? path.segments with
  | some (.file content) => some content
  | _ => none

/-- A path has the content of the file that stands at its place. -/
theorem content?_eq_some {path : Path} {content : Content} :
    disk.content? path = some content ↔ disk.node? path.segments = some (.file content) := by
  unfold content?
  split <;> simp_all

/-- A disk with more directories. -/
structure GrowsTo (disk left : Disk) : Prop where
  /-- The working directory stays. -/
  here : left.here = disk.here
  /-- Refusals stay. -/
  refuses : left.refuses = disk.refuses
  /-- What is there stays. -/
  keeps : ∀ {place node}, disk.node? place = some node → left.node? place = some node
  /-- What is new is a directory. -/
  adds : ∀ {place node}, left.node? place = some node →
    disk.node? place = some node ∨ node = .directory

/-- A disk grows by nothing. -/
theorem GrowsTo.refl (disk : Disk) : disk.GrowsTo disk :=
  ⟨rfl, rfl, id, .inl⟩

/-- Growing goes on. -/
theorem GrowsTo.trans (first : disk.GrowsTo left) (second : left.GrowsTo last) :
    disk.GrowsTo last where
  here := second.here.trans first.here
  refuses := second.refuses.trans first.refuses
  keeps present := second.keeps (first.keeps present)
  adds present := (second.adds present).elim first.adds .inr

/-- A directory where nothing was makes a disk grow. -/
theorem growsTo_put (absent : disk.node? place = none) :
    disk.GrowsTo (disk.put place .directory) where
  here := rfl
  refuses := rfl
  keeps {other node} present := by
    have apart : other ≠ place := by
      rintro rfl
      exact Option.some_ne_none _ (present.symm.trans absent)
    rw [node?_put_other apart]
    exact present
  adds {other node} present := by
    by_cases same : other = place
    · subst same
      cases other with
      | nil => cases absent
      | cons first rest =>
          rw [node?_put_same (by simp)] at present
          exact .inr (Option.some.inj present).symm
    · rw [node?_put_other same] at present
      exact .inl present

/-- A disk that keeps its directories and has no new link. -/
structure EvolvesTo (disk left : Disk) : Prop where
  /-- The working directory stays. -/
  here : left.here = disk.here
  /-- Refusals stay. -/
  refuses : left.refuses = disk.refuses
  /-- Directories stay. -/
  directories : ∀ {place}, disk.node? place = some .directory → left.node? place = some .directory
  /-- Links were there before. -/
  links : ∀ {place target}, left.node? place = some (.link target) →
    disk.node? place = some (.link target)

/-- A disk evolves by nothing. -/
theorem EvolvesTo.refl (disk : Disk) : disk.EvolvesTo disk :=
  ⟨rfl, rfl, id, id⟩

/-- Evolving goes on. -/
theorem EvolvesTo.trans (first : disk.EvolvesTo left) (second : left.EvolvesTo last) :
    disk.EvolvesTo last where
  here := second.here.trans first.here
  refuses := second.refuses.trans first.refuses
  directories present := second.directories (first.directories present)
  links present := first.links (second.links present)

/-- Growing is a way to evolve. -/
theorem GrowsTo.evolvesTo (grows : disk.GrowsTo left) : disk.EvolvesTo left where
  here := grows.here
  refuses := grows.refuses
  directories := grows.keeps
  links present := (grows.adds present).elim id fun impossible => by cases impossible

/-- A file may be put where no directory is. -/
theorem evolvesTo_put {content : Content} (free : disk.node? place ≠ some .directory) :
    disk.EvolvesTo (disk.put place (.file content)) where
  here := rfl
  refuses := rfl
  directories {other} present := by
    have apart : other ≠ place := by
      rintro rfl
      exact free present
    rw [node?_put_other apart]
    exact present
  links {other target} present := by
    by_cases same : other = place
    · subst same
      rw [node?_put_same (by rintro rfl; exact free rfl)] at present
      cases present
    · rw [node?_put_other same] at present
      exact present

/-- What is no directory may go. -/
theorem evolvesTo_drop (free : disk.node? place ≠ some .directory) :
    disk.EvolvesTo (disk.drop place) where
  here := rfl
  refuses := rfl
  directories {other} present := by
    have apart : other ≠ place := by
      rintro rfl
      exact free present
    rw [node?_drop_other apart]
    exact present
  links {other target} present := by
    by_cases same : other = place
    · subst same
      rw [node?_drop_same (by rintro rfl; exact free rfl)] at present
      cases present
    · rw [node?_drop_other same] at present
      exact present

end Disk

end Issuebook

/-!
## Reaching places

The way to a place that meets no link: it is its own canonical form, and a walk reaches it
exactly when all places before it are directories and no name is too long. A disk that evolves
still reaches what it reached.
-/

namespace Issuebook

/-- A place without names that a canonical form drops. -/
def Place.IsTidy (place : Place) : Prop :=
  ∀ segment ∈ place, segment ≠ Path.up ∧ Path.isSegment segment = true

/-- The root is a tidy place. -/
theorem Place.isTidy_nil : Place.IsTidy [] :=
  fun _ present => absurd present List.not_mem_nil

namespace Path

variable {kept rest : Place}

/-- Tidied segments are a tidy place. -/
theorem isTidy_tidy (clean : kept.IsTidy) (rest : List Text) :
    Place.IsTidy (tidy kept rest) := by
  induction rest generalizing kept with
  | nil => exact clean
  | cons segment rest inductionHypothesis =>
      rw [tidy]
      split_ifs with isUp isSegment
      · exact inductionHypothesis fun other present =>
          clean other (List.mem_of_mem_dropLast present)
      · refine inductionHypothesis fun other present => ?_
        rcases List.mem_append.mp present with place | place
        · exact clean other place
        · rw [List.mem_singleton.mp place]
          exact ⟨isUp, isSegment⟩
      · exact inductionHypothesis clean

/-- Segments that are tidy already stay as they are. -/
theorem tidy_of_isTidy (clean : rest.IsTidy) (kept : Place) : tidy kept rest = kept ++ rest := by
  induction rest generalizing kept with
  | nil => rw [tidy, List.append_nil]
  | cons segment rest inductionHypothesis =>
      obtain ⟨⟨notUp, isSegment⟩, later⟩ := List.forall_mem_cons.mp clean
      rw [tidy, if_neg notUp, if_pos isSegment, inductionHypothesis later, List.append_assoc,
        List.singleton_append]

/-- What remains behind a front is what the front is continued by. -/
theorem dropFront?_eq_some {front segments inner : List Text} :
    dropFront? front segments = some inner ↔ segments = front ++ inner := by
  induction front generalizing segments with
  | nil => simp [dropFront?]
  | cons expected front inductionHypothesis =>
      cases segments with
      | nil => simp [dropFront?]
      | cons found segments =>
          by_cases same : expected = found
          · simp [dropFront?, same, inductionHypothesis]
          · simp [dropFront?, same, Ne.symm same]

end Path

namespace Disk

variable {disk left : Disk} {place : Place} {rest : List Text}

/-- No link is on the way. -/
def HasNoLink (disk : Disk) (place : Place) (rest : List Text) : Prop :=
  ∀ front, front <+: rest → ∀ target, disk.node? (place ++ front) ≠ some (.link target)

/-- Without a link on a whole way, there is none on the rest of it. -/
theorem HasNoLink.tail {segment : Text} (clear : disk.HasNoLink place (segment :: rest)) :
    disk.HasNoLink (place ++ [segment]) rest := by
  intro front isFront target
  rw [List.append_assoc]
  exact clear (segment :: front) ((List.prefix_cons_inj segment).mpr isFront) target

/-- The first step of such a way is no link. -/
theorem HasNoLink.first {segment : Text} (clear : disk.HasNoLink place (segment :: rest))
    (target : Text) : disk.node? (place ++ [segment]) ≠ some (.link target) :=
  clear [segment] ⟨rest, rfl⟩ target

/-- No link comes up while a disk evolves. -/
theorem HasNoLink.evolves (clear : disk.HasNoLink place rest) (evolves : disk.EvolvesTo left) :
    left.HasNoLink place rest :=
  fun front isFront target present => clear front isFront target (evolves.links present)

/-! ## Canonical forms -/

/-- Where no link is on the way, the way is the place. -/
theorem resolveThrough_of_hasNoLink (clean : Place.IsTidy rest)
    (clear : disk.HasNoLink place rest) (active : List Place)
    (follow : List Place → Place → List Text → Place × Bool) :
    disk.resolveThrough active follow place rest = (place ++ rest, true) := by
  induction rest generalizing place with
  | nil => rw [resolveThrough, List.append_nil]
  | cons segment rest inductionHypothesis =>
      obtain ⟨⟨notUp, -⟩, later⟩ := List.forall_mem_cons.mp clean
      rw [resolveThrough, if_neg notUp]
      have next := inductionHypothesis later clear.tail
      rw [List.append_assoc, List.singleton_append] at next
      dsimp only
      split
      · rename_i target found
        exact absurd found (clear.first target)
      · exact next

/-- So it is for an absolute path. -/
theorem resolvePlace_of_hasNoLink {path : Path} (absolute : path.isAbsolute = true)
    (clean : Place.IsTidy path.segments) (clear : disk.HasNoLink [] path.segments) :
    disk.resolvePlace path = path.segments := by
  rw [resolvePlace, start, if_pos absolute, resolveFrom,
    resolveThrough_of_hasNoLink clean clear, List.nil_append,
    Path.tidy_of_isTidy clean, List.nil_append]

/-! ## Walks -/

/-- What a walk finds where it ends. -/
def foundAt (disk : Disk) (place : Place) : Found :=
  match disk.node? place with
  | some node => .there place node
  | none => .free place

/-- A walk from a place does not stop early. -/
structure Passes (disk : Disk) (place : Place) (rest : List Text) : Prop where
  /-- All places before the last are directories. -/
  directories : ∀ front, front <+: rest → front ≠ rest →
    disk.node? (place ++ front) = some .directory
  /-- No name is too long. -/
  names : ∀ segment ∈ rest, Text.byteLength segment ≤ nameLimit

/-- A way that ends passes. -/
theorem passes_nil (disk : Disk) (place : Place) : disk.Passes place [] where
  directories _ isFront other := absurd (List.prefix_nil.mp isFront) other
  names _ present := absurd present List.not_mem_nil

/-- A way passes if its first step does, from a directory with a short enough name, and then the
rest. -/
theorem passes_cons {segment : Text} : disk.Passes place (segment :: rest) ↔
    disk.node? place = some .directory ∧ Text.byteLength segment ≤ nameLimit ∧
      disk.Passes (place ++ [segment]) rest := by
  constructor
  · intro passes
    obtain ⟨short, later⟩ := List.forall_mem_cons.mp passes.names
    refine ⟨by simpa using passes.directories [] List.nil_prefix (by simp), short, ?_, later⟩
    intro front isFront other
    rw [List.append_assoc]
    refine passes.directories (segment :: front) ((List.prefix_cons_inj segment).mpr isFront) ?_
    exact fun same => other (List.cons.inj same).2
  · rintro ⟨directory, short, passes⟩
    refine ⟨fun front isFront other => ?_, List.forall_mem_cons.mpr ⟨short, passes.names⟩⟩
    cases front with
    | nil => simpa using directory
    | cons first front =>
        obtain ⟨rfl, later⟩ := List.cons_prefix_cons.mp isFront
        have next := passes.directories front later fun same => other (by rw [same])
        rwa [List.append_assoc] at next

/-- A way that passes still does after a disk has evolved. -/
theorem Passes.evolves (passes : disk.Passes place rest) (evolves : disk.EvolvesTo left) :
    left.Passes place rest where
  directories front isFront other := evolves.directories (passes.directories front isFront other)
  names := passes.names

/-- Without links a walk ends where the names lead, if it does not stop early. -/
theorem walkThrough_eq_ok (clean : Place.IsTidy rest) (clear : disk.HasNoLink place rest)
    (followLast : Bool) (follow : Place → Path → List Text → Except Refusal Found)
    (found : Found) :
    disk.walkThrough followLast follow place rest = .ok found ↔
      disk.Passes place rest ∧ found = disk.foundAt (place ++ rest) := by
  induction rest generalizing place with
  | nil =>
      have ends : disk.walkThrough followLast follow place [] = .ok (disk.foundAt place) := by
        rw [walkThrough, foundAt]
        cases disk.node? place <;> rfl
      rw [ends, List.append_nil, Except.ok.injEq]
      exact ⟨fun same => ⟨passes_nil disk place, same.symm⟩, fun ⟨_, same⟩ => same.symm⟩
  | cons segment rest inductionHypothesis =>
      obtain ⟨⟨notUp, -⟩, later⟩ := List.forall_mem_cons.mp clean
      have next := inductionHypothesis later clear.tail
      rw [List.append_assoc, List.singleton_append] at next
      rw [passes_cons, walkThrough]
      cases node : disk.node? place with
      | none => simp
      | some here =>
          cases here with
          | directory =>
              dsimp only
              rw [if_neg notUp]
              by_cases long : nameLimit < Text.byteLength segment
              · rw [if_pos long]
                simp only [Nat.not_le.mpr long, false_and, and_false, reduceCtorEq]
              · rw [if_neg long]
                simp only [Nat.not_lt.mp long, true_and]
                rw [← next]
                split
                · rename_i target linked
                  exact absurd linked (clear.first target)
                · rfl
          | file => simp
          | link => simp

/-- A walk without links does not end in a loop of links. -/
theorem walkThrough_ne_linkLoop (clean : Place.IsTidy rest) (clear : disk.HasNoLink place rest)
    (followLast : Bool) (follow : Place → Path → List Text → Except Refusal Found) :
    disk.walkThrough followLast follow place rest ≠ .error .linkLoop := by
  induction rest generalizing place with
  | nil =>
      rw [walkThrough]
      cases disk.node? place <;> simp
  | cons segment rest inductionHypothesis =>
      obtain ⟨⟨notUp, -⟩, later⟩ := List.forall_mem_cons.mp clean
      rw [walkThrough]
      split
      · simp
      · rw [if_neg notUp]
        by_cases long : nameLimit < Text.byteLength segment
        · simp [long]
        · rw [if_neg long]
          split
          · rename_i target linked
            exact absurd linked (clear.first target)
          · exact inductionHypothesis later clear.tail
      · simp

/-- A walk is a walk through segments with some way to follow links. -/
theorem walkFrom_eq (disk : Disk) (followLast : Bool) (links : Nat) :
    ∃ follow, disk.walkFrom followLast links = disk.walkThrough followLast follow := by
  cases links with
  | zero => exact ⟨_, rfl⟩
  | succ links => exact ⟨_, rfl⟩

/-- A walk to a place gets there. -/
structure Reaches (disk : Disk) (place : Place) : Prop where
  /-- The path is not too long. -/
  length : Text.byteLength (pathOf place).toText ≤ pathLimit
  /-- The walk does not stop early. -/
  passes : disk.Passes [] place

/-- A place that is reached still is after a disk has evolved. -/
theorem Reaches.evolves (reaches : disk.Reaches place) (evolves : disk.EvolvesTo left) :
    left.Reaches place :=
  ⟨reaches.length, reaches.passes.evolves evolves⟩

/-- A walk to a place without links finds what stands there exactly when it gets there. -/
theorem walk_pathOf (clean : place.IsTidy) (clear : disk.HasNoLink [] place) (followLast : Bool)
    (found : Found) :
    disk.walk (pathOf place) followLast = .ok found ↔
      disk.Reaches place ∧ found = disk.foundAt place := by
  obtain ⟨follow, through⟩ := walkFrom_eq disk followLast linkLimit
  have begins : disk.start (pathOf place) = [] := rfl
  rw [walk, begins, through]
  split_ifs with long
  · constructor
    · intro impossible
      cases impossible
    · rintro ⟨reaches, -⟩
      exact absurd reaches.length (Nat.not_le.mpr long)
  · rw [show (pathOf place).segments = place from rfl, walkThrough_eq_ok clean clear,
      List.nil_append]
    exact and_congr_left fun _ => ⟨fun passes => ⟨Nat.not_lt.mp long, passes⟩, Reaches.passes⟩

/-- Without links a walk meets no loop. -/
theorem walk_ne_linkLoop (clean : place.IsTidy) (clear : disk.HasNoLink [] place)
    (followLast : Bool) : disk.walk (pathOf place) followLast ≠ .error .linkLoop := by
  obtain ⟨follow, through⟩ := walkFrom_eq disk followLast linkLimit
  rw [walk]
  split_ifs
  · simp
  · rw [through]
    exact walkThrough_ne_linkLoop clean clear followLast follow

/-- Without links an absolute path is its own canonical form. -/
theorem resolve_of_hasNoLink {path : Path} (absolute : path.isAbsolute = true)
    (clean : Place.IsTidy path.segments) (clear : disk.HasNoLink [] path.segments)
    (noZero : hasZero path = false) : disk.resolve path = .ok (pathOf path.segments) := by
  rw [resolve, if_neg (by simp [noZero]), resolvePlace_of_hasNoLink absolute clean clear]
  dsimp only
  split
  · rename_i looped
    exact absurd looped (walk_ne_linkLoop clean clear true)
  · rfl

/-- A path that is resolved has no zero character, and leads to a tidy place. -/
theorem of_resolve {path resolved : Path} (made : disk.resolve path = .ok resolved) :
    hasZero path = false ∧ ∃ place : Place, place.IsTidy ∧ resolved = pathOf place := by
  unfold resolve at made
  split_ifs at made with zero
  dsimp only at made
  split at made
  · cases made
  · refine ⟨by simpa using zero, disk.resolvePlace path, ?_, (Except.ok.inj made).symm⟩
    exact Path.isTidy_tidy Place.isTidy_nil _

end Disk

end Issuebook
