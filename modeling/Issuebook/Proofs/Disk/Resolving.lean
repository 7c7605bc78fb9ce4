import Issuebook.Proofs.Disk.Reaching
import Mathlib.Data.List.Nodup
import Mathlib.Data.List.Perm.Subperm

/-!
# Resolving through links

What a path leads to, link by link, as a relation. Where no link leads back to itself every path
leads somewhere, and its canonical form is that place, which no link is on the way to:
`resolve_of_isLoopFree`.
-/

namespace Issuebook

namespace Disk

/-- The place where the segments of a link's target begin. -/
def targetStart (link : Place) (target : Text) : Place :=
  linkStart link.dropLast (Path.ofText target)

/-- Following segments from a place takes some steps and ends at another. -/
inductive Resolves (disk : Disk) : Nat → Place → List Text → Place → Prop where
  /-- There is no segment. -/
  | here (place : Place) : Resolves disk 0 place [] place
  /-- Double dots lead to the directory above. -/
  | up {steps place rest reached} (later : Resolves disk steps place.dropLast rest reached) :
      Resolves disk (steps + 1) place (Path.up :: rest) reached
  /-- A name that is no link stands for itself. -/
  | name {steps place segment rest reached} (notUp : segment ≠ Path.up)
      (plain : ∀ target, disk.node? (place ++ [segment]) ≠ some (.link target))
      (later : Resolves disk steps (place ++ [segment]) rest reached) :
      Resolves disk (steps + 1) place (segment :: rest) reached
  /-- A link stands for what its target leads to. -/
  | link {inner steps place segment rest target middle reached} (notUp : segment ≠ Path.up)
      (linked : disk.node? (place ++ [segment]) = some (.link target))
      (follows : Resolves disk inner (linkStart place (Path.ofText target))
        (Path.ofText target).segments middle)
      (later : Resolves disk steps middle rest reached) :
      Resolves disk (inner + steps + 1) place (segment :: rest) reached

/-- No link leads back to itself. -/
def IsLoopFree (disk : Disk) : Prop :=
  ∀ link target, disk.node? link = some (.link target) →
    ∃ steps reached, disk.Resolves steps (targetStart link target) (Path.ofText target).segments
      reached

variable {disk left : Disk} {steps : Nat} {place reached : Place} {rest : List Text}

/-- A link is followed from the directory that it is in. -/
theorem targetStart_concat (segment target : Text) :
    targetStart (place ++ [segment]) target = linkStart place (Path.ofText target) := by
  rw [targetStart, List.dropLast_concat]

namespace Resolves

/-- What segments lead to is determined, and so are the steps to it. -/
theorem unique {otherSteps : Nat} {other : Place}
    (resolves : disk.Resolves steps place rest reached)
    (others : disk.Resolves otherSteps place rest other) :
    steps = otherSteps ∧ reached = other := by
  induction resolves generalizing otherSteps other with
  | here => cases others with
    | here => exact ⟨rfl, rfl⟩
  | up later inductionHypothesis =>
      cases others with
      | up otherLater =>
          obtain ⟨same, ends⟩ := inductionHypothesis otherLater
          exact ⟨congrArg (· + 1) same, ends⟩
      | name notUp => exact absurd rfl notUp
      | link notUp => exact absurd rfl notUp
  | name notUp plain later inductionHypothesis =>
      cases others with
      | up => exact absurd rfl notUp
      | name _ _ otherLater =>
          obtain ⟨same, ends⟩ := inductionHypothesis otherLater
          exact ⟨congrArg (· + 1) same, ends⟩
      | link _ linked => exact absurd linked (plain _)
  | link notUp linked follows later followed inductionHypothesis =>
      cases others with
      | up => exact absurd rfl notUp
      | name _ plain => exact absurd linked (plain _)
      | link _ otherLinked otherFollows otherLater =>
          obtain rfl := Node.link.inj (Option.some.inj (linked.symm.trans otherLinked))
          obtain ⟨rfl, rfl⟩ := followed otherFollows
          obtain ⟨rfl, ends⟩ := inductionHypothesis otherLater
          exact ⟨rfl, ends⟩

end Resolves

/-- Where no link leads back to itself, all segments lead somewhere. -/
theorem IsLoopFree.exists_resolves (loopFree : disk.IsLoopFree) (place : Place)
    (rest : List Text) : ∃ steps reached, disk.Resolves steps place rest reached := by
  induction rest generalizing place with
  | nil => exact ⟨0, place, .here place⟩
  | cons segment rest inductionHypothesis =>
      by_cases isUp : segment = Path.up
      · obtain ⟨steps, reached, later⟩ := inductionHypothesis place.dropLast
        rw [isUp]
        exact ⟨_, _, .up later⟩
      · by_cases linked : ∃ target, disk.node? (place ++ [segment]) = some (.link target)
        · obtain ⟨target, linked⟩ := linked
          obtain ⟨inner, middle, follows⟩ := loopFree _ target linked
          rw [targetStart_concat] at follows
          obtain ⟨steps, reached, later⟩ := inductionHypothesis middle
          exact ⟨_, _, .link isUp linked follows later⟩
        · obtain ⟨steps, reached, later⟩ := inductionHypothesis (place ++ [segment])
          exact ⟨_, _, .name isUp (not_exists.mp linked) later⟩

/-! ## The canonical form -/

/-- Whether a node is a link. -/
def isLink : Node → Bool
  | .link _ => true
  | _ => false

/-- The number of links counts the nodes that are links. -/
theorem linkCount_eq (disk : Disk) :
    disk.linkCount = (disk.nodes.filter fun (_, node) => isLink node).length := by
  rw [linkCount, List.countP_eq_length_filter]
  congr 2

/-- No more distinct links are followed than there are. -/
theorem length_le_linkCount {active : List Place} (distinct : active.Nodup)
    (links : ∀ link ∈ active, ∃ target, disk.node? link = some (.link target)) :
    active.length ≤ disk.linkCount := by
  have listed : active ⊆ (disk.nodes.filter fun (_, node) => isLink node).map Prod.fst := by
    intro link present
    obtain ⟨target, linked⟩ := links link present
    have notRoot : link ≠ [] := by
      rintro rfl
      cases linked
    rw [node?_of_ne_nil notRoot] at linked
    exact List.mem_map.mpr ⟨_, List.mem_filter.mpr ⟨mem_of_find? linked, rfl⟩, rfl⟩
  have short := (List.subperm_of_subset distinct listed).length_le
  rwa [List.length_map, ← linkCount_eq] at short

/-- A link that is being followed leads no less far than what remains of its way. -/
def IsUnderWay (disk : Disk) (steps : Nat) (link : Place) : Prop :=
  ∃ target more reached, disk.node? link = some (.link target) ∧
    disk.Resolves more (targetStart link target) (Path.ofText target).segments reached ∧
      steps ≤ more

/-- What is under way for many steps is so for fewer. -/
theorem IsUnderWay.less {fewer : Nat} {link : Place} (underWay : disk.IsUnderWay steps link)
    (less : fewer ≤ steps) : disk.IsUnderWay fewer link := by
  obtain ⟨target, more, reached, linked, resolves, enough⟩ := underWay
  exact ⟨target, more, reached, linked, resolves, less.trans enough⟩

/-- A link that is under way for some steps takes at least as many to follow. -/
theorem IsUnderWay.le {link : Place} {target : Text} (underWay : disk.IsUnderWay steps link)
    (linked : disk.node? link = some (.link target)) {inner : Nat}
    (follows : disk.Resolves inner (targetStart link target) (Path.ofText target).segments
      reached) : steps ≤ inner := by
  obtain ⟨other, more, ends, otherLinked, resolves, enough⟩ := underWay
  obtain rfl := Node.link.inj (Option.some.inj (linked.symm.trans otherLinked))
  exact enough.trans_eq (resolves.unique follows).1

/-- Resolving is resolving through segments with some way to follow links. -/
theorem resolveFrom_eq (disk : Disk) (depth : Nat) (active : List Place) :
    ∃ follow, disk.resolveFrom depth active = disk.resolveThrough active follow := by
  cases depth with
  | zero => exact ⟨_, rfl⟩
  | succ depth => exact ⟨_, rfl⟩

/-- Resolution finds the place that segments lead to. A link under way is not met again, because it
would lead on from itself, and so the number of links bounds how deep they are nested. -/
theorem resolveFrom_of_resolves (resolves : disk.Resolves steps place rest reached) {depth : Nat}
    {active : List Place} (distinct : active.Nodup)
    (underWay : ∀ link ∈ active, disk.IsUnderWay steps link)
    (enough : disk.linkCount < depth + active.length) :
    disk.resolveFrom depth active place rest = (reached, true) := by
  induction resolves generalizing depth active with
  | here =>
      obtain ⟨follow, through⟩ := resolveFrom_eq disk depth active
      rw [through, resolveThrough]
  | up later inductionHypothesis =>
      have next := inductionHypothesis distinct
        (fun link present => (underWay link present).less (Nat.le_succ _)) enough
      obtain ⟨follow, through⟩ := resolveFrom_eq disk depth active
      rw [through] at next ⊢
      rw [resolveThrough, if_pos rfl, next]
  | name notUp plain later inductionHypothesis =>
      have next := inductionHypothesis distinct
        (fun link present => (underWay link present).less (Nat.le_succ _)) enough
      obtain ⟨follow, through⟩ := resolveFrom_eq disk depth active
      rw [through] at next ⊢
      rw [resolveThrough, if_neg notUp]
      dsimp only
      split
      · next target linked => exact absurd linked (plain target)
      · exact next
  | @link inner steps place segment rest target middle reached notUp linked follows later
      followed inductionHypothesis =>
      have leads : disk.Resolves inner (targetStart (place ++ [segment]) target)
          (Path.ofText target).segments middle := targetStart_concat segment target ▸ follows
      -- A link that is under way cannot come again: it would need more steps than are left.
      have fresh : place ++ [segment] ∉ active := by
        intro present
        have less := (underWay _ present).le linked leads
        omega
      have distinctNext : ((place ++ [segment]) :: active).Nodup :=
        List.nodup_cons.mpr ⟨fresh, distinct⟩
      have underWayNext : ∀ link ∈ (place ++ [segment]) :: active, disk.IsUnderWay inner link := by
        refine List.forall_mem_cons.mpr ⟨?_, fun link present => ?_⟩
        · exact ⟨target, inner, middle, linked, leads, le_rfl⟩
        · exact (underWay link present).less (by omega)
      -- There are no more links under way than the disk has, so the depth is not used up.
      have bounded := length_le_linkCount distinctNext fun link present => by
        obtain ⟨other, _, _, otherLinked, _⟩ := underWayNext link present
        exact ⟨other, otherLinked⟩
      rw [List.length_cons] at bounded
      cases depth with
      | zero => omega
      | succ depth =>
          have deepEnough : disk.linkCount < depth + ((place ++ [segment]) :: active).length := by
            rw [List.length_cons]
            omega
          have inside := followed distinctNext underWayNext deepEnough
          have beyond := inductionHypothesis distinct
            (fun link present => (underWay link present).less (by omega)) enough
          rw [resolveFrom] at beyond ⊢
          rw [resolveThrough, if_neg notUp]
          dsimp only
          rw [linked]
          dsimp only
          rw [if_neg fresh, inside]
          exact beyond

/-- A path that resolves is resolved to the place that it reaches. -/
theorem resolvePlace_of_resolves {path : Path}
    (resolves : disk.Resolves steps (disk.start path) path.segments reached) :
    disk.resolvePlace path = Path.tidy [] reached := by
  rw [resolvePlace, resolveFrom_of_resolves resolves .nil
    (fun _ impossible => absurd impossible List.not_mem_nil) (Nat.lt_succ_self _)]

/-! ## No link on the way -/

/-- Without a link on a way, there is none on the way to the directory. -/
theorem HasNoLink.dropLast (clear : disk.HasNoLink [] place) : disk.HasNoLink [] place.dropLast :=
  fun front isFront => clear front (isFront.trans place.dropLast_prefix)

/-- A way without links goes on through a name that is no link. -/
theorem HasNoLink.concat {segment : Text} (clear : disk.HasNoLink [] place)
    (plain : ∀ target, disk.node? (place ++ [segment]) ≠ some (.link target)) :
    disk.HasNoLink [] (place ++ [segment]) := by
  intro front isFront target
  rcases List.prefix_concat_iff.mp isFront with rfl | isFront
  · exact plain target
  · exact clear front isFront target

/-- There is no link on the way to the root. -/
theorem hasNoLink_nil (disk : Disk) : disk.HasNoLink [] [] := by
  intro front isFront target
  rw [List.prefix_nil.mp isFront]
  simp [node?]

/-- A place in canonical form without a link on the way. -/
structure IsClear (disk : Disk) (place : Place) : Prop where
  /-- Its names are in canonical form. -/
  clean : place.IsTidy
  /-- No link is on the way. -/
  noLink : disk.HasNoLink [] place

/-- The way to the root is clear. -/
theorem isClear_nil (disk : Disk) : disk.IsClear [] :=
  ⟨Place.isTidy_nil, hasNoLink_nil disk⟩

/-- An absolute path starts at the root. -/
theorem start_of_isAbsolute {path : Path} (absolute : path.isAbsolute = true) :
    disk.start path = [] := by
  rw [start, if_pos absolute]

/-- Its start is clear. -/
theorem isClear_start {path : Path} (absolute : path.isAbsolute = true) :
    disk.IsClear (disk.start path) := by
  rw [start_of_isAbsolute absolute]
  exact isClear_nil disk

/-- A link in a clear directory is followed from a clear place. -/
theorem IsClear.linkStart (clear : disk.IsClear place) (target : Path) :
    disk.IsClear (linkStart place target) := by
  unfold Disk.linkStart
  split_ifs
  · exact isClear_nil disk
  · exact clear

/-- The segments of a path that is read are segments. -/
theorem isSegment_of_mem_ofText (text : Text) :
    ∀ segment ∈ (Path.ofText text).segments, Path.isSegment segment = true :=
  fun _ present => (List.mem_filter.mp present).2

/-- From a clear place, written segments lead to a clear place. -/
theorem Resolves.isClear (resolves : disk.Resolves steps place rest reached)
    (written : ∀ segment ∈ rest, Path.isSegment segment = true) (clear : disk.IsClear place) :
    disk.IsClear reached := by
  induction resolves with
  | here => exact clear
  | up later inductionHypothesis =>
      obtain ⟨-, others⟩ := List.forall_mem_cons.mp written
      refine inductionHypothesis others ⟨fun segment present => ?_, clear.noLink.dropLast⟩
      exact clear.clean segment (List.mem_of_mem_dropLast present)
  | name notUp plain later inductionHypothesis =>
      obtain ⟨own, others⟩ := List.forall_mem_cons.mp written
      refine inductionHypothesis others ⟨fun segment present => ?_, clear.noLink.concat plain⟩
      rcases List.mem_append.mp present with earlier | last
      · exact clear.clean segment earlier
      · rw [List.mem_singleton.mp last]
        exact ⟨notUp, own⟩
  | link notUp linked follows later followed inductionHypothesis =>
      obtain ⟨-, others⟩ := List.forall_mem_cons.mp written
      exact inductionHypothesis others
        (followed (isSegment_of_mem_ofText _) (clear.linkStart _))

/-- A path has a canonical form, which no link is on the way to, where no link leads back to itself
and the path begins at such a place. -/
theorem resolve_of_isLoopFree (loopFree : disk.IsLoopFree) {path : Path}
    (begins : disk.IsClear (disk.start path))
    (written : ∀ segment ∈ path.segments, Path.isSegment segment = true)
    (noZero : hasZero path = false) : ∃ steps reached,
      disk.Resolves steps (disk.start path) path.segments reached ∧ disk.IsClear reached ∧
        disk.resolve path = .ok (pathOf reached) := by
  obtain ⟨steps, reached, resolves⟩ := loopFree.exists_resolves (disk.start path) path.segments
  have clear := resolves.isClear written begins
  refine ⟨steps, reached, resolves, clear, ?_⟩
  have ends : disk.resolvePlace path = reached := by
    rw [resolvePlace_of_resolves resolves, Path.tidy_of_isTidy clear.clean, List.nil_append]
  rw [resolve, if_neg (by simp [noZero]), ends]
  dsimp only
  split
  · next looped => exact absurd looped (walk_ne_linkLoop clear.clean clear.noLink true)
  · rfl

/-! ## Disks with the same links -/

/-- A disk with the same links and the same working directory. -/
structure KeepsLinks (disk left : Disk) : Prop where
  /-- The working directory stays. -/
  here : left.here = disk.here
  /-- Links stay, and none is new. -/
  links : ∀ place target, left.node? place = some (.link target) ↔
    disk.node? place = some (.link target)

namespace KeepsLinks

variable {last : Disk}

/-- A disk that stays keeps its links. -/
theorem refl (disk : Disk) : disk.KeepsLinks disk :=
  ⟨rfl, fun _ _ => Iff.rfl⟩

/-- Keeping links goes on. -/
theorem trans (first : disk.KeepsLinks left) (second : left.KeepsLinks last) :
    disk.KeepsLinks last where
  here := second.here.trans first.here
  links place target := (second.links place target).trans (first.links place target)

/-- What resolves still does when the links are kept. -/
theorem resolves (keeps : disk.KeepsLinks left)
    (resolves : disk.Resolves steps place rest reached) :
    left.Resolves steps place rest reached := by
  induction resolves with
  | here place => exact .here place
  | up later inductionHypothesis => exact .up inductionHypothesis
  | name notUp plain later inductionHypothesis =>
      exact .name notUp (fun target linked => plain target ((keeps.links _ target).mp linked))
        inductionHypothesis
  | link notUp linked follows later followed inductionHypothesis =>
      exact .link notUp ((keeps.links _ _).mpr linked) followed inductionHypothesis

/-- No link leads back to itself when the links are kept. -/
theorem isLoopFree (keeps : disk.KeepsLinks left) (loopFree : disk.IsLoopFree) :
    left.IsLoopFree := by
  intro link target linked
  obtain ⟨steps, reached, follows⟩ := loopFree link target ((keeps.links link target).mp linked)
  exact ⟨steps, reached, keeps.resolves follows⟩

/-- A clear place stays clear when the links are kept. -/
theorem isClear (keeps : disk.KeepsLinks left) (clear : disk.IsClear place) :
    left.IsClear place :=
  ⟨clear.clean, fun front isFront target linked =>
    clear.noLink front isFront target ((keeps.links _ target).mp linked)⟩

end KeepsLinks

/-! ## Telling that no link leads back to itself -/

/-- Whether resolution of what every link is given comes to an end. -/
def endsLinks (disk : Disk) : Bool :=
  disk.nodes.all fun (place, node) =>
    match node with
    | .link target =>
      (disk.resolveFrom disk.linkCount [] (targetStart place target)
        (Path.ofText target).segments).2
    | _ => true

/-- A way that resolving comes to the end of is one that resolves. -/
theorem exists_resolves_of_resolveThrough {active : List Place}
    {follow : List Place → Place → List Text → Place × Bool}
    (followed : ∀ {active place rest reached}, follow active place rest = (reached, true) →
      ∃ steps, disk.Resolves steps place rest reached)
    (ends : disk.resolveThrough active follow place rest = (reached, true)) :
    ∃ steps, disk.Resolves steps place rest reached := by
  induction rest generalizing place with
  | nil =>
      rw [resolveThrough] at ends
      obtain ⟨rfl, -⟩ := Prod.mk.inj ends
      exact ⟨0, .here place⟩
  | cons segment rest inductionHypothesis =>
      rw [resolveThrough] at ends
      split_ifs at ends with isUp
      · obtain ⟨steps, later⟩ := inductionHypothesis ends
        rw [isUp]
        exact ⟨_, .up later⟩
      · dsimp only at ends
        split at ends
        · next target linked =>
            split_ifs at ends
            · cases ends
            · split at ends
              · next middle found =>
                  obtain ⟨inner, follows⟩ := followed found
                  obtain ⟨steps, later⟩ := inductionHypothesis ends
                  exact ⟨_, .link isUp linked follows later⟩
              · cases ends
        · next plain =>
            obtain ⟨steps, later⟩ := inductionHypothesis ends
            exact ⟨_, .name isUp (fun target linked => plain target linked) later⟩

/-- A resolution that comes to an end follows its links. -/
theorem exists_resolves_of_resolveFrom {depth : Nat} {active : List Place}
    (ends : disk.resolveFrom depth active place rest = (reached, true)) :
    ∃ steps, disk.Resolves steps place rest reached := by
  induction depth generalizing active place rest reached with
  | zero =>
      refine exists_resolves_of_resolveThrough (fun impossible => ?_) ends
      cases (Prod.mk.inj impossible).2
  | succ depth inductionHypothesis =>
      exact exists_resolves_of_resolveThrough (fun found => inductionHypothesis found) ends

/-- Where every link comes to an end, none leads back to itself. -/
theorem isLoopFree_of_endsLinks (ends : disk.endsLinks = true) : disk.IsLoopFree := by
  intro link target linked
  have notRoot : link ≠ [] := by
    rintro rfl
    cases linked
  rw [node?_of_ne_nil notRoot] at linked
  have ended := List.all_eq_true.mp ends _ (mem_of_find? linked)
  obtain ⟨steps, follows⟩ := exists_resolves_of_resolveFrom (Prod.ext rfl ended)
  exact ⟨steps, _, follows⟩

end Disk

end Issuebook
