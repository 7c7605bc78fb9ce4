import Issuebook.Proofs.Disk.Contents
import Issuebook.Proofs.Disk.Effects
import Issuebook.Proofs.Fault
import Mathlib.Data.List.Nodup

/-!
# What a directory lists

The places below a directory, and how they become more: a directory that is made for a file is on
the way to the file, and a file is listed once. Where a path leads to the directory, the files with
an ending are listed exactly when no path to one of them is too long: `filesBelow_eq_ok`.
-/

namespace Issuebook

/-- The front of a text is no longer than the text. -/
theorem Text.byteLength_le_of_prefix {one other : Text} (isFront : one <+: other) :
    byteLength one ≤ byteLength other := by
  have grows (text : Text) (size : Nat) :
      size ≤ text.foldl (fun size char => size + char.utf8Size) size := by
    induction text generalizing size with
    | nil => exact Nat.le_refl size
    | cons char text inductionHypothesis =>
        exact Nat.le_trans (Nat.le_add_right size _) (inductionHypothesis _)
  obtain ⟨rest, rfl⟩ := isFront
  rw [byteLength, byteLength, List.foldl_append]
  exact grows rest _

/-- A front of names is written as a front of the path. -/
theorem Text.join_prefix {one other : List Text} (isFront : one <+: other) :
    join ['/'] one <+: join ['/'] other := by
  induction one generalizing other with
  | nil => exact List.nil_prefix
  | cons piece one inductionHypothesis =>
      obtain ⟨rest, rfl⟩ := isFront
      cases one with
      | nil => cases rest <;> simp [join]
      | cons next one =>
          have later := inductionHypothesis (List.prefix_append (next :: one) rest)
          rw [List.cons_append] at later ⊢
          simpa [join] using later

/-- The path that leads on from a path by names. -/
def Path.onward (path : Path) (names : List Text) : Path :=
  path.append ⟨.none, names⟩

namespace Disk

/-- Whether a path is short enough to be walked. -/
def IsShort (path : Path) : Prop :=
  Text.byteLength path.toText ≤ pathLimit

variable {disk left last : Disk} {place other start home : Place} {names : List Text} {node : Node}
  {root : Path}

/-! ## Places below a directory -/

/-- The names below a place are those that lead on from it. -/
theorem namesBelow?_eq_some :
    namesBelow? start place = some names ↔ names ≠ [] ∧ place = start ++ names := by
  unfold namesBelow?
  split
  · next name rest dropped =>
      rw [Path.dropFront?_eq_some.mp dropped]
      refine ⟨fun same => ?_, fun ⟨_, same⟩ => by rw [List.append_cancel_left same]⟩
      rw [← Option.some.inj same]
      exact ⟨List.cons_ne_nil _ _, rfl⟩
  · next other =>
      refine ⟨(nomatch ·), ?_⟩
      rintro ⟨present, rfl⟩
      obtain ⟨name, rest, rfl⟩ := List.exists_cons_of_ne_nil present
      exact absurd (Path.dropFront?_eq_some.mpr rfl) (other name rest)

/-- The names on the way from a directory to each place below it where something is. -/
def inner (disk : Disk) (start : Place) : List (List Text) :=
  (disk.nodes.map Prod.fst).filterMap (namesBelow? start)

/-- Nothing is found at a place that is not listed. -/
theorem find?_eq_none {nodes : List (Place × Node)} :
    find? place nodes = none ↔ place ∉ nodes.map Prod.fst := by
  induction nodes with
  | nil => simp [find?]
  | cons entry nodes inductionHypothesis =>
      obtain ⟨found, node⟩ := entry
      by_cases same : found = place
      · simp [find?, same]
      · simp [find?, same, Ne.symm same, inductionHypothesis]

/-- The inner names of a place are those that lead on to a node. -/
theorem mem_inner : names ∈ disk.inner start ↔
    names ≠ [] ∧ disk.node? (start ++ names) ≠ none := by
  have listed (present : names ≠ []) :
      disk.node? (start ++ names) ≠ none ↔ start ++ names ∈ disk.nodes.map Prod.fst := by
    rw [node?_of_ne_nil (by simp [present]), Ne, find?_eq_none, not_not]
  rw [inner, List.mem_filterMap]
  constructor
  · rintro ⟨found, known, below⟩
    obtain ⟨present, rfl⟩ := namesBelow?_eq_some.mp below
    exact ⟨present, (listed present).mpr known⟩
  · rintro ⟨present, taken⟩
    exact ⟨_, (listed present).mp taken, namesBelow?_eq_some.mpr ⟨present, rfl⟩⟩

/-- A new node is listed behind the others. -/
theorem places_setNode_of_absent {nodes : List (Place × Node)}
    (absent : place ∉ nodes.map Prod.fst) :
    (setNode place node nodes).map Prod.fst = nodes.map Prod.fst ++ [place] := by
  induction nodes with
  | nil => rfl
  | cons entry nodes inductionHypothesis =>
      obtain ⟨other, later⟩ := not_or.mp (mt List.mem_cons.mpr absent)
      rw [setNode, if_neg (Ne.symm other), List.map_cons, inductionHypothesis later]
      rfl

/-- No place is listed twice after one is set. -/
theorem nodup_inner_put (distinct : (disk.inner start).Nodup) :
    ((disk.put place node).inner start).Nodup := by
  unfold inner put at *
  cases found : find? place disk.nodes with
  | some old => rwa [places_setNode found]
  | none =>
      have absent := find?_eq_none.mp found
      rw [places_setNode_of_absent absent, List.filterMap_append]
      cases below : namesBelow? start place with
      | none => simpa [below] using distinct
      | some names =>
          have own : [place].filterMap (namesBelow? start) = [names] := by simp [below]
          rw [own]
          refine List.nodup_append.mpr ⟨distinct, List.nodup_singleton names, ?_⟩
          rintro other known _ added rfl
          obtain ⟨earlier, listed, same⟩ := List.mem_filterMap.mp known
          rw [List.mem_singleton.mp added] at same
          rw [(namesBelow?_eq_some.mp same).2, ← (namesBelow?_eq_some.mp below).2] at listed
          exact absent listed

/-- No place is listed twice after one is emptied. -/
theorem nodup_inner_drop (distinct : (disk.inner start).Nodup) :
    ((disk.drop place).inner start).Nodup :=
  distinct.sublist ((List.filter_sublist.map Prod.fst).filterMap _)

/-! ## Directories on the way to a place -/

/-- A disk with more directories on the way to a place. -/
structure PavesTo (disk left : Disk) (place : Place) : Prop where
  /-- Only directories are new. -/
  grows : disk.GrowsTo left
  /-- What is new is on the way. -/
  onWay : ∀ {other}, left.node? other ≠ none → disk.node? other ≠ none ∨ other <+: place
  /-- No place is listed twice. -/
  distinct : ∀ {start}, (disk.inner start).Nodup → (left.inner start).Nodup

namespace PavesTo

/-- A disk is paved by changing nothing. -/
theorem refl (disk : Disk) (place : Place) : disk.PavesTo disk place :=
  ⟨.refl disk, .inl, id⟩

/-- Paving goes on. -/
theorem trans (first : disk.PavesTo left place) (second : left.PavesTo last place) :
    disk.PavesTo last place where
  grows := first.grows.trans second.grows
  onWay taken := (second.onWay taken).elim first.onWay .inr
  distinct before := second.distinct (first.distinct before)

/-- What is paved for a way is paved for a longer one. -/
theorem mono (paves : disk.PavesTo left other) (further : other <+: place) :
    disk.PavesTo left place :=
  ⟨paves.grows, fun taken => (paves.onWay taken).imp_right (·.trans further), paves.distinct⟩

/-- A new directory paves the way to it. -/
theorem put (absent : disk.node? place = none) :
    disk.PavesTo (disk.put place .directory) place where
  grows := growsTo_put absent
  onWay {other} taken := by
    by_cases same : other = place
    · exact .inr (same ▸ List.prefix_rfl)
    · rw [node?_put_other same] at taken
      exact .inl taken
  distinct := nodup_inner_put

end PavesTo

/-- Making a directory with a name paves the way there. -/
theorem pavesTo_of_makeIn (clean : place.IsTidy) (clear : disk.HasNoLink [] place) {name : Text}
    (done : disk.makeIn (pathOf place) name = .ok left) :
    disk.PavesTo left (place ++ [name]) := by
  unfold makeIn at done
  split at done
  · cases done
  · cases done
  · next walked =>
      obtain ⟨-, found⟩ := (walk_pathOf clean clear true _).mp walked
      obtain ⟨rfl, -⟩ := foundAt_eq_there found
      split_ifs at done
      split at done
      · cases done
      · next absent =>
          split at done
          · cases done
          · obtain rfl := Except.ok.inj done
            exact .put absent
  · cases done

/-- Making all directories on a way paves it. -/
theorem pavesTo_makeAlong {reversed : List Text} (clean : Place.IsTidy reversed.reverse)
    (clear : disk.HasNoLink [] reversed.reverse) :
    disk.PavesTo (disk.makeAlong .root reversed).2 reversed.reverse := by
  induction reversed generalizing disk with
  | nil =>
      rw [makeAlong, acceptPresent_disk]
      exact .refl disk []
  | cons name above inductionHypothesis =>
      have onWay : above.reverse <+: (name :: above).reverse := by simp
      have aboveClean : Place.IsTidy above.reverse := fun segment present =>
        clean segment (onWay.subset present)
      have aboveClear : disk.HasNoLink [] above.reverse := fun front isFront =>
        clear front (isFront.trans onWay)
      have making {before after : Disk} (clear : before.HasNoLink [] above.reverse)
          (done : before.makeIn (pathOf above.reverse) name = .ok after) :
          before.PavesTo after (name :: above).reverse := by
        rw [List.reverse_cons]
        exact pavesTo_of_makeIn aboveClean clear done
      have earlier := (inductionHypothesis aboveClean aboveClear).mono onWay
      rw [makeAlong]
      split
      · next made => exact making aboveClear made
      · split
        · next made =>
            rw [made] at earlier
            exact earlier
        · next made =>
            rw [made] at earlier
            have clear := aboveClear.evolves earlier.grows.evolvesTo
            split
            · next made => exact earlier.trans (making clear made)
            · exact earlier
            · rw [acceptPresent_disk]
              exact earlier
      · rw [acceptPresent_disk]
        exact .refl disk _

/-- The directories that are made are on the way. -/
theorem pavesTo_makeDirectories (clean : place.IsTidy) (clear : disk.HasNoLink [] place) :
    disk.PavesTo (disk.makeDirectories (pathOf place)).2 place := by
  unfold makeDirectories
  split_ifs
  · exact .refl disk place
  · exact .refl disk place
  · have paves : disk.PavesTo (disk.makeAlong .root place.reverse).2 place.reverse.reverse :=
      pavesTo_makeAlong (by rwa [List.reverse_reverse]) (by rwa [List.reverse_reverse])
    rwa [List.reverse_reverse] at paves

/-! ## Walks that go on -/

/-- What is found at a place tells the place. -/
theorem foundAt_injective (same : disk.foundAt place = disk.foundAt other) : place = other := by
  unfold foundAt at same
  split at same <;> split at same
  · exact (Found.there.inj same).1
  · cases same
  · cases same
  · exact Found.free.inj same

/-- A disk that has all that another one has, and no other link. -/
structure Extends (disk left : Disk) : Prop where
  /-- The working directory stays. -/
  here : left.here = disk.here
  /-- What is there stays. -/
  keeps : ∀ {place node}, disk.node? place = some node → left.node? place = some node
  /-- No link is new. -/
  links : ∀ {place target}, left.node? place = some (.link target) →
    disk.node? place = some (.link target)

section Extends

variable (more : disk.Extends left) (clean : Place.IsTidy names)
  (clear : left.HasNoLink home names) (passes : left.Passes home names)
include more clean clear passes

/-- A walk that got to a place goes on below it, by links that one walk may still follow. -/
theorem walkThrough_append
    {follow later : Place → Path → List Text → Except Refusal Found}
    (follows : ∀ directory target rest, follow directory target rest = .ok (disk.foundAt home) →
      later directory target (rest ++ names) = .ok (left.foundAt (home ++ names)))
    {rest : List Text}
    (walked : disk.walkThrough true follow start rest = .ok (disk.foundAt home)) :
    left.walkThrough true later start (rest ++ names) = .ok (left.foundAt (home ++ names)) := by
  induction rest generalizing start with
  | nil =>
      have ends : disk.walkThrough true follow start [] = .ok (disk.foundAt start) := by
        rw [walkThrough, foundAt]
        cases disk.node? start <;> rfl
      obtain rfl := foundAt_injective (Except.ok.inj (ends.symm.trans walked))
      exact (walkThrough_eq_ok clean clear true later _).mpr ⟨passes, rfl⟩
  | cons segment rest inductionHypothesis =>
      rw [walkThrough] at walked
      rw [List.cons_append, walkThrough]
      split at walked
      · cases walked
      · next directory =>
          rw [more.keeps directory]
          dsimp only
          by_cases up : segment = Path.up
          · rw [if_pos up] at walked ⊢
            exact inductionHypothesis walked
          · rw [if_neg up] at walked ⊢
            by_cases long : nameLimit < Text.byteLength segment
            · rw [if_pos long] at walked
              cases walked
            · rw [if_neg long] at walked ⊢
              -- A link that was followed is still there, and nothing that was no link has become
              -- one.
              split at walked
              · next target linked =>
                  rw [if_neg (by simp)] at walked
                  rw [more.keeps linked]
                  dsimp only
                  rw [if_neg (by simp)]
                  exact follows _ _ _ walked
              · next unlinked =>
                  split
                  · next target linked => exact absurd (more.links linked) (unlinked target)
                  · exact inductionHypothesis walked
      · cases walked

/-- A walk through more names goes on from where the first ones lead. -/
theorem walkFrom_append {links : Nat} {rest : List Text}
    (walked : disk.walkFrom true links start rest = .ok (disk.foundAt home)) :
    left.walkFrom true links start (rest ++ names) = .ok (left.foundAt (home ++ names)) := by
  induction links generalizing start rest with
  | zero =>
      refine walkThrough_append more clean clear passes (fun _ _ _ impossible => ?_) walked
      cases impossible
  | succ links inductionHypothesis =>
      refine walkThrough_append more clean clear passes
        (fun directory target rest found => ?_) walked
      rw [← List.append_assoc]
      exact inductionHypothesis found

/-- A path that leads to a place leads on below it, as long as it is not too long. -/
theorem walk_append (walked : disk.walk root = .ok (disk.foundAt home))
    (short : IsShort (root.onward names)) :
    left.walk (root.onward names) = .ok (left.foundAt (home ++ names)) := by
  have begins : left.start (root.onward names) = disk.start root := by
    rw [start, start, more.here]
    rfl
  unfold walk at walked ⊢
  rw [if_neg (Nat.not_lt.mpr short), begins]
  split_ifs at walked
  exact walkFrom_append more clean clear passes walked

end Extends

/-! ## Paths that are not too long -/

/-- A path that leads on is not shorter. -/
theorem IsShort.of_prefix {longer : List Text} (short : IsShort (root.onward longer))
    (isFront : names <+: longer) (present : names ≠ []) : IsShort (root.onward names) := by
  have shown (names : List Text) (present : names ≠ []) : (root.onward names).toText =
      Path.anchorText root.anchor ++ Text.join ['/'] (root.segments ++ names) := by
    change Path.toText ⟨root.anchor, root.segments ++ names⟩ = _
    unfold Path.toText
    split
    · next empty => simp [present] at empty
    · rfl
  have longerPresent : longer ≠ [] := fun empty => present (List.prefix_nil.mp (empty ▸ isFront))
  unfold IsShort at short ⊢
  rw [shown _ longerPresent] at short
  rw [shown _ present]
  refine Nat.le_trans (Text.byteLength_le_of_prefix ?_) short
  exact (List.prefix_append_right_inj _).mpr (Text.join_prefix
    ((List.prefix_append_right_inj _).mpr isFront))

/-- A path that is walked is short enough. -/
theorem isShort_of_walk {path : Path} {found : Found} (walked : disk.walk path = .ok found) :
    IsShort path := by
  unfold walk at walked
  split_ifs at walked with long
  exact Nat.not_lt.mp long

/-! ## Files with an ending -/

/-- The loop behind the next theorem, with what it has kept so far. -/
theorem filterAuxM_eq_ok {Item : Type} {test : Item → Except Fault Bool}
    {items earlier kept : List Item} :
    List.filterAuxM test items earlier = .ok kept ↔
      (∀ item ∈ items, ∃ answer, test item = .ok answer) ∧
        kept = (items.filter fun item => (test item).toOption = some true).reverse ++ earlier := by
  induction items generalizing earlier with
  | nil =>
      exact ⟨fun same => ⟨List.forall_mem_nil _, (Except.ok.inj same).symm⟩,
        fun both => congrArg Except.ok both.2.symm⟩
  | cons item items inductionHypothesis =>
      rw [List.forall_mem_cons, List.filterAuxM]
      cases asked : test item with
      | error fault => simp [bind, Except.bind]
      | ok answer =>
          change List.filterAuxM test items (bif answer then item :: earlier else earlier) = _ ↔ _
          rw [inductionHypothesis]
          refine and_congr (by simp) ?_
          cases answer <;> simp [asked, Except.toOption]

/-- What is kept after asking about every item. -/
theorem filterM_eq_ok {Item : Type} {test : Item → Except Fault Bool} {items kept : List Item} :
    items.filterM test = .ok kept ↔ (∀ item ∈ items, ∃ answer, test item = .ok answer) ∧
      kept = items.filter fun item => (test item).toOption = some true := by
  rw [List.filterM, Fault.bind_eq_ok]
  constructor
  · rintro ⟨reversed, filtered, same⟩
    obtain ⟨asked, rfl⟩ := filterAuxM_eq_ok.mp filtered
    refine ⟨asked, ?_⟩
    rw [← Except.ok.inj same, List.append_nil, List.reverse_reverse]
  · rintro ⟨asked, rfl⟩
    refine ⟨_, filterAuxM_eq_ok.mpr ⟨asked, rfl⟩, ?_⟩
    rw [List.append_nil, List.reverse_reverse]
    rfl

/-- A path that is walked leads to a file exactly when its place has a content. -/
theorem isFile_of_walk {path : Path} (noZero : hasZero path = false)
    (walked : disk.walk path = .ok (disk.foundAt place)) :
    disk.isFile path = .ok (disk.content? (pathOf place)).isSome := by
  unfold isFile holds stat
  rw [if_neg (by simp [noZero]), walked, foundAt]
  unfold content? pathOf
  dsimp only
  cases disk.node? place with
  | none => rfl
  | some node => cases node <;> rfl

/-- Nothing is answered about a path that is too long. -/
theorem isFile_of_long {path : Path} (noZero : hasZero path = false)
    (long : ¬ IsShort path) (answer : Bool) :
    disk.isFile path ≠ .ok answer := by
  unfold isFile holds stat walk
  rw [if_neg (by simp [noZero]), if_pos (Nat.not_le.mp long)]
  exact (nomatch ·)

/-- The zero character is in the root or in the names behind it. -/
theorem hasZero_onward (root : Path) (names : List Text) :
    hasZero (root.onward names) = (hasZero root || hasZero ⟨.none, names⟩) :=
  List.any_append

/-- The last of several names is the last of those behind. -/
theorem getLastD_append (front : List Text) (present : names ≠ []) :
    (front ++ names).getLastD [] = names.getLastD [] := by
  rw [List.getLastD_eq_getLast?, List.getLastD_eq_getLast?, List.getLast?_append]
  cases last : names.getLast? with
  | none => exact absurd (List.getLast?_eq_none_iff.mp last) present
  | some name => rfl

/-- The name of a path is the last one. -/
theorem name_onward (root : Path) (present : names ≠ []) :
    (root.onward names).name = names.getLastD [] :=
  getLastD_append root.segments present

/-- A path that leads to a directory, and to everything below it unless it grows too long. -/
structure Shows (disk : Disk) (root : Path) (home : Place) : Prop where
  /-- The path can be asked about. -/
  noZero : hasZero root = false
  /-- It leads to the place of the directory. -/
  leads : disk.walk root = .ok (disk.foundAt home)
  /-- Names below can be asked about. -/
  plain : ∀ names ∈ disk.inner home, hasZero ⟨.none, names⟩ = false
  /-- The path leads on to them. -/
  walks : ∀ names ∈ disk.inner home,
    IsShort (root.onward names) →
      disk.walk (root.onward names) = .ok (disk.foundAt (home ++ names))

/-- A path to what is listed has no zero character. -/
theorem Shows.noZero_onward (shows : disk.Shows root home) (listed : names ∈ disk.inner home) :
    hasZero (root.onward names) = false := by
  rw [hasZero_onward, shows.noZero, shows.plain names listed]
  rfl

/-- Whether a path names a file with an ending. -/
def isFileNamed (disk : Disk) (ending : Text) (path : Path) : Except Fault Bool :=
  if Text.endsWith path.name ending then disk.isFile path else pure false

/-- The files below a root are the listed paths that pass the test of a file's name. -/
theorem filesBelow_eq (disk : Disk) (root : Path) (ending : Text) :
    disk.filesBelow root ending = (disk.pathsBelow root).filterM (disk.isFileNamed ending) :=
  rfl

/-- A listed path passes if its name has the ending and its place a content. -/
theorem isFileNamed_onward (shows : disk.Shows root home) (listed : names ∈ disk.inner home)
    {ending : Text}
    (short : Text.endsWith (names.getLastD []) ending → IsShort (root.onward names)) :
    disk.isFileNamed ending (root.onward names) = .ok (Text.endsWith (names.getLastD []) ending &&
      (disk.content? (pathOf (home ++ names))).isSome) := by
  rw [isFileNamed, name_onward root (mem_inner.mp listed).1]
  split_ifs with ends
  · rw [isFile_of_walk (shows.noZero_onward listed) (shows.walks names listed (short ends)), ends,
      Bool.true_and]
  · rw [Bool.of_not_eq_true ends]
    rfl

/-- About a path that is too long there is no answer. -/
theorem short_of_isFileNamed (shows : disk.Shows root home) (listed : names ∈ disk.inner home)
    {ending : Text} {answer : Bool}
    (answered : disk.isFileNamed ending (root.onward names) = .ok answer)
    (ends : Text.endsWith (names.getLastD []) ending) : IsShort (root.onward names) := by
  rw [isFileNamed, name_onward root (mem_inner.mp listed).1, if_pos ends] at answered
  exact not_not.mp fun long => isFile_of_long (shows.noZero_onward listed) long answer answered

/-- The names of the files with an ending below a place, in order. -/
def fileNames (disk : Disk) (start : Place) (ending : Text) : List (List Text) :=
  ((disk.inner start).mergeSort Path.segmentsLe).filter fun names =>
    Text.endsWith (names.getLastD []) ending && (disk.content? (pathOf (start ++ names))).isSome

/-- The files of a place are the inner names with the ending and a content. -/
theorem mem_fileNames {ending : Text} : names ∈ disk.fileNames start ending ↔
    names ∈ disk.inner start ∧ Text.endsWith (names.getLastD []) ending ∧
      (disk.content? (pathOf (start ++ names))).isSome := by
  rw [fileNames, List.mem_filter, List.mem_mergeSort, Bool.and_eq_true]

/-- No file is listed twice. -/
theorem nodup_fileNames (distinct : (disk.inner start).Nodup) (ending : Text) :
    (disk.fileNames start ending).Nodup :=
  ((List.mergeSort_perm _ _).nodup_iff.mpr distinct).filter _

/-- The files with an ending are listed when no path with the ending is too long. -/
theorem filesBelow_eq_ok (shows : disk.Shows root home)
    (there : disk.node? home = some .directory) {ending : Text} {paths : List Path} :
    disk.filesBelow root ending = .ok paths ↔
      (∀ names ∈ disk.inner home, Text.endsWith (names.getLastD []) ending →
        IsShort (root.onward names)) ∧
      paths = (disk.fileNames home ending).map root.onward := by
  have listed : disk.pathsBelow root =
      ((disk.inner home).mergeSort Path.segmentsLe).map root.onward := by
    rw [pathsBelow_eq, shows.leads, foundAt, there]
    rfl
  have kept (short : ∀ names ∈ disk.inner home, Text.endsWith (names.getLastD []) ending →
      IsShort (root.onward names)) :
      ((disk.inner home).mergeSort Path.segmentsLe).filter
          ((fun path => (disk.isFileNamed ending path).toOption = some true) ∘ root.onward) =
        disk.fileNames home ending := by
    refine List.filter_congr fun names sorted => ?_
    have known := List.mem_mergeSort.mp sorted
    rw [Function.comp_apply, isFileNamed_onward shows known (short names known)]
    simp [Except.toOption]
  rw [filesBelow_eq, listed, filterM_eq_ok, List.forall_mem_map, List.filter_map]
  constructor
  · rintro ⟨answered, rfl⟩
    have short : ∀ names ∈ disk.inner home, Text.endsWith (names.getLastD []) ending →
        IsShort (root.onward names) := by
      intro names known ends
      obtain ⟨answer, answered⟩ := answered names (List.mem_mergeSort.mpr known)
      exact short_of_isFileNamed shows known answered ends
    exact ⟨short, congrArg _ (kept short)⟩
  · rintro ⟨short, rfl⟩
    refine ⟨fun names sorted => ?_, congrArg _ (kept short).symm⟩
    have known := List.mem_mergeSort.mp sorted
    exact ⟨_, isFileNamed_onward shows known (short names known)⟩

/-! ## Files that were written -/

/-- A file where nothing was leaves all else as it is. -/
theorem extends_put (absent : disk.node? place = none) (content : Content) :
    disk.Extends (disk.put place (.file content)) where
  here := rfl
  keeps {other node} present := by
    have apart : other ≠ place := by
      rintro rfl
      exact Option.some_ne_none _ (present.symm.trans absent)
    rwa [node?_put_other apart]
  links := (evolvesTo_put (by simp [absent])).links

/-- A path that led to a free name leads to the file that is put there. -/
theorem walk_put_of_free {path : Path} (walked : disk.walk path = .ok (.free place))
    (content : Content) :
    (disk.put place (.file content)).walk path = .ok (.there place (.file content)) := by
  have absent : disk.node? place = none := isOn_of_walk walked
  have inside : place ≠ [] := by
    rintro rfl
    cases absent
  have held : (disk.put place (.file content)).node? place = some (.file content) :=
    node?_put_same inside
  have found : disk.walk path = .ok (disk.foundAt place) := by
    rw [walked, foundAt, absent]
  have same : path.onward [] = path := by
    simp [Path.onward, Path.append, Path.isAbsolute]
  have clear : (disk.put place (.file content)).HasNoLink place [] := by
    intro front isFront target
    rw [List.prefix_nil.mp isFront, List.append_nil, held]
    rintro ⟨⟩
  have short : IsShort (path.onward []) := by
    rw [same]
    exact isShort_of_walk walked
  have onward := walk_append (extends_put absent content) Place.isTidy_nil clear
    (passes_nil _ place) found short
  rw [same, List.append_nil, foundAt, held] at onward
  exact onward

/-- A text that was written is in the file that its path leads to. -/
theorem walk_of_writeText {path : Path} {text : Text}
    (written : disk.writeText path text = (.ok (), left)) :
    hasZero path = false ∧ left.refuses = disk.refuses ∧ ∃ place,
      disk.refuses .write place = none ∧
      left.walk path = .ok (.there place (.file (.text text))) := by
  have put {place : Place} (wrote : disk.writeAt path place text = (.ok (), left)) :
      disk.refuses .write place = none ∧ left = disk.put place (.file (.text text)) := by
    unfold writeAt at wrote
    split at wrote
    · cases (Prod.mk.inj wrote).1
    · next allowed => exact ⟨allowed, (Prod.mk.inj wrote).2.symm⟩
  unfold writeText at written
  split_ifs at written with zero
  · cases (Prod.mk.inj written).1
  · refine ⟨by simpa using zero, ?_⟩
    split at written
    · cases (Prod.mk.inj written).1
    · next place walked =>
        obtain ⟨allowed, rfl⟩ := put written
        exact ⟨rfl, place, allowed, walk_put_of_free walked _⟩
    · next place old walked =>
        obtain ⟨allowed, rfl⟩ := put written
        have leads : disk.leadsTo path place = true := by
          simp [leadsTo, walked]
        exact ⟨rfl, place, allowed, walk_put_of_leadsTo (isOn_of_walk walked) _ leads⟩
    · cases (Prod.mk.inj written).1

end Disk

end Issuebook
