import Issuebook.Disk.Files
import Issuebook.Proofs.Disk.Effects

/-!
# Files with other contents

A disk on which one file has another content. Every walk ends where it did, so the same paths name
files and directories, and every other file reads the same: `readText_put`.
-/

namespace Issuebook

/-- The text that a content is, with line feeds for all line ends. -/
def Content.decoded : Content → Except Fault Text
  | .text written => .ok (Text.withLineFeeds written)
  | .binary _ => .error .notUtf8

namespace Disk

variable {disk : Disk} {place : Place} {old : Content}

/-- What a walk finds, where a file has another content. -/
def Found.withContent (place : Place) (content : Content) : Found → Found
  | .there found node => .there found (if found = place then .file content else node)
  | .free found => .free found

/-- A text is read by decoding the content. -/
theorem readText_eq (disk : Disk) (path : Path) :
    disk.readText path = disk.readContent path >>= Content.decoded := by
  unfold readText
  cases disk.readContent path with
  | error fault => rfl
  | ok content => cases content <;> rfl

/-- Whether a path leads to a place. -/
def leadsTo (disk : Disk) (path : Path) (place : Place) : Bool :=
  match disk.walk path with
  | .ok (.there found _) => found = place
  | _ => false

/-- A path that leads to a file names it. -/
theorem walk_of_leadsTo (present : disk.node? place = some (.file old)) {path : Path}
    (leads : disk.leadsTo path place = true) :
    disk.walk path = .ok (.there place (.file old)) := by
  unfold leadsTo at leads
  split at leads
  · next found node walked =>
      obtain rfl : found = place := of_decide_eq_true leads
      have here : disk.node? found = some node := isOn_of_walk walked
      obtain rfl : node = .file old := Option.some.inj (here.symm.trans present)
      exact walked
  · cases leads

/-- What is read at a path that leads to a file is its content. -/
theorem readContent_of_leadsTo (present : disk.node? place = some (.file old)) {path : Path}
    {content : Content} (leads : disk.leadsTo path place = true)
    (read : disk.readContent path = .ok content) : content = old := by
  unfold readContent at read
  rw [walk_of_leadsTo present leads] at read
  split_ifs at read
  dsimp only at read
  split at read
  · cases read
  · exact (Except.ok.inj read).symm

/-- A node in the place of another is listed where that was. -/
theorem places_setNode {nodes : List (Place × Node)} {node : Node}
    (present : find? place nodes = some node) (later : Node) :
    (setNode place later nodes).map Prod.fst = nodes.map Prod.fst := by
  induction nodes with
  | nil => cases present
  | cons entry nodes inductionHypothesis =>
      obtain ⟨found, earlier⟩ := entry
      rw [setNode]
      by_cases same : found = place
      · rw [if_pos same]
        rfl
      · rw [find?, if_neg same] at present
        rw [if_neg same, List.map_cons, inductionHypothesis present, List.map_cons]

/-- The names on the way from one place to another below it. -/
def namesBelow? (start found : Place) : Option (List Text) :=
  match Path.dropFront? start found with
  | some (name :: rest) => some (name :: rest)
  | _ => none

/-- The listing of a directory, by the places that are taken. -/
theorem pathsBelow_eq (disk : Disk) (root : Path) :
    disk.pathsBelow root =
      match disk.walk root with
      | .ok (.there start .directory) =>
        (((disk.nodes.map Prod.fst).filterMap (namesBelow? start)).mergeSort
          Path.segmentsLe).map fun segments => root.append ⟨.none, segments⟩
      | _ => [] := by
  unfold pathsBelow
  cases disk.walk root with
  | error refusal => rfl
  | ok found =>
      cases found with
      | free start => rfl
      | there start node =>
          cases node with
          | directory =>
              dsimp only
              rw [List.filterMap_map]
              rfl
          | _ => rfl

/-- A directory whose places are in order is listed as it stands. -/
theorem pathsBelow_of_sorted {root : Path} {start : Place}
    (walked : disk.walk root = .ok (.there start .directory))
    (sorted : ((disk.nodes.map Prod.fst).filterMap (namesBelow? start)).Pairwise
      fun one other => Path.segmentsLe one other) :
    disk.pathsBelow root = ((disk.nodes.map Prod.fst).filterMap (namesBelow? start)).map
      fun segments => root.append ⟨.none, segments⟩ := by
  rw [pathsBelow_eq, walked]
  dsimp only
  rw [List.mergeSort_of_pairwise sorted]

section Put

variable (present : disk.node? place = some (.file old)) (new : Content)
include present

/-- After a file was put somewhere, all other places are as before. -/
theorem node?_put_file (other : Place) :
    (disk.put place (.file new)).node? other =
      if other = place then some (.file new) else disk.node? other := by
  have inside : place ≠ [] := by
    rintro rfl
    cases present
  split_ifs with same
  · rw [same, node?_put_same inside]
  · exact node?_put_other same

/-- A walk finds the same as before, but for the new content. -/
theorem walkThrough_put (followLast : Bool)
    {follow later : Place → Path → List Text → Except Refusal Found}
    (follows : ∀ directory target rest, later directory target rest =
      (follow directory target rest).map (Found.withContent place new))
    (start : Place) (rest : List Text) :
    (disk.put place (.file new)).walkThrough followLast later start rest =
      (disk.walkThrough followLast follow start rest).map (Found.withContent place new) := by
  induction rest generalizing start with
  | nil =>
      rw [walkThrough, walkThrough, node?_put_file present new]
      by_cases same : start = place
      · subst same
        rw [if_pos rfl, present]
        simp [Except.map, Found.withContent]
      · rw [if_neg same]
        cases disk.node? start <;> simp [Except.map, Found.withContent, same]
  | cons segment rest inductionHypothesis =>
      rw [walkThrough, walkThrough, node?_put_file present new]
      by_cases same : start = place
      · subst same
        rw [if_pos rfl, present]
        rfl
      · rw [if_neg same]
        rcases disk.node? start with _ | content | _ | target
        · rfl
        · rfl
        · dsimp only
          -- The walk takes the same turns on both disks, as only a file has changed its content.
          by_cases back : segment = Path.up
          · rw [if_pos back, if_pos back]
            exact inductionHypothesis _
          · rw [if_neg back, if_neg back]
            by_cases long : nameLimit < Text.byteLength segment
            · rw [if_pos long, if_pos long]
              rfl
            · rw [if_neg long, if_neg long, node?_put_file present new]
              by_cases here : start ++ [segment] = place
              · rw [if_pos here, here, present]
                exact inductionHypothesis place
              · rw [if_neg here]
                rcases disk.node? (start ++ [segment]) with _ | content | _ | target
                · exact inductionHypothesis _
                · exact inductionHypothesis _
                · exact inductionHypothesis _
                · dsimp only
                  by_cases last : rest = [] ∧ followLast = false
                  · rw [if_pos last, if_pos last]
                    simp [Except.map, Found.withContent, here]
                  · rw [if_neg last, if_neg last]
                    exact follows ..
        · rfl

/-- The same from any place. -/
theorem walkFrom_put (followLast : Bool) (links : Nat) (start : Place) (rest : List Text) :
    (disk.put place (.file new)).walkFrom followLast links start rest =
      (disk.walkFrom followLast links start rest).map (Found.withContent place new) := by
  induction links generalizing start rest with
  | zero =>
      exact walkThrough_put present new followLast
        (fun _ _ _ => show Except.error Refusal.linkLoop = Except.map _ (.error .linkLoop) from rfl)
        start rest
  | succ links inductionHypothesis =>
      exact walkThrough_put present new followLast (fun _ _ _ => inductionHypothesis ..) start rest

/-- The same for a path. -/
theorem walk_put (path : Path) (followLast : Bool) :
    (disk.put place (.file new)).walk path followLast =
      (disk.walk path followLast).map (Found.withContent place new) := by
  unfold walk
  split_ifs
  · rfl
  · exact walkFrom_put present new followLast linkLimit _ _

/-- A path that leads to the file finds the new content. -/
theorem walk_put_of_leadsTo {path : Path} (leads : disk.leadsTo path place = true) :
    (disk.put place (.file new)).walk path = .ok (.there place (.file new)) := by
  rw [walk_put present new, walk_of_leadsTo present leads]
  simp [Except.map, Found.withContent]

/-- Any other path finds what it found. -/
theorem walk_put_of_apart {path : Path} (apart : disk.leadsTo path place = false) :
    (disk.put place (.file new)).walk path = disk.walk path := by
  rw [walk_put present new]
  unfold leadsTo at apart
  cases walked : disk.walk path with
  | error refusal => rfl
  | ok found =>
      cases found with
      | free found => rfl
      | there found node =>
          rw [walked] at apart
          have other : found ≠ place := of_decide_eq_false apart
          simp [Except.map, Found.withContent, other]

/-- A test of nodes that does not look at contents has the same outcome. -/
theorem holds_put {test : Node → Bool}
    (blind : ∀ one other, test (.file one) = test (.file other)) (path : Path) :
    (disk.put place (.file new)).holds path test = disk.holds path test := by
  unfold holds stat
  cases leads : disk.leadsTo path place with
  | false => rw [walk_put_of_apart present new leads]
  | true =>
      rw [walk_put_of_leadsTo present new leads, walk_of_leadsTo present leads]
      split_ifs
      · rfl
      · exact congrArg Except.ok (blind new old)

/-- The same paths are directories. -/
theorem isDirectory_put (path : Path) :
    (disk.put place (.file new)).isDirectory path = disk.isDirectory path :=
  holds_put present new (fun _ _ => rfl) path

/-- The same paths are files. -/
theorem isFile_put (path : Path) :
    (disk.put place (.file new)).isFile path = disk.isFile path :=
  holds_put present new (fun _ _ => rfl) path

/-- The same places are listed. -/
theorem places_put :
    (disk.put place (.file new)).nodes.map Prod.fst = disk.nodes.map Prod.fst := by
  have inside : place ≠ [] := by
    rintro rfl
    cases present
  rw [node?_of_ne_nil inside] at present
  exact places_setNode present _

/-- The same paths are below a root. -/
theorem pathsBelow_put (root : Path) :
    (disk.put place (.file new)).pathsBelow root = disk.pathsBelow root := by
  rw [pathsBelow_eq, pathsBelow_eq, places_put present new]
  cases leads : disk.leadsTo root place with
  | false => rw [walk_put_of_apart present new leads]
  | true => rw [walk_put_of_leadsTo present new leads, walk_of_leadsTo present leads]

/-- The same files are below a root. -/
theorem filesBelow_put (root : Path) (ending : Text) :
    (disk.put place (.file new)).filesBelow root ending = disk.filesBelow root ending := by
  unfold filesBelow
  simp only [pathsBelow_put present new, isFile_put present new]

/-- A path to the file reads the other content, and any other path reads what it did. -/
theorem readContent_put (path : Path) :
    (disk.put place (.file new)).readContent path =
      if disk.leadsTo path place then (disk.readContent path).map fun _ => new
      else disk.readContent path := by
  have refuses : (disk.put place (.file new)).refuses = disk.refuses := rfl
  unfold readContent
  cases leads : disk.leadsTo path place with
  | false => rw [walk_put_of_apart present new leads, refuses, if_neg Bool.false_ne_true]
  | true =>
      rw [walk_put_of_leadsTo present new leads, walk_of_leadsTo present leads, refuses, if_pos rfl]
      split_ifs
      · rfl
      · dsimp only
        cases disk.refuses .read place <;> rfl

/-- What is read from the file, by the text that its new content is. -/
theorem readText_put (path : Path) :
    (disk.put place (.file new)).readText path =
      if disk.leadsTo path place then disk.readContent path >>= fun _ => new.decoded
      else disk.readText path := by
  rw [readText_eq, readText_eq, readContent_put present new]
  split_ifs
  · cases disk.readContent path <;> rfl
  · rfl

end Put

end Disk

end Issuebook
