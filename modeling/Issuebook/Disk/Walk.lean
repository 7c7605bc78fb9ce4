import Issuebook.Disk.Path
import Issuebook.Fault

/-!
# Disks and walking on them

A disk is a map from places to what is there. A place is the list of names on the way
from the root, without links and dots. The content of a file is text, or bytes that are
not UTF-8.

How the disk finds what a path names: segment by segment, through at most forty links.
Every segment but the last has to be a directory, and double dots lead to the directory
above the one they are met in.
-/

namespace Issuebook

/-- The names on the way from the root to a point of the disk. -/
abbrev Place := List Text

/-- What a file holds. -/
inductive Content where
  /-- The characters of a file in UTF-8. -/
  | text (written : Text)
  /-- Bytes that are not UTF-8. -/
  | binary (bytes : List UInt8)
  deriving Repr, DecidableEq, Inhabited

/-- What is at a place. -/
inductive Node where
  /-- A file. -/
  | file (content : Content)
  /-- A directory. -/
  | directory
  /-- A symbolic link with the path it was given. -/
  | link (target : Text)
  deriving Repr, DecidableEq, Inhabited

/-- The ways to use a place that can be refused. -/
inductive Access where
  /-- Reading a file. -/
  | read
  /-- Opening a file for writing. -/
  | write
  /-- Removing a file or a link. -/
  | remove
  /-- Making a directory. -/
  | make
  deriving Repr, DecidableEq

/-- A disk: its nodes below the root, the working directory, and the accesses that it
refuses although nothing in the tree forbids them. -/
structure Disk where
  /-- What is at each place but the root. -/
  nodes : List (Place × Node)
  /-- The working directory, where relative paths begin. -/
  here : Place := []
  /-- Refusals from outside the tree. -/
  refuses : Access → Place → Option Refusal := fun _ _ => none

namespace Disk

/-- The node at a place among others. -/
def find? (place : Place) : List (Place × Node) → Option Node
  | [] => none
  | (found, node) :: rest => if found = place then some node else find? place rest

/-- What is at a place; the root is a directory. -/
def node? (disk : Disk) : Place → Option Node
  | [] => some .directory
  | place => find? place disk.nodes

/-- The nodes with one place set: changed where it stands, or added at the end. -/
def setNode (place : Place) (node : Node) : List (Place × Node) → List (Place × Node)
  | [] => [(place, node)]
  | (found, old) :: rest =>
    if found = place then (found, node) :: rest else (found, old) :: setNode place node rest

/-- The disk with one place set. -/
def put (place : Place) (node : Node) (disk : Disk) : Disk :=
  { disk with nodes := setNode place node disk.nodes }

/-- The disk without what is at a place. -/
def drop (place : Place) (disk : Disk) : Disk :=
  { disk with nodes := disk.nodes.filter fun (found, _) => found ≠ place }

/-- Where the segments of a path begin. -/
def start (disk : Disk) (path : Path) : Place :=
  if path.isAbsolute then [] else disk.here

/-- The written path of a place. -/
def pathOf (place : Place) : Path :=
  ⟨.root, place⟩

end Disk

end Issuebook

namespace Issuebook.Disk

/-- Where a walk ends. -/
inductive Found where
  /-- At a node. -/
  | there (place : Place) (node : Node)
  /-- At a name that is free in an existing directory. -/
  | free (place : Place)
  deriving Repr, DecidableEq

/-- The longest name, in bytes. -/
def nameLimit : Nat := 255

/-- The longest path, in bytes. -/
def pathLimit : Nat := 4095

/-- The number of links one walk may follow. -/
def linkLimit : Nat := 40

/-- Where the segments of a link's target begin, when the link is in a directory. -/
def linkStart (directory : Place) (target : Path) : Place :=
  if target.isAbsolute then [] else directory

/-- A walk that hands over to `follow` at a link, with the directory of the link, its
target and the segments that remain. -/
def walkThrough (disk : Disk) (followLast : Bool)
    (follow : Place → Path → List Text → Except Refusal Found) :
    Place → List Text → Except Refusal Found
  | place, [] =>
    match disk.node? place with
    | some node => .ok (.there place node)
    | none => .ok (.free place)
  | place, segment :: rest =>
    match disk.node? place with
    | none => .error .absent
    | some .directory =>
      if segment = Path.up then walkThrough disk followLast follow place.dropLast rest
      else if nameLimit < Text.byteLength segment then .error .nameTooLong
      else
        match disk.node? (place ++ [segment]) with
        | some (.link target) =>
          if rest = [] ∧ followLast = false then
            .ok (.there (place ++ [segment]) (.link target))
          else follow place (Path.ofText target) rest
        | _ => walkThrough disk followLast follow (place ++ [segment]) rest
    | some _ => .error .notDirectory

/-- A walk through at most `links` links. -/
def walkFrom (disk : Disk) (followLast : Bool) :
    (links : Nat) → Place → List Text → Except Refusal Found
  | 0 => walkThrough disk followLast fun _ _ _ => .error .linkLoop
  | links + 1 =>
    walkThrough disk followLast fun directory target rest =>
      walkFrom disk followLast links (linkStart directory target) (target.segments ++ rest)

/-- What a path names. -/
def walk (disk : Disk) (path : Path) (followLast : Bool := true) : Except Refusal Found :=
  if pathLimit < Text.byteLength path.toText then .error .nameTooLong
  else walkFrom disk followLast linkLimit (disk.start path) path.segments

/-- Whether a path holds the character zero, which no system call accepts. -/
def hasZero (path : Path) : Bool :=
  path.segments.any fun segment => segment.any fun char => char.val = 0

/-- The node that a path names, through links. -/
def stat (disk : Disk) (path : Path) : Except Fault Node :=
  if hasZero path then .error .zeroInPath
  else
    match disk.walk path with
    | .ok (.there _ node) => .ok node
    | .ok (.free _) => .error (.refused .absent path.toText)
    | .error refusal => .error (.refused refusal path.toText)

/-- Whether the node that a path names satisfies a test. A path that leads nowhere does
not; a name that is too long is a fault. -/
def holds (disk : Disk) (path : Path) (test : Node → Bool) : Except Fault Bool :=
  match disk.stat path with
  | .ok node => .ok (test node)
  | .error (.refused .absent _) => .ok false
  | .error (.refused .notDirectory _) => .ok false
  | .error (.refused .linkLoop _) => .ok false
  | .error .zeroInPath => .ok false
  | .error fault => .error fault

/-- Whether a path names a directory. -/
def isDirectory (disk : Disk) (path : Path) : Except Fault Bool :=
  disk.holds path fun node => node = .directory

/-- Whether a path names a file. -/
def isFile (disk : Disk) (path : Path) : Except Fault Bool :=
  disk.holds path fun node =>
    match node with
    | .file _ => true
    | _ => false

/-- Whether a path names anything. -/
def exists? (disk : Disk) (path : Path) : Except Fault Bool :=
  disk.holds path fun _ => true

end Issuebook.Disk

/-!
## Resolving paths

The canonical form of a path: absolute, without links and double dots, whether or not
anything is there. Where links lead to each other, the path stays as it is from the first
repeated link on, and a path that then cannot be walked is a fault.
-/

namespace Issuebook.Disk

/-- Resolution that hands over to `follow` at a link; `active` holds the links that are
being resolved. The flag tells whether the end was reached. -/
def resolveThrough (disk : Disk) (active : List Place)
    (follow : List Place → Place → List Text → Place × Bool) :
    Place → List Text → Place × Bool
  | place, [] => (place, true)
  | place, segment :: rest =>
    if segment = Path.up then resolveThrough disk active follow place.dropLast rest
    else
      let next := place ++ [segment]
      match disk.node? next with
      | some (.link target) =>
        if next ∈ active then (next ++ rest, false)
        else
          let target := Path.ofText target
          match follow (next :: active) (linkStart place target) target.segments with
          | (reached, true) => resolveThrough disk active follow reached rest
          | (reached, false) => (reached ++ rest, false)
      | _ => resolveThrough disk active follow next rest

/-- Resolution through links nested at most `depth` deep. -/
def resolveFrom (disk : Disk) :
    (depth : Nat) → (active : List Place) → Place → List Text → Place × Bool
  | 0, active => resolveThrough disk active fun _ place rest => (place ++ rest, false)
  | depth + 1, active => resolveThrough disk active (resolveFrom disk depth)

/-- The number of links on a disk. -/
def linkCount (disk : Disk) : Nat :=
  disk.nodes.countP fun (_, node) =>
    match node with
    | .link _ => true
    | _ => false

/-- The place that a path leads to. Nested links are distinct, so their number bounds the
nesting. -/
def resolvePlace (disk : Disk) (path : Path) : Place :=
  Path.tidy [] (resolveFrom disk (disk.linkCount + 1) [] (disk.start path) path.segments).1

/-- The canonical form of a path. -/
def resolve (disk : Disk) (path : Path) : Except Fault Path :=
  if hasZero path then .error .zeroInPath
  else
    let resolved := pathOf (disk.resolvePlace path)
    match disk.walk resolved with
    | .error .linkLoop => .error (.endlessLinks resolved.toText)
    | _ => .ok resolved

/-- The absolute form of a path with double dots taken as written. -/
def absolute (disk : Disk) (path : Path) : Path :=
  ⟨if path.isAbsolute then path.anchor else .root,
    Path.tidy [] (disk.start path ++ path.segments)⟩

/-- Whether a resolved path lies inside a resolved root; `strict` excludes the root. -/
def isWithin (root candidate : Path) (strict : Bool) : Bool :=
  match Path.relativeTo? root candidate with
  | none => false
  | some inner => !(strict && inner.segments.isEmpty) && !inner.segments.contains Path.up

/-- The canonical form of a path that has to stay inside a root. A relative path begins at
the root. -/
def ensureWithin (disk : Disk) (root path : Path) (strict : Bool := true) :
    Except Fault Path := do
  let resolvedRoot ← disk.resolve (disk.absolute root)
  let resolved ← disk.resolve (resolvedRoot.append path)
  if isWithin resolvedRoot resolved strict then pure resolved
  else .error (.escapes path.toText resolvedRoot.toText)

end Issuebook.Disk
