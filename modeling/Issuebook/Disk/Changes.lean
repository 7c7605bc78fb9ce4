import Issuebook.Disk.Files
import Issuebook.Text.Basic

/-!
# Changes of a disk

Setting up the nodes of a disk, and telling what is different between two disks.
-/

namespace Issuebook

/-- The content that bytes are. -/
def Content.ofBytes (bytes : List UInt8) : Content :=
  match Text.ofUtf8? bytes with
  | some written => .text written
  | none => .binary bytes

/-- The bytes of a content. -/
def Content.toBytes : Content → List UInt8
  | .text written => Text.toUtf8 written
  | .binary bytes => bytes

namespace Disk

/-- The place of the last segment of a path, in the directory that the others lead to. -/
def placeOf (disk : Disk) (path : Path) : Place :=
  match disk.walk path.parent with
  | .ok (.there place _) => place ++ [path.name]
  | _ => path.segments

/-- The disk with a node where a path leads, in directories that are made for it. -/
def install (disk : Disk) (path : Path) (node : Node) : Disk :=
  let made := (disk.makeDirectories path.parent).2
  made.put (made.placeOf path) node

/-- The disk without a place and everything below it. -/
def dropTree (place : Place) (disk : Disk) : Disk :=
  { disk with nodes := disk.nodes.filter fun (found, _) =>
      (Path.dropFront? place found).isNone }

/-- What is different at a place. -/
structure Change where
  /-- The place. -/
  place : Place
  /-- What was there before. -/
  before : Option Node
  /-- What is there now. -/
  after : Option Node
  deriving Repr, DecidableEq

/-- The places at which two disks differ: those of the later disk in its order, then those
that are gone. -/
def changes (before after : Disk) : List Change :=
  (after.nodes.filterMap fun (place, node) =>
    let old := before.node? place
    if old = some node then none else some ⟨place, old, some node⟩) ++
  before.nodes.filterMap fun (place, node) =>
    if (after.node? place).isSome then none else some ⟨place, some node, none⟩

end Disk

end Issuebook
