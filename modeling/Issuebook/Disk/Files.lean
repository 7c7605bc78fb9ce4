import Issuebook.Disk.Walk
import Issuebook.Text.Basic

/-!
# Files

Reading, writing, removing and listing. An operation that changes the disk returns the
disk it leaves behind, also when it fails.
-/

namespace Issuebook.Disk

/-- What an operation says, and the disk it leaves behind. -/
abbrev Outcome := Except Fault Unit × Disk

/-- The content of the file that a path names. -/
def readContent (disk : Disk) (path : Path) : Except Fault Content :=
  if hasZero path then .error .zeroInPath
  else
    match disk.walk path with
    | .error refusal => .error (.refused refusal path.toText)
    | .ok (.free _) => .error (.refused .absent path.toText)
    | .ok (.there place (.file content)) =>
      match disk.refuses .read place with
      | some refusal => .error (.refused refusal path.toText)
      | none => .ok content
    | .ok (.there _ _) => .error (.refused .isDirectory path.toText)

/-- The text of the file that a path names, with line feeds for all line ends. -/
def readText (disk : Disk) (path : Path) : Except Fault Text := do
  match ← disk.readContent path with
  | .text written => pure (Text.withLineFeeds written)
  | .binary _ => .error .notUtf8

/-- The disk with a text at a place, unless writing there is refused. -/
def writeAt (disk : Disk) (path : Path) (place : Place) (text : Text) : Outcome :=
  match disk.refuses .write place with
  | some refusal => (.error (.refused refusal path.toText), disk)
  | none => (.ok (), disk.put place (.file (.text text)))

/-- Writes the file that a path names, through links; its directory has to exist. -/
def writeText (disk : Disk) (path : Path) (text : Text) : Outcome :=
  if hasZero path then (.error .zeroInPath, disk)
  else
    match disk.walk path with
    | .error refusal => (.error (.refused refusal path.toText), disk)
    | .ok (.free place) => disk.writeAt path place text
    | .ok (.there place (.file _)) => disk.writeAt path place text
    | .ok (.there _ _) => (.error (.refused .isDirectory path.toText), disk)

/-- Removes the file or the link that a path names; nothing to remove is no fault. -/
def remove (disk : Disk) (path : Path) : Outcome :=
  if hasZero path then (.error .zeroInPath, disk)
  else
    match disk.walk path false with
    | .error .absent => (.ok (), disk)
    | .error refusal => (.error (.refused refusal path.toText), disk)
    | .ok (.free _) => (.ok (), disk)
    | .ok (.there _ .directory) => (.error (.refused .isDirectory path.toText), disk)
    | .ok (.there place _) =>
      match disk.refuses .remove place with
      | some refusal => (.error (.refused refusal path.toText), disk)
      | none => (.ok (), disk.drop place)

/-- Makes the directory `name` in the directory that `parent` names. -/
def makeIn (disk : Disk) (parent : Path) (name : Text) : Except Refusal Disk :=
  match disk.walk parent with
  | .error refusal => .error refusal
  | .ok (.free _) => .error .absent
  | .ok (.there place .directory) =>
    if name = Path.up then .error .present
    else if nameLimit < Text.byteLength name then .error .nameTooLong
    else
      match disk.node? (place ++ [name]) with
      | some _ => .error .present
      | none =>
        match disk.refuses .make (place ++ [name]) with
        | some refusal => .error refusal
        | none => .ok (disk.put (place ++ [name]) .directory)
  | .ok (.there _ _) => .error .notDirectory

/-- Accepts a refusal to make a directory when it is there already. -/
def acceptPresent (disk : Disk) (path : Path) (refusal : Refusal) : Outcome :=
  match disk.isDirectory path with
  | .ok true => (.ok (), disk)
  | .ok false => (.error (.refused refusal path.toText), disk)
  | .error fault => (.error fault, disk)

/-- Makes a directory and those above it; the segments come last one first. -/
def makeAlong (disk : Disk) (anchor : Path.Anchor) : (reversed : List Text) → Outcome
  | [] => disk.acceptPresent ⟨anchor, []⟩ .present
  | name :: above =>
    let parent : Path := ⟨anchor, above.reverse⟩
    match disk.makeIn parent name with
    | .ok made => (.ok (), made)
    | .error .absent =>
      match makeAlong disk anchor above with
      | (.error fault, left) => (.error fault, left)
      | (.ok (), left) =>
        match left.makeIn parent name with
        | .ok made => (.ok (), made)
        | .error .absent => (.error (.refused .absent (parent.child name).toText), left)
        | .error refusal => left.acceptPresent (parent.child name) refusal
    | .error refusal => disk.acceptPresent (parent.child name) refusal

/-- Makes the directory that a path names and those above it, unless they exist. -/
def makeDirectories (disk : Disk) (path : Path) : Outcome :=
  if hasZero path then (.error .zeroInPath, disk)
  else if pathLimit < Text.byteLength path.toText then
    (.error (.refused .nameTooLong path.toText), disk)
  else disk.makeAlong path.anchor path.segments.reverse

/-- The paths below a directory in order of their segments. Directories behind links are
not entered. -/
def pathsBelow (disk : Disk) (root : Path) : List Path :=
  match disk.walk root with
  | .ok (.there place .directory) =>
    let inner := disk.nodes.filterMap fun (found, _) =>
      match Path.dropFront? place found with
      | some (name :: rest) => some (name :: rest)
      | _ => none
    (inner.mergeSort Path.segmentsLe).map fun segments => root.append ⟨.none, segments⟩
  | _ => []

/-- The files below a directory whose names end in `ending`, in order. -/
def filesBelow (disk : Disk) (root : Path) (ending : Text) : Except Fault (List Path) :=
  (disk.pathsBelow root).filterM fun path =>
    if Text.endsWith path.name ending then disk.isFile path else pure false

end Issuebook.Disk
