import Issuebook.Journal
import Issuebook.Disk.Files
import Issuebook.Json.Reader
import Issuebook.Places
import Issuebook.Store.Record

/-!
# The store's log

The store keeps one record a line. Lines that hold no record are passed over with a notice,
and so are records that make no issue; a line that nests too deep ends the loading. What other
issues say about an issue is added to it.
-/

namespace Issuebook.StoreLog

/-- The record of a line. -/
def readLine (line : Text) (nesting : Nat := Json.standardNesting) : Except Fault StoreRecord :=
  Json.load line nesting >>= StoreRecord.ofValue

/-- The lines that are not blank, with their numbers from one. -/
def numberedLines (content : Text) : List (Nat × Text) :=
  ((Text.lines content).zipIdx.filter fun (line, _) => !Text.isAllBlank line).map
    fun (line, index) => (index + 1, line)

/-- The notice about a line without a record. -/
def lineNotice (path : Path) (number : Nat) (fault : Fault) : Notice :=
  ⟨.warning, ("skipping malformed beads record " : Text) ++ path.toText ++ ':' ::
    Text.ofNat number ++ (": " : Text) ++ fault.message⟩

/-- Whether a fault means that data does not have the expected form. -/
def isInvalid : Fault → Bool
  | .invalid _ _ => true
  | _ => false

/-- Whether a fault means that a line holds no record. -/
def isMalformed (fault : Fault) : Bool :=
  fault == .notJson || isInvalid fault

/-- The records of a log that do not mark their issue as gone. -/
def readRecords (path : Path) (content : Text) (nesting : Nat) :
    Noted (Except Fault (List StoreRecord)) :=
  let read := Batch.collect isMalformed (lineNotice path)
    ((numberedLines content).map fun (number, line) => (number, readLine line nesting))
  ⟨read.notices, read.value.map fun records =>
    (records.map Prod.snd).filter fun record => !record.isTombstone⟩

/-- The notice about a record that makes no issue. -/
def recordNotice (record : StoreRecord) (fault : Fault) : Notice :=
  ⟨.warning, ("skipping beads record " : Text) ++ Text.quoted record.id ++ (": " : Text) ++
    fault.message⟩

/-- The issues of records. -/
def issuesOf (records : List StoreRecord) : Noted (Except Fault (List Issue)) :=
  let read := Batch.collect isInvalid recordNotice
    (records.map fun record => (record, record.toIssue))
  ⟨read.notices, read.value.map fun issues => issues.map Prod.snd⟩

/-- The edges between issues, found at the end that they lead to. -/
structure InverseEdges where
  /-- Under an identifier those of the issues that wait for it. -/
  blocks : Entries (List Text)
  /-- Under an identifier those of the issues that are a part of it. -/
  children : Entries (List Text)

namespace InverseEdges

/-- No edges. -/
def empty : InverseEdges := ⟨[], []⟩

/-- Lists an identifier under another, behind those that are listed there. -/
def list (id : Text) (lists : Entries (List Text)) (target : Text) : Entries (List Text) :=
  lists.put target ((lists.get? target).getD [] ++ [id])

/-- The edges with those of one more issue. -/
def add (edges : InverseEdges) (issue : Issue) : InverseEdges :=
  let parent := Issue.textOrEmpty issue.parent
  { blocks := (Issue.itemsOrNone issue.dependsOn).foldl (list issue.id) edges.blocks
    children := if parent.isEmpty then edges.children else list issue.id edges.children parent }

/-- The edges of issues. -/
def ofIssues (issues : List Issue) : InverseEdges :=
  issues.foldl add empty

/-- What is listed under an identifier, if anything is. -/
def listed? (id : Text) (lists : Entries (List Text)) : Option (List Text) :=
  (lists.get? id).filter fun ids => !ids.isEmpty

end InverseEdges

/-- The issues, each with those that wait for it and those that are a part of it. -/
def withInverseEdges (issues : List Issue) : List Issue :=
  let edges := InverseEdges.ofIssues issues
  issues.map fun issue =>
    { issue with
      blocks := InverseEdges.listed? issue.id edges.blocks
      children := InverseEdges.listed? issue.id edges.children }

/-- The notice about a log that cannot be read. -/
def unreadableNotice (path : Path) (fault : Fault) : Notice :=
  ⟨.warning, ("cannot read beads log " : Text) ++ path.toText ++ (": " : Text) ++ fault.message⟩

/-- The content of a log. One that is absent or refused by the file system is empty. -/
def readContent (disk : Disk) (path : Path) : Noted (Except Fault Text) :=
  match disk.readText path with
  | .ok content => ⟨[], .ok content⟩
  | .error (.refused .absent _) => ⟨[], .ok []⟩
  | .error fault =>
    if fault.isOutside then ⟨[unreadableNotice path fault], .ok []⟩ else ⟨[], .error fault⟩

/-- The issues of a store in the order of its log. -/
def load (disk : Disk) (store : Path) (nesting : Nat := Json.standardNesting) :
    Noted (Except Fault (List Issue)) :=
  let path := Places.issueLog store
  let content := readContent disk path
  match content.value with
  | .error fault => ⟨content.notices, .error fault⟩
  | .ok written =>
    let records := readRecords path written nesting
    match records.value with
    | .error fault => ⟨content.notices ++ records.notices, .error fault⟩
    | .ok kept =>
      let issues := issuesOf kept
      ⟨content.notices ++ records.notices ++ issues.notices, issues.value.map withInverseEdges⟩

end Issuebook.StoreLog
