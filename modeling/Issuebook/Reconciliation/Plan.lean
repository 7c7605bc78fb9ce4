import Issuebook.Reconciliation.Changes
import Issuebook.Filename.Pattern
import Issuebook.Settings.Basic
import Issuebook.Template.Segment

/-!
# Plans

The actions that a direction allows on the differences between both sides.
-/

namespace Issuebook

/-- The sides that may be changed. -/
inductive Direction where
  /-- Files follow the store. -/
  | beadsToFiles
  /-- The store follows files. -/
  | filesToBeads
  /-- Each follows the other. -/
  | bothWays
  deriving Repr, DecidableEq, Inhabited

namespace Direction

/-- The written name of a direction. -/
def name : Direction → Text
  | .beadsToFiles => "beads-to-files"
  | .filesToBeads => "files-to-beads"
  | .bothWays => "bidirectional"

/-- Every direction. -/
def all : List Direction :=
  [.beadsToFiles, .filesToBeads, .bothWays]

/-- The direction of a written name. -/
def ofName? (written : Text) : Option Direction :=
  all.find? fun direction => direction.name = written

/-- Whether newer copies are written to files. -/
def writesFiles (direction : Direction) : Bool :=
  direction ≠ .filesToBeads

/-- Whether newer copies are sent to the store. -/
def writesBeads (direction : Direction) : Bool :=
  direction ≠ .beadsToFiles

end Direction

/-- The actions of one reconciliation. -/
structure Plan where
  /-- The issues to write to files. -/
  fileWrites : List Issue
  /-- The identifiers whose files go. -/
  fileRemovals : List Text
  /-- The issues to create in the store. -/
  beadsCreates : List Issue
  /-- The issues to update in the store. -/
  beadsUpdates : List Issue
  /-- The identifiers to delete from the store. -/
  beadsDeletes : List Text
  deriving Repr, DecidableEq

namespace Plan

/-- What happens to a copy that goes to a file. -/
inductive FileAction where
  /-- It is written. -/
  | write
  /-- It is deleted from the store instead. -/
  | deleteFromBeads
  /-- Nothing. -/
  | skip
  deriving Repr, DecidableEq

/-- What happens to a copy for files; `isNew` tells that it has no file yet. Without leave to
delete, a missing file is always written again. -/
def fileAction (direction : Direction) (deletes isNew : Bool) : FileAction :=
  if isNew then
    if direction = .beadsToFiles ∨ deletes = false then .write else .deleteFromBeads
  else if direction.writesFiles then .write
  else .skip

/-- What happens to a copy that goes to the store. -/
inductive BeadsAction where
  /-- It is created. -/
  | create
  /-- It is updated. -/
  | update
  /-- Its file is removed instead. -/
  | removeFile
  /-- Nothing. -/
  | skip
  deriving Repr, DecidableEq

/-- What happens to a copy for the store; `isNew` tells that the store has none yet. -/
def beadsAction (direction : Direction) (deletes isNew : Bool) : BeadsAction :=
  if isNew then
    if deletes = true ∧ direction ≠ .filesToBeads then .removeFile
    else if direction.writesBeads then .create
    else .skip
  else if direction.writesBeads then .update
  else .skip

/-- The plan for differences. Of issues in conflict the copy that stays goes to the other
side. -/
def ofChanges (changes : Changes) (direction : Direction) (deletes : Bool)
    (beadsIssues fileIssues : List Issue) : Plan :=
  let forFile (issue : Issue) : FileAction :=
    fileAction direction deletes (changes.beadsOnly.contains issue.id)
  let forBeads (issue : Issue) : BeadsAction :=
    beadsAction direction deletes (changes.filesOnly.contains issue.id)
  let kept (side : Side) (issues : List Issue) : List Issue :=
    changes.conflicts.filterMap fun conflict =>
      if conflict.resolution = side then Issue.lastWithId? conflict.id issues else none
  { fileWrites :=
      (changes.toFiles.filter fun issue => forFile issue = .write) ++
        (if direction.writesFiles then kept .beads beadsIssues else [])
    fileRemovals :=
      (changes.toBeads.filter fun issue => forBeads issue = .removeFile).map Issue.id
    beadsCreates := changes.toBeads.filter fun issue => forBeads issue = .create
    beadsUpdates :=
      (changes.toBeads.filter fun issue => forBeads issue = .update) ++
        (if direction.writesBeads then kept .file fileIssues else [])
    beadsDeletes :=
      (changes.toFiles.filter fun issue => forFile issue = .deleteFromBeads).map Issue.id }

end Plan

end Issuebook

/-!
## Options of a reconciliation

What a reconciliation needs to know, and how the settings of a project decide it.
-/

namespace Issuebook

/-- What a reconciliation needs to know. -/
structure ReconcileOptions where
  /-- The project. -/
  projectRoot : Path
  /-- The directory of issue files. -/
  todoRoot : Path
  /-- The directory of the store. -/
  beadsRoot : Path
  /-- Which sides may change. -/
  direction : Direction := .bothWays
  /-- Whether issues missing on one side are deleted on the other. -/
  deletes : Bool := false
  /-- Whether nothing is changed and only the plan reported. -/
  isDry : Bool := false
  /-- What happens to conflicts. -/
  strategy : Strategy := .beadsWins
  /-- When both sides agreed last, as written. -/
  lastAgreedAt : Option Text := none
  /-- Changes within this span are in conflict where the last agreement is not known. -/
  window : Window := Window.standard
  /-- The filename pattern. -/
  pattern : Text := Pattern.standard
  /-- Whether closed issues have a directory of their own. -/
  separateClosed : Bool := false
  /-- The directory of closed issues. -/
  closedSubdir : Text := "closed"

namespace ReconcileOptions

/-- The options of a project without settings. -/
def ofRoot (root : Path) : ReconcileOptions where
  projectRoot := root
  todoRoot := Places.todoDirectory root Places.todoName
  beadsRoot := Places.beadsDirectory root none

/-- The filename pattern of a project: that of its settings, or else that of its template, or
else the standard one. -/
def patternOf (disk : Disk) (root : Path) (settings : Settings) : Noted (Except Fault Text) :=
  match settings.filePattern with
  | some pattern => ⟨[], .ok pattern⟩
  | none =>
    let resolution := Resolution.choose disk .issue (settings.templateSource root)
    ⟨resolution.notices, resolution.value.map fun template =>
      (Template.pattern? template.text).getD Pattern.standard⟩

/-- The options of a project with settings. -/
def ofSettings (disk : Disk) (root : Path) (settings : Settings) :
    Noted (Except Fault ReconcileOptions) :=
  let pattern := patternOf disk root settings
  ⟨pattern.notices, do
    let pattern ← pattern.value
    let window ← Window.ofSeconds settings.conflictWindow
    pure
      { projectRoot := root
        todoRoot := settings.todoPath root
        beadsRoot := settings.beadsPath root
        strategy := settings.strategy
        window := window
        pattern := pattern
        separateClosed := settings.separateClosed
        closedSubdir := settings.closedSubdir }⟩

end ReconcileOptions

end Issuebook
