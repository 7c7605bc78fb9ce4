import Issuebook.Text.Basic

/-!
# Issues

The record that the Markdown tree and the beads store share.
-/

namespace Issuebook

/-- How far the work on an issue has come. -/
inductive Status where
  /-- Nobody works on it yet. -/
  | opened
  /-- Somebody works on it. -/
  | inProgress
  /-- Another issue has to come first. -/
  | blocked
  /-- The work is over. -/
  | closed
  deriving Repr, DecidableEq, Inhabited

/-- The written name of a status. -/
def Status.name : Status → Text
  | .opened => "open"
  | .inProgress => "in_progress"
  | .blocked => "blocked"
  | .closed => "closed"

/-- Every status. -/
def Status.all : List Status :=
  [.opened, .inProgress, .blocked, .closed]

/-- The kind of work an issue asks for. -/
inductive Kind where
  /-- A piece of work. -/
  | task
  /-- A defect. -/
  | bug
  /-- A new ability. -/
  | feature
  /-- A group of issues. -/
  | epic
  deriving Repr, DecidableEq, Inhabited

/-- The written name of a kind. -/
def Kind.name : Kind → Text
  | .task => "task"
  | .bug => "bug"
  | .feature => "feature"
  | .epic => "epic"

/-- Every kind. -/
def Kind.all : List Kind :=
  [.task, .bug, .feature, .epic]

/-- The two places an issue can live in. -/
inductive Side where
  /-- The Markdown tree. -/
  | file
  /-- The beads store. -/
  | beads
  deriving Repr, DecidableEq, Inhabited

/-- The written name of a side. -/
def Side.name : Side → Text
  | .file => "file"
  | .beads => "beads"

/-- Every side. -/
def Side.all : List Side :=
  [.file, .beads]

/-- The urgency of an issue, zero first. -/
abbrev Priority := Fin 5

/-- The priority of an issue that names none. -/
def Priority.standard : Priority := 2

/-- The most urgent priority. -/
def Priority.first : Priority := ⟨0, by decide⟩

/-- The least urgent priority. -/
def Priority.last : Priority := ⟨4, by decide⟩

/-- An issue. Absent lists are kept apart from empty ones. -/
structure Issue where
  /-- The identifier, never blank. -/
  id : Text
  /-- The title. -/
  title : Text
  /-- Free Markdown text. -/
  description : Option Text
  /-- How far the work has come. -/
  status : Status
  /-- What kind of work it is. -/
  kind : Kind
  /-- How urgent it is. -/
  priority : Priority
  /-- Labels in order. -/
  labels : Option (List Text)
  /-- Who works on it. -/
  assignee : Option Text
  /-- When it was created, as written. -/
  createdAt : Option Text
  /-- When it last changed, as written. -/
  updatedAt : Option Text
  /-- When it was closed, as written. -/
  closedAt : Option Text
  /-- The identifiers of the issues it waits for. -/
  dependsOn : Option (List Text)
  /-- The identifiers of the issues that wait for it. -/
  blocks : Option (List Text)
  /-- The identifiers of its parts. -/
  children : Option (List Text)
  /-- The identifier of the issue it is a part of. -/
  parent : Option Text
  /-- The side it was read from. -/
  source : Option Side
  deriving Repr, DecidableEq, Inhabited

namespace Issue

/-- The copy that names a side as its source. -/
def withSource (side : Side) (issue : Issue) : Issue :=
  { issue with source := some side }

/-- The text of an optional field, empty when absent. -/
def textOrEmpty (field : Option Text) : Text :=
  field.getD []

/-- The items of an optional list, none when absent. -/
def itemsOrNone (field : Option (List Text)) : List Text :=
  field.getD []

end Issue

end Issuebook
