import Issuebook.Disk.Walk
import Issuebook.Entries
import Issuebook.Filename.Collision

/-!
# Naming issue files

Where the files of issues go. Every name of a batch is settled, and found to stay inside
the directory of the book, before anything is written.
-/

namespace Issuebook

/-- How the issues of a batch are written. -/
structure WriteOptions where
  /-- The filename pattern. -/
  pattern : Text := Pattern.standard
  /-- Whether closed issues have a directory of their own. -/
  separateClosed : Bool := false
  /-- The directory of closed issues. -/
  closedSubdir : Text := "closed"
  /-- The names that are taken. -/
  existingNames : List Text := []
  /-- The files that issues have so far, by identifier. -/
  previousPaths : Entries Path := []

/-- Where an issue is written. -/
structure PlannedWrite where
  /-- The issue. -/
  issue : Issue
  /-- Its file. -/
  path : Path
  /-- The name of its file inside the book. -/
  relative : Text
  deriving Repr, DecidableEq

namespace Book

/-- The identifier that stands in names for one of which nothing remains. -/
def standInId : Text := "issue"

/-- The issue with an identifier, a title and an assignee that cannot steer a path. -/
def withSafeNames (issue : Issue) : Issue :=
  let id := Text.safeName issue.id
  { issue with
    id := if id.isEmpty then standInId else id
    title := Text.safeName issue.title
    assignee := issue.assignee.bind fun assignee =>
      let safe := Text.safeName assignee
      if safe.isEmpty then none else some safe }

/-- Whether the issue goes to the directory of closed issues. -/
def isSeparated (options : WriteOptions) (issue : Issue) : Bool :=
  options.separateClosed && issue.status == .closed

/-- The name of a file inside the book. -/
def relativeName (options : WriteOptions) (issue : Issue) (name : Text) : Text :=
  if isSeparated options issue then ((Path.ofText options.closedSubdir).join name).toText
  else name

/-- Where an issue is written beside the names that are taken, and its name. -/
def planOne (disk : Disk) (today : Date) (root : Path) (options : WriteOptions)
    (taken : List Text) (issue : Issue) : Except Fault (Text × PlannedWrite) := do
  let name ← Filename.apply today options.pattern (withSafeNames issue) taken
  let relative := relativeName options issue name
  let target ← disk.ensureWithin root (Path.ofText relative)
  let _ ← disk.ensureWithin root target.parent false
  pure (name, ⟨issue, target, relative⟩)

/-- Where issues are written, one after the other. -/
def planFrom (disk : Disk) (today : Date) (root : Path) (options : WriteOptions)
    (taken : List Text) : List Issue → Except Fault (List PlannedWrite)
  | [] => .ok []
  | issue :: issues => do
    let (name, planned) ← planOne disk today root options taken issue
    let later ← planFrom disk today root options (name :: taken) issues
    pure (planned :: later)

/-- Where the issues of a batch are written. -/
def plan (disk : Disk) (today : Date) (root : Path) (options : WriteOptions)
    (issues : List Issue) : Except Fault (List PlannedWrite) := do
  let resolvedRoot ← disk.ensureWithin root root false
  if issues.any (isSeparated options) then
    let _ ← disk.ensureWithin resolvedRoot (Path.ofText options.closedSubdir)
    planFrom disk today resolvedRoot options options.existingNames issues
  else planFrom disk today resolvedRoot options options.existingNames issues

end Book

end Issuebook
