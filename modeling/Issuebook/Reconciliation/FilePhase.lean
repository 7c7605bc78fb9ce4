import Issuebook.Book.Loading
import Issuebook.Book.Writing
import Issuebook.Reconciliation.Plan
import Issuebook.Reconciliation.StorePhase

/-!
# Changing files

The files' part of a plan. An issue that is written keeps its own name free for itself, and
loses the file it had before if the name has changed.
-/

namespace Issuebook

/-- The files' part of a reconciliation, up to a point. -/
structure FilePhase where
  /-- The notices in order. -/
  notices : List Notice
  /-- The disk. -/
  disk : Disk
  /-- What was done so far, or the fault that ended it. -/
  summary : Except Fault Summary

namespace FilePhase

/-- The file of each issue; of several with one identifier the last. -/
def filesById (entries : List Book.Entry) : Entries Path :=
  Entries.ofList (entries.map fun entry => (entry.issue.id, entry.path))

/-- The files of issues that are written. -/
def ownFiles (files : Entries Path) (writing : List Issue) : Entries Path :=
  files.filter fun (id, _) => Issue.hasId id writing

/-- The names inside the book of files. -/
def ownNames (root : Path) (own : Entries Path) : List Text :=
  own.filterMap fun (_, path) => (Path.relativeTo? root path).map Path.toText

/-- How issues are written beside the files that are there. -/
def writeOptions (disk : Disk) (options : ReconcileOptions) (files : Entries Path)
    (writing : List Issue) : Except Fault WriteOptions :=
  let own := ownFiles files writing
  let names := ownNames options.todoRoot own
  (Book.existingNames disk options.todoRoot).map fun existing =>
    { pattern := options.pattern
      separateClosed := options.separateClosed
      closedSubdir := options.closedSubdir
      existingNames := existing.filter fun name => !names.contains name
      previousPaths := own }

/-- The notice about an operation that failed. -/
def failureNotice (failure : Failure) : Notice :=
  ⟨.warning, failure.operation.name ++ (" failed for " : Text) ++ failure.id ++ (": " : Text) ++
    failure.detail⟩

/-- The phase after a fault that kept every issue from being written. -/
def allFailed (disk : Disk) (summary : Summary) (writing : List Issue) (fault : Fault) :
    FilePhase :=
  if fault.isExpected then
    let failures := writing.map fun issue => ⟨issue.id, .write, fault.message⟩
    ⟨failures.map failureNotice, disk, .ok (summary.withFailures failures)⟩
  else ⟨[], disk, .error fault⟩

/-- Tells which files would be written. -/
def planWrites (disk : Disk) (today : Date) (root : Path) (options : WriteOptions)
    (hadFile : Text → Bool) (writing : List Issue) (summary : Summary) : FilePhase :=
  match Book.plan disk today root options writing with
  | .error fault => allFailed disk summary writing fault
  | .ok planned =>
    ⟨[], disk, .ok (summary.withWritten (planned.map PlannedWrite.relative)
      (planned.map fun write => write.issue.id) hadFile)⟩

/-- The names of files inside a book. -/
def namesWithin (disk : Disk) (root : Path) (paths : List Path) : Except Fault (List Text) :=
  if paths.isEmpty then .ok []
  else (disk.resolve root).map fun resolved => paths.map (Book.nameWithin resolved)

/-- Writes files. -/
def makeWrites (disk : Disk) (today : Date) (root : Path) (options : WriteOptions)
    (hadFile : Text → Bool) (writing : List Issue) (summary : Summary) : FilePhase :=
  let run := Book.write disk today root options writing
  match run.fault with
  | some fault =>
    let failed := allFailed run.disk summary writing fault
    { failed with notices := run.report.notices ++ failed.notices }
  | none =>
    let failures : List Failure :=
      run.report.failed.map fun (id, detail) => ⟨id, .write, detail⟩
    let failedIds := failures.map Failure.id
    let writtenIds := (writing.map Issue.id).filter fun id => !failedIds.contains id
    ⟨run.report.notices, run.disk,
      (namesWithin run.disk root run.report.written).map fun names =>
        (summary.withFailures failures).withWritten names writtenIds hadFile⟩

/-- The part of a plan that writes files. -/
def write (disk : Disk) (today : Date) (options : ReconcileOptions) (files : Entries Path)
    (writing : List Issue) (summary : Summary) : FilePhase :=
  if writing.isEmpty then ⟨[], disk, .ok summary⟩
  else
    match writeOptions disk options files writing with
    | .error fault => ⟨[], disk, .error fault⟩
    | .ok how =>
      let hadFile (id : Text) : Bool := files.has id
      if options.isDry then planWrites disk today options.todoRoot how hadFile writing summary
      else makeWrites disk today options.todoRoot how hadFile writing summary

/-- Removes the file of an issue, if it has one. -/
def removeOne (root : Path) (isDry : Bool) (files : Entries Path) (disk : Disk)
    (summary : Summary) (id : Text) : FilePhase :=
  match files.get? id with
  | none => ⟨[], disk, .ok summary⟩
  | some path =>
    if isDry then ⟨[], disk, .ok (summary.withDeleted id)⟩
    else
      match Book.deleteFile disk root path with
      | (⟨notices, .ok ()⟩, left) => ⟨notices, left, .ok (summary.withDeleted id)⟩
      | (⟨notices, .error fault⟩, left) =>
        if fault.isSurvivable then
          let failure : Failure := ⟨id, .remove, fault.message⟩
          ⟨notices ++ [failureNotice failure], left, .ok (summary.withFailures [failure])⟩
        else ⟨notices, left, .error fault⟩

/-- The part of a plan that removes files. -/
def remove (root : Path) (isDry : Bool) (files : Entries Path) (disk : Disk)
    (summary : Summary) : List Text → FilePhase
  | [] => ⟨[], disk, .ok summary⟩
  | id :: ids =>
    let first := removeOne root isDry files disk summary id
    match first.summary with
    | .error _ => first
    | .ok summary =>
      let later := remove root isDry files first.disk summary ids
      { later with notices := first.notices ++ later.notices }

/-- The files' part of a plan: first all files are written, then others removed. -/
def run (disk : Disk) (today : Date) (options : ReconcileOptions) (entries : List Book.Entry)
    (plan : Plan) (summary : Summary) : FilePhase :=
  let files := filesById entries
  let written := write disk today options files plan.fileWrites summary
  match written.summary with
  | .error _ => written
  | .ok summary =>
    let removed :=
      remove options.todoRoot options.isDry files written.disk summary plan.fileRemovals
    { removed with notices := written.notices ++ removed.notices }

end FilePhase

end Issuebook
