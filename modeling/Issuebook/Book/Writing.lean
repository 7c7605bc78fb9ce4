import Issuebook.Book.Naming
import Issuebook.Disk.Files
import Issuebook.Document.Writing
import Issuebook.Journal

/-!
# Writing issue files

A batch of issues is written file by file. When the file system refuses a file, the others
are still written. An issue that had another file before loses it once the new one is there.
-/

namespace Issuebook

/-- What became of the file that an issue had before. -/
inductive StaleOutcome where
  /-- There was none, or the issue keeps it. -/
  | none
  /-- It is removed. -/
  | removed (path : Path)
  /-- It could not be removed. -/
  | left (path : Path) (fault : Fault)
  deriving Repr, DecidableEq

/-- What became of the file of an issue. -/
inductive WriteOutcome where
  /-- It could not be written. -/
  | failed (fault : Fault)
  /-- It is written. -/
  | written (stale : StaleOutcome)
  deriving Repr, DecidableEq

/-- What became of the files of a batch, in order. -/
abbrev WriteReport := List (PlannedWrite × WriteOutcome)

namespace WriteReport

/-- The files that were written. -/
def written (report : WriteReport) : List Path :=
  report.filterMap fun (planned, outcome) =>
    match outcome with
    | .written _ => some planned.path
    | .failed _ => none

/-- The identifiers of the issues that were not written, with the reasons. -/
def failed (report : WriteReport) : List (Text × Text) :=
  report.filterMap fun (planned, outcome) =>
    match outcome with
    | .written _ => none
    | .failed fault => some (planned.issue.id, fault.message)

/-- The files that were removed. -/
def removed (report : WriteReport) : List Path :=
  report.filterMap fun (_, outcome) =>
    match outcome with
    | .written (.removed path) => some path
    | _ => none

/-- The notice about what did not work for an issue. -/
def notice? (planned : PlannedWrite) : WriteOutcome → Option Notice
  | .failed fault =>
    some ⟨.warning, ("failed to write " : Text) ++ planned.relative ++ (": " : Text) ++
      fault.message⟩
  | .written (.left path fault) =>
    some ⟨.warning, ("failed to remove stale file " : Text) ++ path.toText ++ (": " : Text) ++
      fault.message⟩
  | .written _ => none

/-- The notices about what did not work. -/
def notices (report : WriteReport) : List Notice :=
  report.filterMap fun (planned, outcome) => notice? planned outcome

end WriteReport

/-- A batch that was written: what became of its files, the disk it leaves behind, and the
fault that ended it before its time, if one did. -/
structure WriteRun where
  /-- What became of the files. -/
  report : WriteReport
  /-- The disk. -/
  disk : Disk
  /-- What ended the batch early. -/
  fault : Option Fault

namespace Book

/-- Writes the text of a file, and makes its directory first. -/
def writeFile (disk : Disk) (path : Path) (text : Text) : Disk.Outcome :=
  match disk.makeDirectories path.parent with
  | (.ok (), made) => made.writeText path text
  | refused => refused

/-- Removes a file of the book. -/
def removeFile (disk : Disk) (root path : Path) : Except Fault Path × Disk :=
  match disk.ensureWithin root path with
  | .error fault => (.error fault, disk)
  | .ok target =>
    match disk.remove target with
    | (.ok (), left) => (.ok target, left)
    | (.error fault, left) => (.error fault, left)

/-- Removes the file that an issue had before, unless it is its file now. -/
def removeStale (disk : Disk) (root path : Path) (previous : Option Path) :
    Except Fault StaleOutcome × Disk :=
  match previous with
  | none => (.ok .none, disk)
  | some previous =>
    match disk.resolve previous with
    | .error fault => (.error fault, disk)
    | .ok resolved =>
      if resolved = path then (.ok .none, disk)
      else
        match removeFile disk root previous with
        | (.ok target, left) => (.ok (.removed target), left)
        | (.error fault, left) =>
          if fault.isSurvivable then (.ok (.left previous fault), left) else (.error fault, left)

/-- Writes the file of an issue. -/
def writeOne (disk : Disk) (root : Path) (previous : Entries Path) (planned : PlannedWrite) :
    Except Fault WriteOutcome × Disk :=
  match writeFile disk planned.path (planned.issue.withSource .file).toDocument with
  | (.error fault, left) =>
    if fault.isOutside then (.ok (.failed fault), left) else (.error fault, left)
  | (.ok (), left) =>
    match removeStale left root planned.path (previous.get? planned.issue.id) with
    | (.ok stale, left) => (.ok (.written stale), left)
    | (.error fault, left) => (.error fault, left)

/-- Writes the files of planned issues, one after the other. -/
def writeAll (disk : Disk) (root : Path) (previous : Entries Path) :
    List PlannedWrite → WriteRun
  | [] => ⟨[], disk, none⟩
  | planned :: later =>
    match writeOne disk root previous planned with
    | (.error fault, left) => ⟨[], left, some fault⟩
    | (.ok outcome, left) =>
      let run := writeAll left root previous later
      { run with report := (planned, outcome) :: run.report }

/-- Writes a batch of issues. A name that leads out of the book stops the batch before
anything is written. -/
def write (disk : Disk) (today : Date) (root : Path) (options : WriteOptions)
    (issues : List Issue) : WriteRun :=
  match plan disk today root options issues with
  | .error fault => ⟨[], disk, some fault⟩
  | .ok planned => writeAll disk root options.previousPaths planned

/-- The notice that a file is deleted. -/
def deletedNotice (path : Path) : Notice :=
  ⟨.debug, ("deleted " : Text) ++ path.toText⟩

/-- Deletes an issue file of the book. -/
def deleteFile (disk : Disk) (root path : Path) : Noted (Except Fault Unit) × Disk :=
  match removeFile disk root path with
  | (.ok target, left) => (⟨[deletedNotice target], .ok ()⟩, left)
  | (.error fault, left) => (⟨[], .error fault⟩, left)

end Book

end Issuebook
