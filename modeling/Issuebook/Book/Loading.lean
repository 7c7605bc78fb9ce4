import Issuebook.Journal
import Issuebook.Disk.Files
import Issuebook.Document.Reading

/-!
# Loading issue files

The book is every Markdown file below a directory. Files that cannot be read, and those that
hold no issue, are passed over with a notice.
-/

namespace Issuebook.Book

/-- The ending of issue files. -/
def fileEnding : Text := ".md"

/-- An issue and its file. -/
structure Entry where
  /-- The file. -/
  path : Path
  /-- The issue in it. -/
  issue : Issue
  deriving Repr, DecidableEq

/-- The issue files of a book in order; a book that is not there has none. -/
def files (disk : Disk) (root : Path) : Except Fault (List Path) := do
  if ← disk.isDirectory root then disk.filesBelow root fileEnding else pure []

/-- The issue in a file. -/
def readFile (disk : Disk) (path : Path) : Except Fault Issue := do
  let content ← disk.readText path
  let issue ← Document.readIssue content
  pure (issue.withSource .file)

/-- Whether a fault concerns one file alone. -/
def isPassedOver (fault : Fault) : Bool :=
  fault.isSurvivable || fault == .notUtf8

/-- The notice about a file that is passed over. -/
def skipNotice (path : Path) (fault : Fault) : Notice :=
  ⟨.warning, ("skipping " : Text) ++ path.toText ++ (": " : Text) ++ fault.message⟩

/-- The issues of a book with their files. -/
def load (disk : Disk) (root : Path) : Noted (Except Fault (List Entry)) :=
  match files disk root with
  | .error fault => ⟨[], .error fault⟩
  | .ok paths =>
    let read := Batch.collect isPassedOver skipNotice
      (paths.map fun path => (path, readFile disk path))
    ⟨read.notices, read.value.map fun entries =>
      entries.map fun (path, issue) => ⟨path, issue⟩⟩

/-- The name of a path as seen from a directory. -/
def nameWithin (root path : Path) : Text :=
  ((Path.relativeTo? root path).getD path).toText

/-- The names of the issue files of a book. -/
def existingNames (disk : Disk) (root : Path) : Except Fault (List Text) :=
  (files disk root).map fun paths => paths.map (nameWithin root)

end Issuebook.Book
