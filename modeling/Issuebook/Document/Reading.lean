import Issuebook.Document.Metadata
import Issuebook.Issue.Intake

/-!
# Reading documents

The issue of a Markdown document: its metadata, with a few other names for fields, and its
body as the description.
-/

namespace Issuebook

/-- A document that was read. -/
structure Document where
  /-- The metadata as written. -/
  metadata : Entries Value
  /-- The text behind the metadata block. -/
  body : Text
  /-- The issue that both make. -/
  issue : Issue

namespace Document

/-- The names that metadata may use for a field. -/
def fieldNames : Entries Text :=
  [("state", "status"), ("created_at", "createdAt"), ("updated_at", "updatedAt"),
   ("closed_at", "closedAt"), ("depends_on", "dependsOn")]

/-- The field that a metadata key is about. -/
def fieldOf (key : Text) : Text :=
  (fieldNames.get? key).getD key

/-- The status field, which a key of its own settles against its other name. -/
def statusField : Text := "status"

/-- The record of the metadata under the names of the fields. -/
def payload (metadata : Entries Value) : Entries Value :=
  Entries.ofList <|
    (metadata.filter fun (key, _) =>
      !(fieldOf key == statusField && metadata.has statusField && key ≠ statusField)).map
      fun (key, value) => (fieldOf key, value)

/-- Whether a value can name an issue. -/
def namesIssue : Option Value → Bool
  | some (.text written) => !Text.isAllBlank written
  | some (.int _) => true
  | some (.bool _) => true
  | _ => false

/-- The text without white space around it, when something remains. -/
def trimmed? (text : Text) : Option Text :=
  let inner := Text.trim text
  if inner.isEmpty then none else some inner

/-- The issue of metadata and a body. -/
def issueOf (metadata : Entries Value) (body : Text) : Except Fault Issue :=
  let record := payload metadata
  if namesIssue (record.get? "id") then
    match Intake.ofRecord (record.put "description" (.ofText? (trimmed? body))) with
    | .error (.invalid _ problems) => .error (.invalidDocument problems)
    | result => result
  else .error .missingId

/-- The document of a text. -/
def read (content : Text) : Except Fault Document := do
  let (metadata, body) ← split content
  let issue ← issueOf metadata body
  pure ⟨metadata, body, issue⟩

/-- The issue of a document's text. -/
def readIssue (content : Text) : Except Fault Issue := do
  let document ← read content
  pure document.issue

end Document

end Issuebook
