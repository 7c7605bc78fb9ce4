import Issuebook.Entries
import Issuebook.Fault
import Issuebook.Template.Segment
import Issuebook.Text.Basic
import Issuebook.Text.Case

/-!
# Presets

The built-in templates: four for issues and two for the rollup, under four names.
-/

namespace Issuebook

/-- What a template is for. -/
inductive TemplateKind where
  /-- One issue. -/
  | issue
  /-- The rollup of all issues. -/
  | todo
  deriving Repr, DecidableEq, Inhabited

/-- The written name of a kind of template. -/
def TemplateKind.name : TemplateKind → Text
  | .issue => "issue"
  | .todo => "todo"

namespace Preset

/-- The slot of a field of the issue. -/
def issueSlot (field : String) : Text :=
  Segment.braced (("issue." : Text) ++ field.toList)

/-- The slot of a value of the rollup. -/
def todoSlot (name : String) : Text :=
  Segment.braced (("todo." : Text) ++ name.toList)

/-- A line that names a field and shows it. -/
def labelled (label field : String) : Text :=
  label.toList ++ issueSlot field

/-- A line that shows a field in bold behind its name. -/
def bullet (label field : String) : Text :=
  ("- **" : Text) ++ label.toList ++ (":** " : Text) ++ issueSlot field

/-- A line that shows a field as code behind its name. -/
def codeBullet (label field : String) : Text :=
  ("- **" : Text) ++ label.toList ++ (":** `" : Text) ++ issueSlot field ++ ['`']

/-- A template of lines, each with its line feed. -/
def ofLines (lines : List Text) : Text :=
  lines.flatMap fun line => line ++ ['\n']

/-- The directive for the standard filename pattern. -/
def patternLine : Text := "$pattern: \"[id]-[title].md\""

/-- A fence line. -/
def dashes : Text := "---"

/-- The lines of the title and the description. -/
def opening : List Text :=
  [labelled "# " "title", [], issueSlot "description"]

/-- The lines of the three times of an issue. -/
def timeline : List Text :=
  ["## Timeline", [], bullet "Created" "createdAt", bullet "Updated" "updatedAt",
   bullet "Closed" "closedAt"]

/-- A title and a description. -/
def minimal : Text :=
  ofLines ([dashes, patternLine, dashes] ++ opening)

/-- Every field, in the metadata and in the body. -/
def detailed : Text :=
  ofLines <|
    [dashes, patternLine, labelled "id: " "id", labelled "title: " "title",
     labelled "state: " "status", labelled "priority: " "priority", labelled "type: " "type",
     labelled "labels: " "labels", labelled "assignee: " "assignee",
     labelled "createdAt: " "createdAt", labelled "updatedAt: " "updatedAt",
     labelled "closedAt: " "closedAt", labelled "parent: " "parent",
     labelled "dependsOn: " "dependsOn", labelled "blocks: " "blocks",
     labelled "children: " "children", dashes] ++ opening ++
    [[], "## Metadata", [], bullet "ID" "id", bullet "Status" "status",
     bullet "Priority" "priority", bullet "Type" "type", bullet "Assignee" "assignee",
     bullet "Labels" "labels", []] ++ timeline ++
    [[], "## Related Issues", [], "**Depends on:**", issueSlot "dependsOn", [], "**Blocks:**",
     issueSlot "blocks", [], "**Children:**", issueSlot "children"]

/-- Labels in a section of their own, and a place for comments. -/
def github : Text :=
  ofLines <|
    [dashes, patternLine, dashes] ++ opening ++
    [[], dashes, [], "## Labels", [], issueSlot "labels", [], "## Metadata", [],
     codeBullet "Status" "status", codeBullet "Priority" "priority", codeBullet "Type" "type",
     labelled "- **Assignee:** @" "assignee", [], "## Related Issues", [],
     labelled "**Depends on:** " "dependsOn", labelled "**Blocks:** " "blocks", [], dashes, [],
     "## Comments", [], "<!-- Discussion and activity go here -->"]

/-- Details, times and relations behind the description. -/
def linear : Text :=
  ofLines <|
    [dashes, patternLine, dashes] ++ opening ++
    [[], "## Details", [], bullet "Status" "status", bullet "Priority" "priority",
     bullet "Type" "type", bullet "Assignee" "assignee", bullet "Labels" "labels", []] ++
    timeline ++
    [[], "## Related", [], labelled "**Depends on:** " "dependsOn",
     labelled "**Blocks:** " "blocks", labelled "**Parent:** " "parent",
     labelled "**Children:** " "children"]

/-- The heading of a rollup and an empty line. -/
def rollupHeading : List Text :=
  [("# " : Text) ++ todoSlot "title", []]

/-- The sections of a rollup under its heading. -/
def plainRollup : Text :=
  ofLines (rollupHeading ++ [todoSlot "sections"])

/-- A line that counts issues. -/
def countLine (label name : String) : Text :=
  ("- " : Text) ++ label.toList ++ (": " : Text) ++ todoSlot name

/-- The sections of a rollup behind its time and its counts. -/
def detailedRollup : Text :=
  ofLines <|
    rollupHeading ++
    [("Generated: " : Text) ++ todoSlot "generated", [], "## Summary", [],
     countLine "Total Issues" "count", countLine "Open" "open",
     countLine "In Progress" "in_progress", countLine "Closed" "closed", [],
     todoSlot "sections"]

/-- The templates for issues by name. -/
def issueTable : Entries Text :=
  [("minimal", minimal), ("detailed", detailed), ("github", github), ("linear", linear)]

/-- The templates for the rollup by name. -/
def todoTable : Entries Text :=
  [("minimal", plainRollup), ("detailed", detailedRollup), ("github", detailedRollup),
   ("linear", plainRollup)]

/-- The templates of a kind by name. -/
def table : TemplateKind → Entries Text
  | .issue => issueTable
  | .todo => todoTable

/-- The form of a name under which templates are found. -/
def key (name : Text) : Text :=
  Text.lower (Text.trim name)

/-- The built-in template of a name, in any case. -/
def template (kind : TemplateKind) (name : Option Text) : Except Fault Text :=
  match (table kind).get? (key (name.getD [])) with
  | some found => .ok found
  | none => .error (.unknownPreset name)

/-- The template of a kind that is used without a name. -/
def fallback : TemplateKind → Text
  | .issue => minimal
  | .todo => plainRollup

end Preset

end Issuebook
