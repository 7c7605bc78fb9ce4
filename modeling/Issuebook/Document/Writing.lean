import Issuebook.Document.Metadata
import Issuebook.Issue.Basic
import Issuebook.Json.Writer
import Issuebook.Text.Basic

/-!
# Writing documents

The Markdown document of an issue: a metadata block with texts as JSON literals, the title
as a heading, the description, and the section of related issues.
-/

/-!
## Descriptions

The description of an issue without the parts that a document adds around it: the heading
with the title, and the section of related issues.
-/

namespace Issuebook

/-- The heading of the section of related issues. -/
def relatedHeading : Text := "### Related Issues"

namespace Issue

/-- Whether a line is the heading of a section of related issues, at level two or three. -/
def isRelatedHeading (line : Text) : Bool :=
  let named (rest : Text) : Bool :=
    (rest.head?.any Text.isBlank) && Text.trimStart rest == ("Related Issues" : Text)
  match Text.trim line with
  | '#' :: '#' :: '#' :: rest => named rest
  | '#' :: '#' :: rest => named rest
  | _ => false

/-- The heading that shows a title. -/
def titleHeading (title : Text) : Text :=
  '#' :: ' ' :: title

/-- The lines without a first line that shows the title. -/
def dropTitle (title : Text) : List Text → List Text
  | [] => []
  | line :: rest =>
    if Text.trim line = Text.trim (titleHeading title) then rest else line :: rest

/-- The lines before the section of related issues. -/
def beforeRelated (lines : List Text) : List Text :=
  lines.takeWhile fun line => !isRelatedHeading line

/-- The description without the title heading and the section of related issues. -/
def bodyText (issue : Issue) : Text :=
  let written := Text.trim (textOrEmpty issue.description)
  Text.trim (Text.unlines (beforeRelated (dropTitle issue.title (Text.lines written))))

end Issue

end Issuebook

/-! ## Lines -/

namespace Issuebook.Issue

/-- A metadata line. -/
def metadataLine (key value : Text) : Text :=
  key ++ (": " : Text) ++ value

/-- The metadata line of an optional text, none when absent. -/
def textLine (key : Text) : Option Text → List Text
  | none => []
  | some written => [metadataLine key (Json.string written)]

/-- The metadata line of a list, empty when absent. -/
def listLine (key : Text) (items : Option (List Text)) : Text :=
  metadataLine key (Json.stringList (itemsOrNone items))

/-- The lines of the metadata block between its fences. -/
def metadataLines (issue : Issue) : List Text :=
  [metadataLine "id" (Json.string issue.id), metadataLine "title" (Json.string issue.title),
   metadataLine "status" issue.status.name, metadataLine "type" issue.kind.name,
   metadataLine "priority" (Text.ofNat issue.priority.val), listLine "labels" issue.labels] ++
  textLine "assignee" issue.assignee ++ textLine "createdAt" issue.createdAt ++
  textLine "updatedAt" issue.updatedAt ++ textLine "closedAt" issue.closedAt ++
  textLine "parent" issue.parent ++ textLine "source" (issue.source.map Side.name) ++
  [listLine "dependsOn" issue.dependsOn, listLine "blocks" issue.blocks,
   listLine "children" issue.children]

/-- The line that links to a related issue. -/
def relatedLine (id : Text) : Text :=
  ("- [" : Text) ++ id ++ ("](./" : Text) ++ id ++ (".md)" : Text)

/-- The lines of a group of related issues, none for an empty group. -/
def relatedGroup (label : Text) (ids : List Text) : List Text :=
  if ids.isEmpty then []
  else (("**" : Text) ++ label ++ (":**" : Text)) :: (ids.map relatedLine ++ [[]])

/-- The section of related issues, empty when there are none. -/
def relatedLines (issue : Issue) : List Text :=
  let groups := relatedGroup "Depends on" (itemsOrNone issue.dependsOn) ++
    relatedGroup "Blocks" (itemsOrNone issue.blocks) ++
    relatedGroup "Children" (itemsOrNone issue.children)
  if groups.isEmpty then [] else relatedHeading :: [] :: groups

/-- The lines of the description with an empty line behind them, none without description. -/
def bodyLines (issue : Issue) : List Text :=
  let body := issue.bodyText
  if body.isEmpty then [] else [body, []]

/-- The lines without the empty ones at the end. -/
def dropLastEmpty (lines : List Text) : List Text :=
  (lines.reverse.dropWhile fun line => line.isEmpty).reverse

/-- The Markdown document of an issue. -/
def toDocument (issue : Issue) : Text :=
  let lines := [fence] ++ issue.metadataLines ++
    [fence, [], titleHeading issue.title, []] ++ issue.bodyLines ++ issue.relatedLines
  Text.unlines (dropLastEmpty lines) ++ ['\n']

end Issuebook.Issue
