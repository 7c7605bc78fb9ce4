import Issuebook.Value.Basic
import Issuebook.Text.Printable
import Issuebook.Number.Shortest

/-!
# Shown values

How a value reads inside a rendered slot. At the top a text stands for itself and a list
is its items between commas; inside records and inner lists texts are quoted.
-/

namespace Issuebook

/-- The fields of an issue under their plain names. -/
def Issue.namedFields (issue : Issue) : Entries Value :=
  [("id", .text issue.id), ("title", .text issue.title),
   ("description", .ofText? issue.description), ("status", .text issue.status.name),
   ("type", .text issue.kind.name), ("priority", .int issue.priority.val),
   ("labels", .ofTexts? issue.labels), ("assignee", .ofText? issue.assignee),
   ("created_at", .ofText? issue.createdAt), ("updated_at", .ofText? issue.updatedAt),
   ("closed_at", .ofText? issue.closedAt), ("depends_on", .ofTexts? issue.dependsOn),
   ("blocks", .ofTexts? issue.blocks), ("children", .ofTexts? issue.children),
   ("parent", .ofText? issue.parent), ("source", .ofText? (issue.source.map Side.name))]

namespace Value

/-- The text of a truth value. -/
def shownBool (value : Bool) : Text :=
  if value then "True" else "False"

/-- The text of an optional text field of an issue. -/
def shownText? : Option Text → Text
  | some written => Text.quoted written
  | none => "None"

/-- The text of an optional list of texts. -/
def shownTexts? : Option (List Text) → Text
  | some written => '[' :: Text.join ", " (written.map Text.quoted) ++ [']']
  | none => "None"

/-- The fields of an issue as assignments, with `separator` between them. -/
def shownIssueFields (separator : Text) (issue : Issue) : Text :=
  Text.join separator
    [("id=" : Text) ++ Text.quoted issue.id, ("title=" : Text) ++ Text.quoted issue.title,
     ("description=" : Text) ++ shownText? issue.description,
     ("status=" : Text) ++ Text.quoted issue.status.name,
     ("type=" : Text) ++ Text.quoted issue.kind.name,
     ("priority=" : Text) ++ Text.ofNat issue.priority.val,
     ("labels=" : Text) ++ shownTexts? issue.labels,
     ("assignee=" : Text) ++ shownText? issue.assignee,
     ("created_at=" : Text) ++ shownText? issue.createdAt,
     ("updated_at=" : Text) ++ shownText? issue.updatedAt,
     ("closed_at=" : Text) ++ shownText? issue.closedAt,
     ("depends_on=" : Text) ++ shownTexts? issue.dependsOn,
     ("blocks=" : Text) ++ shownTexts? issue.blocks,
     ("children=" : Text) ++ shownTexts? issue.children,
     ("parent=" : Text) ++ shownText? issue.parent,
     ("source=" : Text) ++ shownText? (issue.source.map Side.name)]

mutual

/-- The text of a value inside a record or a list. -/
def shown : Value → Text
  | .null => "None"
  | .bool value => shownBool value
  | .int value => Text.ofInt value
  | .float value => value.toText
  | .text value => Text.quoted value
  | .list items => '[' :: shownItems items ++ [']']
  | .record fields => '{' :: shownFields fields ++ ['}']
  | .issue value => ("Issue(" : Text) ++ shownIssueFields ", " value ++ (")" : Text)

/-- The texts of items between commas. -/
def shownItems : List Value → Text
  | [] => []
  | [item] => shown item
  | item :: next :: rest => shown item ++ ", " ++ shownItems (next :: rest)

/-- The texts of fields between commas. -/
def shownFields : Entries Value → Text
  | [] => []
  | [(key, value)] => Text.quoted key ++ ": " ++ shown value
  | (key, value) :: next :: rest =>
    Text.quoted key ++ ": " ++ shown value ++ ", " ++ shownFields (next :: rest)

end

/-- The text of a single value that is no list. -/
def plainText : Value → Text
  | .text value => value
  | .issue value => shownIssueFields " " value
  | value => shown value

mutual

/-- The text of a value in a slot: nothing is empty, and lists join with commas. -/
def slotText : Value → Text
  | .null => []
  | .list items => slotItems items
  | value => plainText value

/-- The slot texts of items between commas. -/
def slotItems : List Value → Text
  | [] => []
  | [item] => slotText item
  | item :: next :: rest => slotText item ++ ", " ++ slotItems (next :: rest)

end

end Value

end Issuebook
