import Issuebook.Fault
import Issuebook.Number.Reading
import Issuebook.Number.Shortest
import Issuebook.Text.Case
import Issuebook.Value.Basic

/-!
# Taking in issues

An issue is made of a record of loose data. Four fields have a second name; the one in
mixed case wins where both are present. Every field with a problem is reported under the
name that its value has in the record, in the order of the fields.
-/

/-!
## Reading field values

What loose data means as a field of an issue: names of statuses and kinds in any case,
priorities as any number, lists as text between commas.
-/

namespace Issuebook

namespace Value

/-- The text of a text or a number; nothing else has one. -/
def scalarText? : Value → Option Text
  | .int value => some (Text.ofInt value)
  | .float value => some value.toText
  | .text value => some value
  | _ => none

/-- The trimmed text of a text or a number, when something remains of it. -/
def cleanText? (value : Value) : Option Text :=
  match value.scalarText? with
  | some written =>
    let cleaned := Text.trim written
    if cleaned.isEmpty then none else some cleaned
  | none => none

/-- A value as a list of non-blank texts: a text is cut at its commas, and items without a
text fall away. -/
def idList? : Value → Option (List Text)
  | .text written =>
    some ((Text.splitOn ',' written).filterMap fun piece => cleanText? (.text piece))
  | .list items => some (items.filterMap cleanText?)
  | _ => none

end Value

/-- The other names of statuses. -/
def Status.otherNames : Entries Status :=
  [("done", .closed), ("completed", .closed), ("complete", .closed), ("resolved", .closed),
   ("in-progress", .inProgress), ("inprogress", .inProgress), ("in progress", .inProgress),
   ("working", .inProgress), ("doing", .inProgress), ("todo", .opened), ("backlog", .opened)]

/-- The status of a name in small letters. -/
def Status.ofName? (name : Text) : Option Status :=
  match Status.all.find? fun status => status.name = name with
  | some status => some status
  | none => Status.otherNames.get? name

/-- The status that a value names, open by default. -/
def Status.ofValue (value : Value) : Status :=
  (value.cleanText?.bind fun name => ofName? (Text.lower name)).getD .opened

/-- The kind that a value names, a task by default. -/
def Kind.ofValue (value : Value) : Kind :=
  (value.cleanText?.bind fun name =>
    Kind.all.find? fun kind => kind.name = Text.lower name).getD .task

/-- The side that a value names. -/
def Side.ofValue? (value : Value) : Option Side :=
  value.cleanText?.bind fun name => Side.all.find? fun side => side.name = Text.lower name

namespace Priority

/-- A whole number brought between zero and four. -/
def clamp (number : Int) : Priority :=
  if number < 1 then first
  else if number < 2 then ⟨1, by decide⟩
  else if number < 3 then ⟨2, by decide⟩
  else if number < 4 then ⟨3, by decide⟩
  else last

/-- The priority of a floating-point number: the whole number at or below it. -/
def ofBinary : Binary64 → Priority
  | .nan => standard
  | .infinite negative => if negative then first else last
  | number => (number.floor?.map clamp).getD standard

/-- The priority that a value names. A whole number beyond all floating-point numbers names
none. -/
def ofValue? : Value → Option Priority
  | .int value => (Binary64.ofInt? value).map ofBinary
  | .float value => some (ofBinary value)
  | .text value => some (((Binary64.ofText? value).map ofBinary).getD standard)
  | _ => some standard

end Priority

end Issuebook

/-! ## Fields -/

namespace Issuebook

namespace Intake

/-- The value of a field under its first name that is present. -/
def field? (record : Entries Value) (names : List Text) : Option Value :=
  names.findSome? fun name => record.get? name

/-- The first of a field's names that is present, or else its usual name. -/
def nameIn (record : Entries Value) (usual other : Text) : Text :=
  if record.has usual || !record.has other then usual else other

/-- The identifier, which has to be there and not blank. -/
def checkId : Option Value → Checked Text
  | none => .error .missing
  | some value =>
    match value.cleanText? with
    | some id => .ok id
    | none => .error .blankId

/-- The title as written; without one the issue is untitled. -/
def checkTitle : Option Value → Checked Text
  | none => .ok "Untitled"
  | some .null => .ok "Untitled"
  | some value =>
    match value.scalarText? with
    | some title => .ok title
    | none => .error .notText

/-- An optional text as written; blank means absent. -/
def checkText : Option Value → Checked (Option Text)
  | none => .ok none
  | some .null => .ok none
  | some value =>
    match value.scalarText? with
    | some written => .ok (if Text.isAllBlank written then none else some written)
    | none => .error .notText

/-- The priority of a record that may name none. -/
def priority? (record : Entries Value) : Option Priority :=
  match record.get? "priority" with
  | none => some Priority.standard
  | some value => Priority.ofValue? value

/-- The issue of a record. -/
def ofRecord (record : Entries Value) : Except Fault Issue :=
  let field (names : List Text) : Option Value := field? record names
  let ids (names : List Text) : Option (List Text) := (field names).bind Value.idList?
  let id := checkId (field ["id"])
  let title := checkTitle (field ["title"])
  let description := checkText (field ["description"])
  let assignee := checkText (field ["assignee"])
  let createdName := nameIn record "createdAt" "created_at"
  let updatedName := nameIn record "updatedAt" "updated_at"
  let closedName := nameIn record "closedAt" "closed_at"
  let createdAt := checkText (record.get? createdName)
  let updatedAt := checkText (record.get? updatedName)
  let closedAt := checkText (record.get? closedName)
  let parent := checkText (field ["parent"])
  match priority? record with
  | none => .error .outOfRange
  | some priority =>
    let problems :=
      Checked.problem "id" id ++ Checked.problem "title" title ++
      Checked.problem "description" description ++ Checked.problem "assignee" assignee ++
      Checked.problem createdName createdAt ++ Checked.problem updatedName updatedAt ++
      Checked.problem closedName closedAt ++ Checked.problem "parent" parent
    if problems.isEmpty then
      .ok
        { id := id.getD []
          title := title.getD []
          description := description.getD none
          status := ((field ["status"]).map Status.ofValue).getD .opened
          kind := ((field ["type"]).map Kind.ofValue).getD .task
          priority := priority
          labels := ids ["labels"]
          assignee := assignee.getD none
          createdAt := createdAt.getD none
          updatedAt := updatedAt.getD none
          closedAt := closedAt.getD none
          dependsOn := ids ["dependsOn", "depends_on"]
          blocks := ids ["blocks"]
          children := ids ["children"]
          parent := parent.getD none
          source := (field ["source"]).bind Side.ofValue? }
    else .error (.invalid .issue problems)

end Intake

namespace Issue

/-- The issue of a value, which has to be a record. -/
def ofValue : Value → Except Fault Issue
  | .record fields => Intake.ofRecord fields
  | .issue issue => .ok issue
  | _ => .error (.invalid .issue [⟨[], .notRecord .issue⟩])

/-- The fields of an issue under the names that are written. -/
def toRecord (issue : Issue) : Entries Value :=
  [("id", .text issue.id), ("title", .text issue.title),
   ("description", .ofText? issue.description), ("status", .text issue.status.name),
   ("type", .text issue.kind.name), ("priority", .int issue.priority.val),
   ("labels", .ofTexts? issue.labels), ("assignee", .ofText? issue.assignee),
   ("createdAt", .ofText? issue.createdAt), ("updatedAt", .ofText? issue.updatedAt),
   ("closedAt", .ofText? issue.closedAt), ("dependsOn", .ofTexts? issue.dependsOn),
   ("blocks", .ofTexts? issue.blocks), ("children", .ofTexts? issue.children),
   ("parent", .ofText? issue.parent), ("source", .ofText? (issue.source.map Side.name))]

/-- The values that tell two copies of an issue apart. -/
def contentKey (issue : Issue) : List Value :=
  [.text issue.id, .text issue.title, .text issue.status.name, .text issue.kind.name,
   .int issue.priority.val, .text (Text.trim (textOrEmpty issue.description)),
   .ofText? issue.assignee, .ofTexts (itemsOrNone issue.labels),
   .ofTexts (itemsOrNone issue.dependsOn), .ofTexts (itemsOrNone issue.blocks),
   .ofText? issue.parent]

end Issue

end Issuebook
