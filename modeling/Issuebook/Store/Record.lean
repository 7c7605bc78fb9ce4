import Issuebook.Issue.Intake
import Issuebook.Value.Shown

/-!
# Store records

A line of the store's log is a record of an issue with its dependencies. Some dependencies
say what the issue waits for, others what it is a part of.
-/

namespace Issuebook

/-- A dependency of a record. -/
structure Dependency where
  /-- The issue that depends, as the record repeats it. -/
  issueId : Option Text
  /-- The issue it depends on. -/
  target : Text
  /-- What kind of dependency it is. -/
  kind : Text
  deriving Repr, DecidableEq, Inhabited

/-- A line of the store's log. -/
structure StoreRecord where
  /-- The identifier. -/
  id : Text
  /-- The title. -/
  title : Option Text
  /-- The description. -/
  description : Option Text
  /-- The written status. -/
  status : Option Text
  /-- The priority: a number, a text or nothing. -/
  priority : Value
  /-- The written kind. -/
  kind : Option Text
  /-- Who works on it. -/
  assignee : Option Text
  /-- The labels. -/
  labels : Option (List Text)
  /-- When it was created. -/
  createdAt : Option Text
  /-- When it last changed. -/
  updatedAt : Option Text
  /-- When it was closed. -/
  closedAt : Option Text
  /-- The dependencies in order. -/
  dependencies : List Dependency
  deriving Inhabited

namespace StoreRecord

/-- The kind of dependency that makes an issue wait. -/
def blocksKind : Text := "blocks"

/-- The kind of dependency that makes an issue a part. -/
def parentKind : Text := "parent-child"

/-- A text. -/
def checkText : Value → Checked Text
  | .text value => .ok value
  | _ => .error .notText

/-- A field that has to be there and to be a text. -/
def checkRequired : Option Value → Checked Text
  | none => .error .missing
  | some value => checkText value

/-- A text that may be null or absent. -/
def checkOptional : Option Value → Checked (Option Text)
  | none | some .null => .ok none
  | some value => (checkText value).map some

/-- A text with a standard for its absence. -/
def checkOr (standard : Text) : Option Value → Checked Text
  | none => .ok standard
  | some value => checkText value

/-- A list of labels, each as its text; items that are null fall away. -/
def checkLabels : Option Value → Checked (Option (List Text))
  | none | some .null => .ok none
  | some (.list items) =>
    .ok <| some <| items.filterMap fun item =>
      match item with
      | .null => none
      | item => some item.plainText
  | _ => .error .notList

/-- The place of the priority among others of its kind. -/
def priorityField : Step := .field "priority"

/-- The problems of a priority that is neither a number nor a text. -/
def priorityProblems : List Problem :=
  [⟨[priorityField, .field "int"], .notInt⟩, ⟨[priorityField, .field "float"], .notNumber⟩,
   ⟨[priorityField, .field "str"], .notText⟩]

/-- A priority: a number or a text as it is, a truth value as a number, or nothing. -/
def checkPriority : Option Value → Except (List Problem) Value
  | none | some .null => .ok .null
  | some (.bool value) => .ok (.int value.toNat)
  | some (.int value) => .ok (.int value)
  | some (.float value) => .ok (.float value)
  | some (.text value) => .ok (.text value)
  | _ => .error priorityProblems

/-- The dependency of a record at a position among others. -/
def dependencyAt (position : Nat) : Value → Except (List Problem) Dependency
  | .record fields =>
    let place (name : Text) : List Step :=
      [.field "dependencies", .index position, .field name]
    let issueId := checkOptional (Entries.get? "issue_id" fields)
    let target := checkRequired (Entries.get? "depends_on_id" fields)
    let kind := checkOr blocksKind (Entries.get? "type" fields)
    let problems :=
      Checked.problemAt (place "issue_id") issueId ++
      Checked.problemAt (place "depends_on_id") target ++ Checked.problemAt (place "type") kind
    if problems.isEmpty then .ok ⟨issueId.getD none, target.getD [], kind.getD blocksKind⟩
    else .error problems
  | _ => .error [⟨[.field "dependencies", .index position], .notRecord .dependency⟩]

/-- The dependencies of items from a position on, or all their problems. -/
def dependenciesFrom (position : Nat) : List Value → Except (List Problem) (List Dependency)
  | [] => .ok []
  | item :: items =>
    match dependencyAt position item, dependenciesFrom (position + 1) items with
    | .ok first, .ok rest => .ok (first :: rest)
    | .ok _, .error problems => .error problems
    | .error problems, .ok _ => .error problems
    | .error problems, .error more => .error (problems ++ more)

/-- The dependencies of a field; anything but a list is none. -/
def checkDependencies : Option Value → Except (List Problem) (List Dependency)
  | some (.list items) => dependenciesFrom 0 items
  | _ => .ok []

/-- The problems of a result. -/
def problemsOf {α : Type} : Except (List Problem) α → List Problem
  | .ok _ => []
  | .error problems => problems

/-- The store record of named fields. -/
def ofFields (fields : Entries Value) : Except Fault StoreRecord :=
  let optional (name : Text) : Checked (Option Text) := checkOptional (fields.get? name)
  let id := checkRequired (fields.get? "id")
  let title := optional "title"
  let description := optional "description"
  let status := optional "status"
  let priority := checkPriority (fields.get? "priority")
  let kind := optional "issue_type"
  let assignee := optional "assignee"
  let labels := checkLabels (fields.get? "labels")
  let createdAt := optional "created_at"
  let updatedAt := optional "updated_at"
  let closedAt := optional "closed_at"
  let dependencies := checkDependencies (fields.get? "dependencies")
  let problems :=
    Checked.problem "id" id ++ Checked.problem "title" title ++
    Checked.problem "description" description ++ Checked.problem "status" status ++
    problemsOf priority ++ Checked.problem "issue_type" kind ++
    Checked.problem "assignee" assignee ++ Checked.problem "labels" labels ++
    Checked.problem "created_at" createdAt ++ Checked.problem "updated_at" updatedAt ++
    Checked.problem "closed_at" closedAt ++ problemsOf dependencies
  if problems.isEmpty then
    .ok
      { id := id.getD []
        title := title.getD none
        description := description.getD none
        status := status.getD none
        priority := priority.toOption.getD .null
        kind := kind.getD none
        assignee := assignee.getD none
        labels := labels.getD none
        createdAt := createdAt.getD none
        updatedAt := updatedAt.getD none
        closedAt := closedAt.getD none
        dependencies := dependencies.toOption.getD [] }
  else .error (.invalid .storeRecord problems)

/-- The store record of a value, which has to be a record. -/
def ofValue : Value → Except Fault StoreRecord
  | .record fields => ofFields fields
  | _ => .error (.invalid .storeRecord [⟨[], .notRecord .storeRecord⟩])

/-- Whether a record only marks that its issue is gone. -/
def isTombstone (record : StoreRecord) : Bool :=
  Text.lower (Text.trim (Issue.textOrEmpty record.status)) == ("tombstone" : Text)

/-- The targets of the dependencies of a kind, but the record itself. -/
def targets (record : StoreRecord) (kind : Text) : List Text :=
  (record.dependencies.filter fun dependency =>
    dependency.kind = kind ∧ dependency.target ≠ record.id).map Dependency.target

/-- The identifiers of the issues that a record waits for. -/
def dependsOn (record : StoreRecord) : List Text :=
  record.targets blocksKind

/-- The identifier of the issue that a record is a part of: the first one named. -/
def parent (record : StoreRecord) : Option Text :=
  (record.targets parentKind).head?

/-- The issue of a record. -/
def toIssue (record : StoreRecord) : Except Fault Issue :=
  let dependsOn := record.dependsOn
  Intake.ofRecord
    [("id", .text record.id), ("title", .ofText? record.title),
     ("description", .ofText? record.description), ("status", .ofText? record.status),
     ("type", .ofText? record.kind), ("priority", record.priority),
     ("labels", .ofTexts? record.labels), ("assignee", .ofText? record.assignee),
     ("createdAt", .ofText? record.createdAt), ("updatedAt", .ofText? record.updatedAt),
     ("closedAt", .ofText? record.closedAt),
     ("dependsOn", if dependsOn.isEmpty then .null else .ofTexts dependsOn),
     ("parent", .ofText? record.parent), ("source", .text Side.beads.name)]

end StoreRecord

end Issuebook
