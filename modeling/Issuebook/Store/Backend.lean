import Issuebook.Fault
import Issuebook.Issue.Basic
import Issuebook.Journal
import Issuebook.Store.Command
import Issuebook.Value.Shown

/-!
# Backends

What a reconciliation asks of the store. A backend answers a call with success or a
rejection, or it fails; it may change with each call. The usual backend runs a program.
-/

namespace Issuebook

/-- New values of the fields of an issue. -/
abbrev Patch := Entries Value

/-- A call to the store. -/
inductive Call where
  /-- Create an issue. -/
  | create (issue : Issue)
  /-- Change fields of an issue. -/
  | update (id : Text) (patch : Patch)
  /-- Close an issue. -/
  | close (id : Text)
  /-- Delete an issue. -/
  | delete (id : Text)

/-- The answer to a call. -/
structure Answer where
  /-- Whether the call was carried out. -/
  accepted : Bool
  /-- What the store said. -/
  detail : Text
  deriving Repr, DecidableEq, Inhabited

/-- A store that changes its state with each call. -/
structure Backend (State : Type) where
  /-- Answers a call. -/
  answer : State → Call → Noted (Except Fault Answer) × State

/-- Something that runs commands: the result of a command, none when the program is not
there, and the state it leaves behind. -/
abbrev Runner (State : Type) := State → Request → Option Completion × State

/-- The program that drives a store. -/
structure Program where
  /-- The directory of the store. -/
  store : Path
  /-- The directory to run in. -/
  cwd : Path
  /-- The name of the program. -/
  executable : Text
  /-- The seconds one command may take. -/
  timeout : Option Binary64
  deriving Repr, DecidableEq

namespace Program

/-- The name of the usual program. -/
def usualName : Text := "bd"

/-- The seconds a command may usually take. -/
def usualTimeout : Binary64 := Binary64.ofRatio false 60 1

/-- The usual program for a store, run in a directory. -/
def usual (store cwd : Path) : Program :=
  ⟨store, cwd, usualName, some usualTimeout⟩

/-- The request for a command of the program. -/
def request (program : Program) (arguments : List Text) : Request :=
  ⟨program.executable :: arguments, program.cwd, program.store, program.timeout⟩

/-- The answer that the end of a command means. -/
def answerOf (request : Request) : Option Completion → Answer
  | none => ⟨false, missingText request.argv⟩
  | some completion =>
    if completion.isOk then ⟨true, Text.trim completion.output⟩
    else ⟨false, completion.failureText⟩

/-- Runs a command of the program. -/
def run {State : Type} (program : Program) (runner : Runner State) (state : State)
    (arguments : List Text) : Answer × State :=
  let request := program.request arguments
  let (completion, next) := runner state request
  (answerOf request completion, next)

/-- Non-empty texts between commas. -/
def commaList (texts : List Text) : Text :=
  Text.join [','] (texts.filter (· ≠ []))

/-- An option with the text of an optional field, if it has one. -/
def textOption (option : Text) (field : Option Text) : List Text :=
  match field with
  | none | some [] => []
  | some written => [option, written]

/-- An option with the items of a list, if there are any. -/
def listOption (option : Text) (field : Option (List Text)) : List Text :=
  match field with
  | none | some [] => []
  | some items => [option, commaList items]

/-- The arguments that create an issue. -/
def createArguments (issue : Issue) : List Text :=
  [("create" : Text), issue.title, "--id", issue.id, "--type", issue.kind.name, "--priority",
   Text.ofNat issue.priority.val, "--description", Issue.textOrEmpty issue.description] ++
  textOption "--assignee" issue.assignee ++ listOption "--labels" issue.labels ++
  listOption "--deps" issue.dependsOn ++ textOption "--parent" issue.parent ++ [("--json" : Text)]

/-- The options that change single fields. -/
def fieldOptions : Entries Text :=
  [("title", "--title"), ("status", "--status"), ("type", "--type"),
   ("priority", "--priority"), ("description", "--description"), ("assignee", "--assignee")]

/-- The field of labels, which are set all together. -/
def labelsField : Text := "labels"

/-- The text of a value as an argument. -/
def argumentText : Value → Text
  | .null => []
  | value => value.plainText

/-- The labels that a value holds. -/
def labelsOf : Value → List Text
  | .list items => items.map Value.plainText
  | _ => []

/-- The arguments that change a field, if the program can change it. -/
def fieldArguments? (field : Text) (value : Value) : Option (List Text) :=
  if field = labelsField then some ["--set-labels", commaList (labelsOf value)]
  else (fieldOptions.get? field).map fun option => [option, argumentText value]

/-- The arguments of a patch. -/
def patchArguments (patch : Patch) : List Text :=
  patch.flatMap fun (field, value) => (fieldArguments? field value).getD []

/-- The notices about fields that the program cannot change. -/
def patchNotices (patch : Patch) : List Notice :=
  patch.filterMap fun (field, value) =>
    match fieldArguments? field value with
    | some _ => none
    | none =>
      some ⟨.debug, ("bd update: ignoring unsupported field " : Text) ++ Text.quoted field⟩

variable {State : Type}

/-- Changes fields of an issue; without a field that the program can change it is not run. -/
def update (program : Program) (runner : Runner State) (state : State) (id : Text)
    (patch : Patch) : Answer × State :=
  let arguments := patchArguments patch
  if arguments.isEmpty then (⟨true, "nothing to update"⟩, state)
  else program.run runner state ("update".toList :: id :: arguments)

/-- Closes an issue. -/
def close (program : Program) (runner : Runner State) (state : State) (id : Text) :
    Answer × State :=
  program.run runner state ["close", id]

/-- Creates an issue. The program makes it open; another status takes a second command. -/
def create (program : Program) (runner : Runner State) (state : State) (issue : Issue) :
    Answer × State :=
  let (created, next) := program.run runner state (createArguments issue)
  if created.accepted then
    match issue.status with
    | .opened => (created, next)
    | .closed => program.close runner next issue.id
    | status => program.update runner next issue.id [("status", .text status.name)]
  else (created, next)

/-- Deletes an issue. -/
def delete (program : Program) (runner : Runner State) (state : State) (id : Text) :
    Answer × State :=
  program.run runner state ["delete", id, "--force"]

/-- The backend that runs the program. -/
def backend (program : Program) (runner : Runner State) : Backend State where
  answer state call :=
    match call with
    | .create issue =>
      let (answer, next) := program.create runner state issue
      (⟨[], .ok answer⟩, next)
    | .update id patch =>
      let (answer, next) := program.update runner state id patch
      (⟨patchNotices patch, .ok answer⟩, next)
    | .close id =>
      let (answer, next) := program.close runner state id
      (⟨[], .ok answer⟩, next)
    | .delete id =>
      let (answer, next) := program.delete runner state id
      (⟨[], .ok answer⟩, next)

end Program

/-- A runner that finds no program. -/
def nothingInstalled : Runner Unit :=
  fun state _ => (none, state)

end Issuebook
