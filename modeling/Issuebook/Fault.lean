import Issuebook.Strategy
import Issuebook.Text.Printable

/-!
# Faults

Everything that can stop an operation, by cause. The wording is in one place, and two
predicates say which faults a batch survives: expected ones, which concern the data, and
those of the file system.
-/

namespace Issuebook

/-- A step on the way to the field a problem is about. -/
inductive Step where
  /-- A field of a record. -/
  | field (name : Text)
  /-- An item of a list. -/
  | index (position : Nat)
  deriving Repr, DecidableEq

/-- The forms that data is checked against. -/
inductive Form where
  /-- An issue. -/
  | issue
  /-- A line of the beads log. -/
  | storeRecord
  /-- A dependency inside a line of the beads log. -/
  | dependency
  /-- The settings of a project. -/
  | settings
  deriving Repr, DecidableEq

/-- The name of a form in messages. -/
def Form.name : Form → Text
  | .issue => "Issue"
  | .storeRecord => "BeadsRecord"
  | .dependency => "BeadsDependency"
  | .settings => "TodoConfig"

/-- What is wrong with a field. -/
inductive Defect where
  /-- A required field is absent. -/
  | missing
  /-- A text was expected. -/
  | notText
  /-- A list was expected. -/
  | notList
  /-- A record was expected. -/
  | notRecord (form : Form)
  /-- The identifier is blank. -/
  | blankId
  /-- No conflict strategy has this name. -/
  | unknownStrategy
  /-- A truth value was expected. -/
  | notBool
  /-- A text names no truth value. -/
  | unreadableBool
  /-- A whole number was expected. -/
  | notInt
  /-- A text writes no whole number. -/
  | unreadableInt
  /-- A floating-point number is too large for a whole one. -/
  | oversizedInt
  /-- A number has a fraction. -/
  | fractional
  /-- A number is not finite. -/
  | notFinite
  /-- A number was expected. -/
  | notNumber
  deriving Repr, DecidableEq

/-- The short name of a defect. -/
def Defect.code : Defect → Text
  | .missing => "missing"
  | .notText => "string_type"
  | .notList => "list_type"
  | .notRecord _ => "model_type"
  | .blankId => "value_error"
  | .unknownStrategy => "literal_error"
  | .notBool => "bool_type"
  | .unreadableBool => "bool_parsing"
  | .notInt => "int_type"
  | .unreadableInt => "int_parsing"
  | .oversizedInt => "int_parsing_size"
  | .fractional => "int_from_float"
  | .notFinite => "finite_number"
  | .notNumber => "float_type"

/-- The sentence that describes a defect. -/
def Defect.message : Defect → Text
  | .missing => "Field required"
  | .notText => "Input should be a valid string"
  | .notList => "Input should be a valid list"
  | .notRecord form => "Input should be a valid dictionary or instance of " ++ form.name
  | .blankId => "Value error, issue id must not be empty"
  | .unknownStrategy => "Input should be 'beads-wins', 'file-wins' or 'newest-wins'"
  | .notBool => "Input should be a valid boolean"
  | .unreadableBool => "Input should be a valid boolean, unable to interpret input"
  | .notInt => "Input should be a valid integer"
  | .unreadableInt => "Input should be a valid integer, unable to parse string as an integer"
  | .oversizedInt =>
    "Unable to parse input string as an integer, exceeded maximum size"
  | .fractional => "Input should be a valid integer, got a number with a fractional part"
  | .notFinite => "Input should be a finite number"
  | .notNumber => "Input should be a valid number"

/-- A defect and the field it is in. -/
structure Problem where
  /-- The way to the field. -/
  place : List Step
  /-- What is wrong. -/
  defect : Defect
  deriving Repr, DecidableEq

/-- The reasons for which the file system refuses an operation. -/
inductive Refusal where
  /-- Nothing has that name. -/
  | absent
  /-- The owner forbids it. -/
  | forbidden
  /-- Something has that name already. -/
  | present
  /-- A directory was expected. -/
  | notDirectory
  /-- A file was expected. -/
  | isDirectory
  /-- A name is too long. -/
  | nameTooLong
  /-- Links lead to each other. -/
  | linkLoop
  /-- Any other reason, by number and text. -/
  | other (number : Nat) (reason : Text)
  deriving Repr, DecidableEq

/-- The number of a refusal. -/
def Refusal.number : Refusal → Nat
  | .absent => 2
  | .forbidden => 13
  | .present => 17
  | .notDirectory => 20
  | .isDirectory => 21
  | .nameTooLong => 36
  | .linkLoop => 40
  | .other number _ => number

/-- The reason a refusal gives. -/
def Refusal.reason : Refusal → Text
  | .absent => "No such file or directory"
  | .forbidden => "Permission denied"
  | .present => "File exists"
  | .notDirectory => "Not a directory"
  | .isDirectory => "Is a directory"
  | .nameTooLong => "File name too long"
  | .linkLoop => "Too many levels of symbolic links"
  | .other _ reason => reason

/-- The names of the built-in templates. -/
def presetNames : List Text :=
  ["minimal", "detailed", "github", "linear"]

/-- What stops an operation. -/
inductive Fault where
  /-- The metadata block of a document never ends. -/
  | unclosedMetadata
  /-- A document names no issue. -/
  | missingId
  /-- The metadata of a document makes no issue. -/
  | invalidDocument (problems : List Problem)
  /-- Data does not have the expected form. -/
  | invalid (form : Form) (problems : List Problem)
  /-- A bracket of a filename pattern never closes. -/
  | unclosedBracket (position : Nat) (pattern : Text)
  /-- A variable of a filename pattern has no name. -/
  | emptyVariable (position : Nat) (pattern : Text)
  /-- A path leads out of the directory it has to stay in. -/
  | escapes (path root : Text)
  /-- No built-in template has this name, or no name is given. -/
  | unknownPreset (name : Option Text)
  /-- The settings file cannot be read. -/
  | unreadableSettings (path reason : Text)
  /-- The settings file holds something other than an object. -/
  | settingsNotObject (path : Text)
  /-- The settings do not have the expected form. -/
  | invalidSettings (path : Text) (problems : List Problem)
  /-- The beads store rejects a call. -/
  | rejected (detail : Text)
  /-- The file system refuses an operation on a path. -/
  | refused (refusal : Refusal) (path : Text)
  /-- The file system refuses the directory to run a program in. -/
  | refusedDirectory (refusal : Refusal) (path : Text)
  /-- A call fails outside the program's control. -/
  | broken (detail : Text)
  /-- Bytes are not UTF-8, or an escape stands for half of a character. -/
  | notUtf8
  /-- A text is not JSON. -/
  | notJson
  /-- A number, or the nesting of a text, is out of the range of an operation. -/
  | outOfRange
  /-- A text of digits is no decimal number. -/
  | notDecimal
  /-- A path holds the character zero. -/
  | zeroInPath
  /-- Links on the way of a path lead to each other. -/
  | endlessLinks (path : Text)
  /-- Nobody knows the home directory that a path begins with. -/
  | unknownHome
  /-- A command names no program. -/
  | nothingToRun
  /-- The name of a variable holds an equals sign. -/
  | badVariable
  /-- A time is not a number. -/
  | notANumber
  /-- A text closes a style that is not open. -/
  | unsoundMarkup
  deriving Repr, DecidableEq

namespace Fault

/-- The line that counts the problems of a form. -/
def summary (form : Form) (problems : List Problem) : Text :=
  Text.ofNat problems.length ++
    (if problems.length = 1 then " validation error for " else " validation errors for " : Text) ++
    form.name

/-- The refusal of a path as one line. -/
def refusalText (refusal : Refusal) (path : Text) : Text :=
  "[Errno " ++ Text.ofNat refusal.number ++ "] " ++ refusal.reason ++ ": " ++ Text.quoted path

/-- The refusal of a directory as one line. -/
def directoryText (refusal : Refusal) (path : Text) : Text :=
  "[Errno " ++ Text.ofNat refusal.number ++ "] " ++ refusal.reason ++ ": PosixPath(" ++
    Text.quoted path ++ ")"

/-- What happened, without the cause behind it. -/
def headline : Fault → Text
  | .unclosedMetadata => "unclosed frontmatter block; missing closing '---'"
  | .missingId => "issue document is missing a non-empty 'id'"
  | .invalidDocument _ => "invalid issue document"
  | .invalid form problems => summary form problems
  | .unclosedBracket position pattern =>
    "unclosed '[' at position " ++ Text.ofNat position ++ " in pattern " ++ Text.quoted pattern
  | .emptyVariable position pattern =>
    "empty variable at position " ++ Text.ofNat position ++ " in pattern " ++ Text.quoted pattern
  | .escapes path root =>
    "path traversal detected: " ++ Text.quoted path ++ " resolves outside " ++ Text.quoted root
  | .unknownPreset name =>
    "unknown preset " ++ (name.map Text.quoted).getD "None" ++ "; available presets: " ++
      Text.join ", " presetNames
  | .unreadableSettings path _ => "cannot read " ++ path
  | .settingsNotObject path => path ++ " must contain a JSON object"
  | .invalidSettings path _ => "invalid configuration in " ++ path
  | .rejected detail => detail
  | .refused refusal path => refusalText refusal path
  | .refusedDirectory refusal path => directoryText refusal path
  | .broken detail => detail
  | .notUtf8 => "'utf-8' codec can't decode the bytes"
  | .notJson => "not a JSON text"
  | .outOfRange => "number out of range"
  | .notDecimal => "not a decimal number"
  | .zeroInPath => "embedded null byte"
  | .endlessLinks path => "Symlink loop from " ++ Text.quoted path
  | .unknownHome => "Could not determine home directory."
  | .nothingToRun => "no program to run"
  | .badVariable => "illegal environment variable name"
  | .notANumber => "not a number"
  | .unsoundMarkup => "closing tag has nothing to close"

/-- The cause behind a fault, when another one caused it. -/
def cause? : Fault → Option Text
  | .invalidDocument problems => some (summary .issue problems)
  | .unreadableSettings _ reason => some reason
  | .invalidSettings _ problems => some (summary .settings problems)
  | _ => none

/-- What happened, with its cause. -/
def message (fault : Fault) : Text :=
  match fault.cause? with
  | some cause => fault.headline ++ ": " ++ cause
  | none => fault.headline

/-- What to do about a fault. -/
def hint? : Fault → Option Text
  | .unclosedMetadata => some "add a '---' line after the metadata"
  | .missingId => some "add an 'id:' line to the frontmatter"
  | .escapes _ _ => some "check the file pattern and closed_subdir settings"
  | .invalidSettings _ _ =>
    some ("conflict_strategy must be one of " ++ Text.join ", " Strategy.names)
  | _ => none

/-- Whether a fault is about the data and expected: a batch records it and goes on. -/
def isExpected : Fault → Bool
  | .unclosedMetadata | .missingId | .invalidDocument _ | .unclosedBracket _ _
  | .emptyVariable _ _ | .escapes _ _ | .unknownPreset _ | .unreadableSettings _ _
  | .settingsNotObject _ | .invalidSettings _ _ | .rejected _ => true
  | _ => false

/-- Whether a fault comes from the file system or another outside call. -/
def isOutside : Fault → Bool
  | .refused _ _ | .refusedDirectory _ _ | .broken _ => true
  | _ => false

/-- Whether a batch goes on after a fault. -/
def isSurvivable (fault : Fault) : Bool :=
  fault.isExpected || fault.isOutside

end Fault

end Issuebook

/-!
## Checked fields

Each field of a record is checked by itself, so that all problems of a record are reported
together, in the order of its fields.
-/

namespace Issuebook

/-- The value of a field, or what is wrong with it. -/
abbrev Checked (α : Type) := Except Defect α

namespace Checked

variable {α : Type}

/-- The problem of a field at a place, if it has one. -/
def problemAt (place : List Step) : Checked α → List Problem
  | .ok _ => []
  | .error defect => [⟨place, defect⟩]

/-- The problem of a named field, if it has one. -/
def problem (name : Text) (field : Checked α) : List Problem :=
  problemAt [.field name] field

/-- The value of a field, or a stand-in for it. -/
def getD (field : Checked α) (standIn : α) : α :=
  match field with
  | .ok value => value
  | .error _ => standIn

end Checked

end Issuebook
