import Issuebook.Fault
import Issuebook.Number.Reading
import Issuebook.Settings.Basic
import Issuebook.Disk.Files
import Issuebook.Json.Reader
import Issuebook.Json.Writer

/-!
# Reading settings

Settings are made of a record of loose data. Truth values may be written as words or as
zero and one, whole numbers as texts or as numbers without a fraction; texts are texts.
-/

namespace Issuebook.Settings

/-- The words for true. -/
def trueWords : List Text :=
  ["1", "t", "true", "y", "yes", "on"]

/-- The words for false. -/
def falseWords : List Text :=
  ["0", "f", "false", "n", "no", "off"]

/-- The truth value of a whole number. -/
def checkBit (number : Int) : Checked Bool :=
  if number = 0 then .ok false else if number = 1 then .ok true else .error .unreadableBool

/-- A truth value. Whole numbers that need more than 64 bits are none at all. -/
def checkBool : Value → Checked Bool
  | .bool value => .ok value
  | .int value => if Number.fitsWord value then checkBit value else .error .notBool
  | .float value =>
    match value.toInt? with
    | some whole => if Number.isWithinFloats whole then checkBit whole else .error .notBool
    | none => .error .notBool
  | .text value =>
    let word := value.map Char.toLower
    if trueWords.contains word then .ok true
    else if falseWords.contains word then .ok false
    else .error .unreadableBool
  | _ => .error .notBool

/-- The whole number that a floating-point number stands for. -/
def checkFloatInt (number : Binary64) : Checked Int :=
  match number with
  | .nan | .infinite _ => .error .notFinite
  | finite =>
    match finite.toInt? with
    | some whole => if Number.isWithinFloats whole then .ok whole else .error .oversizedInt
    | none => .error .fractional

/-- A whole number. -/
def checkInt : Value → Checked Int
  | .bool value => .ok value.toNat
  | .int value => .ok value
  | .float value => checkFloatInt value
  | .text value =>
    match Number.ofWritten? value with
    | some number => .ok number
    | none => .error .unreadableInt
  | _ => .error .notInt

/-- A text. -/
def checkText : Value → Checked Text
  | .text value => .ok value
  | _ => .error .notText

/-- A text that may be absent; blank means absent. -/
def checkOptional : Value → Checked (Option Text)
  | .null => .ok none
  | .text value => .ok (if Text.isAllBlank value then none else some value)
  | _ => .error .notText

/-- A conflict strategy, in any case and with underscores for dashes. -/
def checkStrategy : Value → Checked Strategy
  | .text value =>
    let name := (Text.lower (Text.trim value)).map fun char => if char = '_' then '-' else char
    match Strategy.ofName? name with
    | some strategy => .ok strategy
    | none => .error .unknownStrategy
  | _ => .error .unknownStrategy

/-- A field of a record, or its standard value when it is absent. -/
def field {α : Type} (record : Entries Value) (name : Text) (check : Value → Checked α)
    (standard : α) : Checked α :=
  match record.get? name with
  | some value => check value
  | none => .ok standard

/-- The settings of a record. -/
def ofRecord (record : Entries Value) : Except Fault Settings :=
  let beads := field record "beads" checkBool standard.beads
  let beadsDir := field record "beads_dir" checkOptional standard.beadsDir
  let todoDir := field record "todo_dir" checkText standard.todoDir
  let templateDir := field record "template_dir" checkText standard.templateDir
  let filePattern := field record "file_pattern" checkOptional standard.filePattern
  let preset := field record "preset" checkOptional standard.preset
  let strategy := field record "conflict_strategy" checkStrategy standard.strategy
  let separateClosed := field record "separate_closed" checkBool standard.separateClosed
  let closedSubdir := field record "closed_subdir" checkText standard.closedSubdir
  let window := field record "conflict_window_seconds" checkInt standard.conflictWindow
  let problems :=
    Checked.problem "beads" beads ++ Checked.problem "beads_dir" beadsDir ++
    Checked.problem "todo_dir" todoDir ++ Checked.problem "template_dir" templateDir ++
    Checked.problem "file_pattern" filePattern ++ Checked.problem "preset" preset ++
    Checked.problem "conflict_strategy" strategy ++
    Checked.problem "separate_closed" separateClosed ++
    Checked.problem "closed_subdir" closedSubdir ++
    Checked.problem "conflict_window_seconds" window
  if problems.isEmpty then
    .ok
      { beads := beads.getD standard.beads
        beadsDir := beadsDir.getD standard.beadsDir
        todoDir := todoDir.getD standard.todoDir
        templateDir := templateDir.getD standard.templateDir
        filePattern := filePattern.getD standard.filePattern
        preset := preset.getD standard.preset
        strategy := strategy.getD standard.strategy
        separateClosed := separateClosed.getD standard.separateClosed
        closedSubdir := closedSubdir.getD standard.closedSubdir
        conflictWindow := window.getD standard.conflictWindow }
  else .error (.invalid .settings problems)

/-- The settings of a value, which has to be a record. -/
def ofValue : Value → Except Fault Settings
  | .record record => ofRecord record
  | _ => .error (.invalid .settings [⟨[], .notRecord .settings⟩])

end Issuebook.Settings

/-!
## The settings file

Settings are kept as a JSON object. The environment overrides single settings by texts.
-/

namespace Issuebook.Settings

/-- The variables of the environment, by name. -/
abbrev Environment := Entries Text

/-- What the names of all variables for the program begin with. -/
def variableHead : Text := "TODOMD_"

/-- The endings of the variables that override settings, with the settings' names. -/
def overridable : Entries Text :=
  [("BEADS", "beads"), ("BEADS_DIR", "beads_dir"), ("TODO_DIR", "todo_dir"),
   ("TEMPLATE_DIR", "template_dir"), ("FILE_PATTERN", "file_pattern"), ("PRESET", "preset"),
   ("CONFLICT_STRATEGY", "conflict_strategy"), ("SEPARATE_CLOSED", "separate_closed"),
   ("CLOSED_SUBDIR", "closed_subdir"), ("CONFLICT_WINDOW_SECONDS", "conflict_window_seconds")]

/-- The names of the variables that override settings. -/
def variableNames : List Text :=
  overridable.map fun (ending, _) => variableHead ++ ending

/-- The settings that the environment overrides. -/
def overrides (environment : Environment) : Entries Value :=
  overridable.filterMap fun (ending, name) =>
    (environment.get? (variableHead ++ ending)).map fun written => (name, .text written)

/-- The record in the settings file, empty when there is no file. -/
def readRecord (disk : Disk) (path : Path) : Except Fault (Entries Value) := do
  if ← disk.exists? path then
    match disk.readText path with
    | .ok written =>
      match Json.load written with
      | .ok (.record record) => pure record
      | .ok _ => .error (.settingsNotObject path.toText)
      | .error .outOfRange => .error .outOfRange
      | .error _ => .error (.unreadableSettings path.toText (Fault.headline .notJson))
    | .error fault =>
      if fault.isOutside then .error (.unreadableSettings path.toText fault.message)
      else .error fault
  else pure []

/-- The settings of a project: its file, overridden by the environment. -/
def load (disk : Disk) (root : Path) (environment : Environment) : Except Fault Settings := do
  let path := Places.settingsFile root
  let record ← readRecord disk path
  match ofRecord (record.putAll (overrides environment)) with
  | .error (.invalid _ problems) => .error (.invalidSettings path.toText problems)
  | result => result

/-- The JSON text of a setting, none for an absent one. -/
def fieldText? : Value → Option Text
  | .null => none
  | .bool value => some (if value then "true" else "false")
  | .int value => some (Text.ofInt value)
  | .text value => some (Json.asciiString value)
  | _ => none

/-- The lines of the settings that are present. -/
def fieldLines (settings : Settings) : List Text :=
  settings.toRecord.filterMap fun (name, value) =>
    (fieldText? value).map fun written =>
      ' ' :: ' ' :: (Json.asciiString name ++ (": " : Text) ++ written)

/-- The text of a settings file. -/
def toJson (settings : Settings) : Text :=
  '{' :: '\n' :: (Text.join [',', '\n'] settings.fieldLines ++ ['\n', '}', '\n'])

/-- Writes the settings file of a project. -/
def save (disk : Disk) (root : Path) (settings : Settings) : Disk.Outcome :=
  disk.writeText (Places.settingsFile root) settings.toJson

end Issuebook.Settings
