import Issuebook.Places
import Issuebook.CommandLine.Invocation
import Issuebook.Reconciliation.Run
import Issuebook.Rollup.Compilation
import Issuebook.Settings.Reading
import Issuebook.Text.Markup

/-!
# Sessions

What a command does to a disk and a store, and what it says: plain lines, notices that are
printed from a level on, and a last complaint when it gives up.
-/

namespace Issuebook

/-- Something that a command says. -/
inductive Saying where
  /-- A line for the user. -/
  | line (text : Text)
  /-- A notice. -/
  | notice (notice : Notice)
  /-- The reason to give up. -/
  | complaint (text : Text)
  deriving Repr, DecidableEq

/-- Why a command gives up. -/
inductive Defeat where
  /-- It tells the user. -/
  | complaint (text : Text)
  /-- A fault that it does not expect. -/
  | fault (fault : Fault)
  deriving Repr, DecidableEq

/-- What a command works with. -/
structure Surroundings where
  /-- Now, in universal time. -/
  now : Stamp
  /-- The variables of the environment. -/
  environment : Settings.Environment
  /-- The home directories of users. -/
  homes : Homes := []

/-- A command after it was run. -/
structure Session (State : Type) where
  /-- What it said, in order. -/
  sayings : List Saying
  /-- The disk. -/
  disk : Disk
  /-- What runs the store's program. -/
  state : State
  /-- Why it gave up, if it did. -/
  defeat : Option Defeat

namespace Session

variable {State : Type}

/-- A session that only changes nothing and gives up. -/
def giveUp (disk : Disk) (state : State) (defeat : Defeat) : Session State :=
  ⟨[], disk, state, some defeat⟩

/-- A session with more said before it. -/
def after (sayings : List Saying) (session : Session State) : Session State :=
  { session with sayings := sayings ++ session.sayings }

/-- Notices as sayings. -/
def ofNotices (notices : List Notice) : List Saying :=
  notices.map .notice

/-- The notices in order, printed or not. -/
def notices (session : Session State) : List Notice :=
  session.sayings.filterMap fun saying =>
    match saying with
    | .notice notice => some notice
    | _ => none

/-- What the user reads about giving up. -/
def complaintText (text : Text) : Text :=
  ("error: " : Text) ++ text ++ ['\n']

/-- What a saying prints to the output. -/
def outputOf (level : Level) : Saying → Text
  | .line text => text ++ ['\n']
  | .notice notice => notice.output level
  | .complaint _ => []

/-- What a saying prints to the error stream. -/
def errorsOf (level : Level) : Saying → Text
  | .line _ => []
  | .notice notice => notice.errors level
  | .complaint text => complaintText text

/-- Everything printed to the output. -/
def output (level : Level) (session : Session State) : Text :=
  session.sayings.flatMap (outputOf level)

/-- Everything printed to the error stream. -/
def errors (level : Level) (session : Session State) : Text :=
  session.sayings.flatMap (errorsOf level) ++
    match session.defeat with
    | some (.complaint text) => complaintText text
    | some (.fault fault) => fault.message ++ ['\n']
    | none => []

/-- The fault that it does not expect, if one ended it. -/
def fault? (session : Session State) : Option Fault :=
  match session.defeat with
  | some (.fault fault) => some fault
  | _ => none

/-- The number that the program ends with. -/
def exitCode (session : Session State) : Nat :=
  if session.defeat.isSome then 1 else 0

end Session

/-- The variable that holds the home directory. -/
def Surroundings.homeVariable : Text := "HOME"

/-- A path with the tilde at its front replaced by the home directory. -/
def Surroundings.expandHome (around : Surroundings) (path : Path) : Except Fault Path :=
  around.homes.expand (around.environment.get? homeVariable) path

namespace CommandLine

variable {State : Type}

/-- The root of a project: the one given, or the working directory. -/
def projectRoot (disk : Disk) (around : Surroundings) (root : Option Text) :
    Except Fault Path :=
  match root with
  | none => .ok (Disk.pathOf disk.here)
  | some written => (around.expandHome (Path.ofText written)).bind disk.resolve

/-- What is said about settings that cannot be used, with a hint on a line of its own. -/
def settingsComplaint (fault : Fault) : Text :=
  match fault.hint? with
  | some hint => fault.message ++ '\n' :: ' ' :: '(' :: (hint ++ [')'])
  | none => fault.message

/-- Whether a fault is about the settings file. -/
def isSettingsFault : Fault → Bool
  | .unreadableSettings _ _ | .settingsNotObject _ | .invalidSettings _ _ => true
  | _ => false

/-- The root and the settings of a project. -/
def resolveProject (disk : Disk) (around : Surroundings) (root : Option Text) :
    Except Defeat (Path × Settings) :=
  match projectRoot disk around root with
  | .error fault => .error (.fault fault)
  | .ok root =>
    match Settings.load disk root around.environment with
    | .ok settings => .ok (root, settings)
    | .error fault =>
      .error (if isSettingsFault fault then .complaint (settingsComplaint fault)
        else .fault fault)

/-- A fault as a reason to give up: expected ones are told. -/
def defeatOf (fault : Fault) : Defeat :=
  if fault.isExpected then .complaint fault.message else .fault fault

/-- The notice that something was done. -/
def success (message : Text) : Saying :=
  .notice ⟨.success, message⟩

/-- The texts in the tables that tell of conflicts and failures, which are marked-up texts. -/
def tableTexts (summary : Summary) : List Text :=
  summary.conflicts.map Conflict.id ++
    summary.failures.flatMap fun failure => [failure.id, failure.detail]

/-- The last words of a reconciliation, whose tables come before. -/
def syncEnd (summary : Summary) : List Saying × Option Defeat :=
  if !(tableTexts summary).all Markup.isSound then ([], some (.fault .unsoundMarkup))
  else if summary.isOk then
    ([success (if summary.isDry then "dry run complete" else "sync complete")], none)
  else
    ([], some (.complaint (Text.ofNat summary.failures.length ++
      (" operation(s) failed" : Text))))

/-- Reconciles a project whose options are known. -/
def syncWith (around : Surroundings) (runner : Runner State) (disk : Disk) (state : State)
    (options : ReconcileOptions) : Session State :=
  let backend := (Program.usual options.beadsRoot options.projectRoot).backend runner
  let run := reconcile disk around.now.date backend state options
  let opening : Saying := .notice ⟨.debug, ("sync " : Text) ++ options.direction.name ++
    (" in " : Text) ++ options.projectRoot.toText⟩
  let said := opening :: Session.ofNotices run.notices
  match run.summary with
  | .error fault => ⟨said, run.disk, run.state, some (.fault fault)⟩
  | .ok summary =>
    let (last, defeat) := syncEnd summary
    ⟨said ++ last, run.disk, run.state, defeat⟩

/-- Reconciles a project. -/
def sync (around : Surroundings) (runner : Runner State) (disk : Disk) (state : State)
    (direction : Direction) (isDry deletes : Bool) (strategy : Option Strategy)
    (lastAgreedAt root : Option Text) : Session State :=
  match resolveProject disk around root with
  | .error defeat => Session.giveUp disk state defeat
  | .ok (root, settings) =>
    if settings.beads then
      let options := ReconcileOptions.ofSettings disk root settings
      Session.after (Session.ofNotices options.notices) <|
        match options.value with
        | .error fault => Session.giveUp disk state (.fault fault)
        | .ok options =>
          syncWith around runner disk state
            { options with
              direction := direction
              isDry := isDry
              deletes := deletes
              strategy := strategy.getD options.strategy
              lastAgreedAt := lastAgreedAt }
    else
      Session.giveUp disk state
        (.complaint "beads integration is disabled in todo.config.json")

/-- The last words of a rollup. -/
def buildEnd (compiled : Rollup.Compilation) (path : Path) : Saying :=
  success (("wrote " : Text) ++ Text.ofNat compiled.issues.length ++
    (" issue(s) to " : Text) ++ path.toText)

/-- Writes a compiled rollup. -/
def writeRollup (disk : Disk) (state : State) (path : Path) (compiled : Rollup.Compilation) :
    Session State :=
  match Book.writeFile disk path compiled.output with
  | (.ok (), left) => ⟨[buildEnd compiled path], left, state, none⟩
  | (.error fault, left) =>
    ⟨[], left, state, some (if fault.isOutside then
      .complaint (("cannot write " : Text) ++ path.toText ++ (": " : Text) ++ fault.message)
      else .fault fault)⟩

/-- Writes the rollup of a project, whose file has to stay inside it. -/
def build (around : Surroundings) (disk : Disk) (state : State) (output : Text)
    (options : RollupOptions) (root : Option Text) : Session State :=
  match resolveProject disk around root with
  | .error defeat => Session.giveUp disk state defeat
  | .ok (root, settings) =>
    match disk.ensureWithin root (Path.ofText output) with
    | .error fault => Session.giveUp disk state (defeatOf fault)
    | .ok path =>
      let compiled := Rollup.compile disk around.now root settings options
      Session.after (Session.ofNotices compiled.notices) <|
        match compiled.value with
        | .error fault => Session.giveUp disk state (.fault fault)
        | .ok compiled => writeRollup disk state path compiled

/-- Makes the directory of issue files. -/
def makeTodo (disk : Disk) (state : State) (root : Path) (settings : Settings) :
    Session State :=
  let todo := settings.todoPath root
  match disk.makeDirectories todo with
  | (.ok (), left) =>
    ⟨[.line (("Issue files live in " : Text) ++ todo.toText)], left, state, none⟩
  | (.error fault, left) => Session.giveUp left state (.fault fault)

/-- Keeps the settings that are there. -/
def keepSettings (disk : Disk) (state : State) (root : Path) : Session State :=
  let kept : Saying := .line (("Keeping existing " : Text) ++ Places.settingsName)
  Session.after [kept] <|
    match Settings.load disk root [] with
    | .error fault => Session.giveUp disk state (defeatOf fault)
    | .ok settings => makeTodo disk state root settings

/-- Writes new settings. -/
def writeSettings (disk : Disk) (state : State) (root : Path) (settings : Settings) :
    Session State :=
  match settings.save disk root with
  | (.error fault, left) => Session.giveUp left state (.fault fault)
  | (.ok (), left) =>
    Session.after
      [success (("wrote " : Text) ++ (Places.settingsFile root).toText)]
      (makeTodo left state root settings)

/-- Sets up a project whose preset is known. -/
def setUp (disk : Disk) (state : State) (preset : Option Text) (withoutBeads force : Bool)
    (root : Path) : Session State :=
  match disk.exists? (Places.settingsFile root) with
  | .error fault => Session.giveUp disk state (.fault fault)
  | .ok isThere =>
    if isThere && !force then keepSettings disk state root
    else
      let preset := preset.bind fun name => if Text.isAllBlank name then none else some name
      writeSettings disk state root
        { Settings.standard with beads := !withoutBeads, preset := preset }

/-- The fault of a preset that no template has. -/
def presetFault? (preset : Option Text) : Option Fault :=
  match preset with
  | none => none
  | some name =>
    match Preset.template .issue (some name) with
    | .ok _ => none
    | .error fault => some fault

/-- Sets up a project. -/
def init (around : Surroundings) (disk : Disk) (state : State) (preset : Option Text)
    (withoutBeads force : Bool) (root : Option Text) : Session State :=
  match projectRoot disk around root with
  | .error fault => Session.giveUp disk state (.fault fault)
  | .ok root =>
    match presetFault? preset with
    | some fault => Session.giveUp disk state (defeatOf fault)
    | none => setUp disk state preset withoutBeads force root

/-- Runs a command. -/
def run (around : Surroundings) (runner : Runner State) (disk : Disk) (state : State) :
    Command → Session State
  | .sync direction isDry deletes strategy lastAgreedAt root =>
    sync around runner disk state direction isDry deletes strategy lastAgreedAt root
  | .build output options root => build around disk state output options root
  | .init preset withoutBeads force root =>
    init around disk state preset withoutBeads force root

/-- The variable that holds the level of notices. -/
def levelVariable : Text := "TODOMD_LOG_LEVEL"

/-- The level from which notices are printed: the one asked for, or that of the
environment. -/
def levelOf (environment : Settings.Environment) (asked : Option Level) : Level :=
  asked.getD (Level.ofSetting (environment.get? levelVariable))

end CommandLine

end Issuebook
