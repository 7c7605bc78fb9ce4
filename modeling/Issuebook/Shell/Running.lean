import Issuebook.Disk.Changes
import Issuebook.Shell.Expansion
import Issuebook.Shell.Own.Basic
import Issuebook.Shell.Own.Places
import Issuebook.Shell.Own.Variables
import Issuebook.Shell.Program
import Issuebook.Shell.Subshell

/-!
# Running scripts

The commands of a script run one after the other. A command is one of the shell itself, a
function, or a program that runs in the environment and the files of the shell and leaves a
trace.
-/

/-!
## Leading streams

Where a redirection leads a stream: to a file that is read or written, to where another stream
leads, to a document, or nowhere.
-/

namespace Issuebook.Shell.Leading

/-- What the system says when it refuses to open a file. -/
def refusalText (absent : Text) : Refusal → Text
  | .absent | .notDirectory => absent
  | refusal => refusal.reason

/-- The stream that the name of a device stands for. -/
def deviceStream? (written : Text) : Option Nat :=
  if written = ("/dev/stdin" : Text) then some 0
  else if written = ("/dev/stdout" : Text) then some 1
  else if written = ("/dev/stderr" : Text) then some 2
  else (Text.dropHead? "/dev/fd/" written).bind Text.decimalNumber?

/-- Where a stream leads that reads a file. -/
def openToRead (written : Text) : Act (Option Endpoint) := do
  let shell ← get
  match deviceStream? written with
  | some stream => pure (shell.endpoint? stream)
  | none =>
    match shell.disk.readContent (shell.directory.join (Bytes.decode written)) with
    | .ok content =>
      let (endpoint, after) := shell.openInput (Bytes.toText content.toBytes)
      set after
      pure (some endpoint)
    | .error (.refused .isDirectory _) => pure (some .nowhere)
    | .error (.refused refusal _) =>
      Act.fail (("cannot open " : Text) ++ written ++ (": " : Text) ++
        refusalText "No such file" refusal)
    | .error _ => Act.fail (("cannot open " : Text) ++ written ++ (": No such file" : Text))

/-- Where a stream leads that writes a file, anew or at its end; `keeps` tells whether a file
that is there is kept. -/
def openToWrite (atEnd keeps : Bool) (written : Text) : Act (Option Endpoint) := do
  let shell ← get
  let path := shell.directory.join (Bytes.decode written)
  let refuse (reason : Text) : Act (Option Endpoint) :=
    Act.fail (("cannot create " : Text) ++ written ++ (": " : Text) ++ reason)
  match deviceStream? written with
  | some stream => pure (shell.endpoint? stream)
  | none =>
    match shell.disk.walk path with
    | .ok (.there place (.file _)) =>
      if isDevice place then pure (some .nowhere)
      else if keeps then refuse "File exists"
      else
        if !atEnd then set { shell with disk := shell.disk.put place (.file (.text [])) }
        pure (some (.file path))
    | .ok (.there _ _) => refuse "Is a directory"
    | .ok (.free place) =>
      if written.isEmpty then refuse "Directory nonexistent"
      else
        set { shell with disk := shell.disk.put place (.file (.text [])) }
        pure (some (.file path))
    | .error refusal => refuse (refusalText "Directory nonexistent" refusal)

/-- A redirection whose words are known. -/
inductive Request where
  /-- The stream goes to a file. -/
  | toFile (stream : Nat) (use : StreamUse) (written : Text)
  /-- The stream goes where another one leads; without another one it is closed. -/
  | toStream (stream : Nat) (other : Option Nat)
  /-- The stream reads a text. -/
  | toText (stream : Nat) (text : Text)
  deriving Repr, DecidableEq, Inhabited

namespace Request

/-- The request that a redirection makes. -/
def ofRedirection (capture : Capture) : Redirection → Act Request
  | .document stream body => do pure (.toText stream (← Expansion.single capture body))
  | .toward stream use target => do
    let written ← Expansion.single capture target
    match use with
    | .copy =>
      match written with
      | ['-'] => pure (.toStream stream none)
      | [digit] =>
        if digit.isDigit then pure (.toStream stream (some (digit.toNat - '0'.toNat)))
        else Act.fail "Syntax error: Bad fd number"
      | _ => Act.fail "Syntax error: Bad fd number"
    | use => pure (.toFile stream use written)

/-- Leads the stream where a request says. -/
def follow : Request → Act Unit
  | toFile stream use written => do
    let endpoint ←
      match use with
      | .write => openToWrite false ((← get).hasOption 'C') written
      | .overwrite => openToWrite false false written
      | .append => openToWrite true false written
      | _ => openToRead written
    Act.change (State.lead stream endpoint)
  | toStream stream none => Act.change (State.lead stream none)
  | toStream stream (some other) => do
    match (← get).endpoint? other with
    | some endpoint => Act.change (State.lead stream (some endpoint))
    | none => Act.fail (Text.ofNat other ++ (": Bad file descriptor" : Text))
  | toText stream text => do
    let (endpoint, after) := (← get).openInput text
    set (after.lead stream (some endpoint))

end Request

end Issuebook.Shell.Leading

namespace Issuebook.Shell

/-- What a shell needs to run what its commands name. -/
structure Runner where
  /-- Runs the text of a script. -/
  script : ScriptRunner
  /-- Runs the body of a function. -/
  body : Command → Act Unit
  /-- The programs. -/
  programs : Text → Option Utility

namespace Runner

/-- The output of a script inside a word. -/
def output (runner : Runner) : Capture :=
  Subshell.output runner.script

/-! ## Commands of the shell itself -/

/-- The time of one round of a loop. -/
def roundTime : Nat := 2

/-- The time of a program that does nothing else. -/
def programTime : Nat := 1000

/-- The number of functions that run inside each other. -/
def functionLimit : Nat := 1000

/-- Ends the shell with a number; without one, with that of the last command. -/
def exit : OwnCommand := fun arguments => do
  match arguments with
  | [] => Act.change fun shell => { shell with status := shell.trapped.getD shell.status }
  | written :: _ => Act.finish (← OwnCommand.number written)
  throw .leave

/-- Ends the function with a number; without one, with that of the last command. -/
def goBack : OwnCommand := fun arguments => do
  match arguments with
  | [] => pure ()
  | written :: _ => Act.finish (← OwnCommand.number written)
  throw .goBack

/-- Ends loops, or their round. -/
def leaveLoops (flow : Nat → Flow) : OwnCommand := fun arguments => do
  let count ←
    match arguments with
    | [] => pure 1
    | written :: _ =>
      let count ← OwnCommand.number written
      if count = 0 then Act.fail (("Illegal number: " : Text) ++ written) else pure count
  let running := (← get).loops
  Act.finish 0
  if running = 0 then pure ()
  else throw (flow (if running < count then running else count))

/-- Runs the text of its arguments. -/
def evaluate (runner : Runner) : OwnCommand := fun arguments =>
  runner.script (Text.join [' '] arguments)

/-- Runs the script of a file. -/
def runFile (runner : Runner) : OwnCommand := fun arguments => do
  match arguments with
  | [] => Act.finish 0
  | name :: _ =>
    let shell ← get
    if !name.contains '/' then Act.fail (name ++ (": not found" : Text))
    else
      match shell.disk.readContent (shell.directory.join (Bytes.decode name)) with
      | .ok content =>
        match ← Act.settle (runner.script (Bytes.toText content.toBytes)) with
        | some .goBack => pure ()
        | flow => Act.resume flow
      | .error _ =>
        Act.fail (("cannot open " : Text) ++ name ++ (": No such file" : Text))

/-- Tells names that stand for commands; there are none. -/
def tellAliases (start : Text) : OwnCommand := fun names => do
  let unknown := names.filter fun name => !name.contains '='
  unknown.forM fun name =>
    Act.change (State.print 2 (start ++ (": " : Text) ++ name ++ (" not found\n" : Text)))
  Act.finish (if unknown.isEmpty then 0 else 1)

/-- The command of the shell itself of a name, if there is one; those that name other commands
are not meant. -/
def own? (runner : Runner) (name : Text) : Option OwnCommand :=
  match String.ofList name with
  | ":" | "true" | "times" | "hash" | "jobs" | "ulimit" | "fc" => some fun _ => Act.finish 0
  | "false" => some fun _ => Act.finish 1
  | "." => some runner.runFile
  | "break" => some (leaveLoops .breakOut)
  | "continue" => some (leaveLoops .goOn)
  | "eval" => some runner.evaluate
  | "exit" => some exit
  | "export" => some OwnCommand.publish
  | "local" => some OwnCommand.keep
  | "readonly" => some OwnCommand.fix
  | "return" => some goBack
  | "set" => some OwnCommand.configure
  | "shift" => some OwnCommand.shift
  | "trap" => some OwnCommand.keepScripts
  | "unset" => some OwnCommand.forget
  | "[" => some OwnCommand.testInBrackets
  | "test" => some OwnCommand.test
  | "alias" => some (tellAliases "alias")
  | "unalias" => some (tellAliases "unalias")
  | "bg" | "fg" => some fun _ => Act.fail "No current job"
  | "cd" | "chdir" => some OwnCommand.changeDirectory
  | "echo" => some OwnCommand.printLine
  | "getopts" => some OwnCommand.readOption
  | "kill" => some (OwnCommand.send (Subshell.deliver runner.script))
  | "printf" => some OwnCommand.printFormat
  | "pwd" => some OwnCommand.tellDirectory
  | "read" => some OwnCommand.readLine
  | "type" => some OwnCommand.explainNames
  | "umask" => some OwnCommand.changeMask
  | "wait" => some OwnCommand.waitFor
  | _ => none

/-- Runs a command of the shell itself under its name. -/
def speak (name : Text) (act : Act Unit) : Act Unit := do
  let before := (← get).speaker
  Act.change fun shell => { shell with speaker := some name }
  let flow ← Act.settle act
  Act.change fun shell => { shell with speaker := before }
  Act.resume flow

/-- Runs a command whose fault does not end the script. -/
def surviving (act : Act Unit) : Act Unit := do
  match ← Act.settle act with
  | some .fault => pure ()
  | flow => Act.resume flow

/-! ## Programs and functions -/

/-- What is said about a program that the system does not run. -/
def refusalText : Refusal → Text
  | .absent | .notDirectory => "not found"
  | refusal => refusal.reason

/-- Adds the trace of a program. -/
def leaveTrace (trace : Trace) : Act Unit := do
  Act.change fun shell => (shell.record trace).pass programTime
  if trace.isEndless ∨ (← get).isOverdue then throw .endless
  else
    let signal := (-trace.code).toNat
    match if trace.code < 0 then Signal.endings.lookup signal else none with
    | some text => Act.change (State.print 2 (text ++ ['\n']))
    | none => pure ()

/-- The program of a name, or why the system does not run it and the number that stands for
that. -/
def find (runner : Runner) (shell : State) (name : Text) : Except (Text × Nat) Utility :=
  match Search.find? shell.disk shell.directory (Meaning.places shell) name with
  | .ok program =>
    match runner.programs program with
    | some utility => .ok utility
    | none => .error ("not found", 127)
  | .error refusal =>
    let text := refusalText refusal
    .error (text, if name.contains '/' ∧ text ≠ ("not found" : Text) then 126 else 127)

/-- Runs a program. -/
def runProgram (runner : Runner) (name : Text) (arguments : List Text) : Act Unit := do
  let shell ← get
  match find runner shell name with
  | .ok utility =>
    Act.change (OwnCommand.remember name)
    leaveTrace (utility (shell.context name) arguments)
  | .error (text, status) => Act.complain (name ++ (": " : Text) ++ text) status

/-- Runs a program in the place of the shell, or follows redirections for good. -/
def becomeProgram (runner : Runner) : OwnCommand := fun arguments => do
  match arguments with
  | [] => Act.finish 0
  | name :: arguments =>
    let shell ← get
    match find runner shell name with
    | .ok utility =>
      let trace := utility (shell.context name) arguments
      Act.change fun shell => { (shell.record trace).pass programTime with traps := [] }
      if trace.isEndless ∨ (← get).isOverdue then throw .endless
      else if trace.code < 0 then throw (.signal (-trace.code).toNat)
      else throw .leave
    | .error (text, status) =>
      Act.fail (name ++ (": " : Text) ++ text) status

/-- Runs a function. -/
def callFunction (runner : Runner) (body : Command) (arguments : List Text) : Act Unit := do
  let before ← get
  if functionLimit ≤ before.depth then
    Act.fail "Maximum function recursion depth (1000) reached"
  else
    set
      { before with
        arguments := arguments, depth := before.depth + 1, loops := 0, saved := [] }
    let flow ← Act.settle (runner.body body)
    Act.change fun after =>
      let restored := after.saved.foldl
        (fun shell (name, found) => shell.restoreVariable name found) after
      { restored with
        arguments := before.arguments
        depth := before.depth
        loops := before.loops
        saved := before.saved }
    match flow with
    | some .goBack => pure ()
    | flow => Act.resume flow

/-! ## Simple commands -/

/-- The words in front that set variables, and the others. -/
def splitSettings : List Word → List (Text × Word) × List Word
  | [] => ([], [])
  | word :: words =>
    match word.assignment? with
    | some setting =>
      let (settings, rest) := splitSettings words
      (setting :: settings, rest)
    | none => ([], word :: words)

/-- The commands of the shell itself whose arguments set variables. -/
def settingNames : List Text :=
  ["export", "readonly", "local"]

/-- The fields of the words of a command. -/
def commandFields (runner : Runner) (words : List Word) : Act (List Text) := do
  let sets := (words.head?.bind Word.bare?).any settingNames.contains
  let fields ← words.mapM fun word => do
    match if sets then word.assignment? else none with
    | some (name, value) =>
      pure [name ++ '=' :: (← Expansion.value runner.output value)]
    | none => Expansion.fields runner.output word
  pure fields.flatten

/-- Tells what runs, where errors went before the command's own redirections. -/
def tell (endpoint : Option Endpoint) (settings : List (Text × Text)) (fields : List Text) :
    Act Unit := do
  let shell ← get
  if shell.hasOption 'x' then
    let words := (settings.map fun (name, value) => name ++ '=' :: value) ++ fields
    let line := (shell.valueOf? "PS4").getD [] ++ Text.join [' '] words ++ ['\n']
    match endpoint with
    | some endpoint => set (shell.printTo endpoint line)
    | none => pure ()

/-- Runs an action while variables have other values, which programs see. -/
def withSettings (settings : List (Text × Text)) (act : Act Unit) : Act Unit := do
  let before := (← get).bindings
  settings.forM fun (name, value) => do
    Act.assign name value
    Act.change fun shell =>
      { shell with
        bindings := shell.bindings.put name
          { (shell.bindings.get? name).getD {} with isPublic := true } }
  let flow ← Act.settle act
  Act.change fun after =>
    settings.foldl (fun shell (name, _) => shell.restoreVariable name (before.get? name)) after
  Act.resume flow

/-- Runs an action while streams lead elsewhere, and puts them back. -/
def withStreams (act : Act Unit) : Act Unit := do
  let before := (← get).streams
  let flow ← Act.settle act
  Act.change fun after => { after with streams := before }
  Act.resume flow

/-- Follows requests of redirections; whether it could. -/
def tryRequests (requests : List Leading.Request) : Act Bool := do
  match ← Act.settle (requests.forM Leading.Request.follow) with
  | none => pure true
  | some .fault => pure false
  | flow =>
    Act.resume flow
    pure false

/-- Runs a command of the shell itself or a program, and no function. -/
def runPlain (runner : Runner) (name : Text) (arguments : List Text) : Act Unit :=
  match runner.own? name with
  | some command => speak name (surviving (command arguments))
  | none => runner.runProgram name arguments

/-- Runs a command that is no function, or explains its name. -/
def runNamed (runner : Runner) : OwnCommand := fun arguments => do
  let (letters, arguments) ← OwnCommand.options ['p', 'v', 'V'] arguments
  match arguments with
  | [] => Act.finish 0
  | name :: rest =>
    if letters.contains 'v' ∨ letters.contains 'V' then
      OwnCommand.explainName (letters.contains 'V') name
    else
      Act.change fun shell => { shell with speaker := none }
      if name = ("exec" : Text) then speak name (surviving (runner.becomeProgram rest))
      else runner.runPlain name rest

/-- Runs a command whose words are known. -/
def dispatch (runner : Runner) (settings : List (Text × Text)) (name : Text)
    (arguments : List Text) : Act Unit := do
  let shell ← get
  if Script.isLasting name then
    settings.forM fun (name, value) => Act.assign name value
    if name = ("exec" : Text) then speak name (runner.becomeProgram arguments)
    else
      match runner.own? name with
      | some command => speak name (command arguments)
      | none => Act.finish 0
  else
    withSettings settings do
      match shell.functions.get? name with
      | some body => runner.callFunction body arguments
      | none =>
        if name = ("command" : Text) then speak name (surviving (runner.runNamed arguments))
        else runner.runPlain name arguments

/-- Runs a simple command. -/
def simple (runner : Runner) (line : Nat) (words : List Word)
    (redirections : List Redirection) : Act Unit := do
  if (← get).hasOption 'n' then pure ()
  else
    Act.change fun shell => { shell with line := line, outputStatus := 0 }
    let (settings, rest) := splitSettings words
    let fields ← runner.commandFields rest
    let requests ← redirections.mapM (Leading.Request.ofRedirection runner.output)
    let before ← get
    let errors := before.endpoint? 2
    match fields with
    | [] =>
      withStreams do
        if ← tryRequests requests then
          let settings ← settings.mapM fun (name, value) => do
            let value ← Expansion.value runner.output value
            Act.assign name value
            pure (name, value)
          if !settings.isEmpty then tell errors settings []
          Act.change fun shell => { shell with status := shell.outputStatus }
    | name :: arguments =>
      let isLasting := name = ("exec" : Text) ∧ arguments.isEmpty
      let act : Act Unit := do
        if ← tryRequests requests then
          let settings ← settings.mapM fun (name, value) => do
            let value ← Expansion.value runner.output value
            pure (name, value)
          tell errors settings fields
          runner.dispatch settings name arguments
        else if Script.isLasting name then throw .fault
      if isLasting then act else withStreams act

/-! ## Compound commands -/

/-- Ends the shell after a failure that nothing looks at, when an option says so. -/
def check (act : Act Unit) : Act Unit := do
  act
  let shell ← get
  if shell.status ≠ 0 ∧ shell.hasOption 'e' ∧ !shell.isTested then throw .leave

/-- Runs a command whose failure is looked at. -/
def tested (act : Act Unit) : Act Unit := do
  let before := (← get).isTested
  Act.change fun shell => { shell with isTested := true }
  let flow ← Act.settle act
  Act.change fun shell => { shell with isTested := before }
  Act.resume flow

/-- Runs one round of a loop; whether the loop goes on. -/
def round (body : Act Unit) : Act Bool := do
  Act.change (State.pass roundTime)
  if (← get).isOverdue then throw .endless
  match ← Act.settle body with
  | none => pure true
  | some (.breakOut loops) => if loops ≤ 1 then pure false else throw (.breakOut (loops - 1))
  | some (.goOn loops) => if loops ≤ 1 then pure true else throw (.goOn (loops - 1))
  | some flow => throw flow

/-- Repeats a body while a condition ends as it has to, `limit` times at most; `status` is the
number that the body ended with. -/
def loopFrom (onSuccess : Bool) (condition body : Act Bool) :
    (limit : Nat) → (status : Nat) → Act Unit
  | 0, _ => throw .endless
  | limit + 1, status => fun shell =>
    match condition shell with
    | (.ok true, after) =>
      if decide (after.status = 0) = onSuccess then
        match body after with
        | (.ok true, after) => loopFrom onSuccess condition body limit after.status after
        | (.ok false, after) => (.ok (), after)
        | (.error flow, after) => (.error flow, after)
      else (.ok (), { after with status := status })
    | (.ok false, after) => (.ok (), after)
    | (.error flow, after) => (.error flow, after)

/-- The greatest number of rounds of a loop. -/
def roundLimit : Nat := 1000000

/-- Runs an action inside a loop. -/
def inLoop (act : Act Unit) : Act Unit := do
  let before := (← get).loops
  Act.change fun shell => { shell with loops := before + 1 }
  let flow ← Act.settle act
  Act.change fun shell => { shell with loops := before }
  Act.resume flow

/-- Runs a body as long as a condition ends as it has to. -/
def loop (onSuccess : Bool) (condition body : Act Unit) : Act Unit :=
  inLoop (loopFrom onSuccess (round (tested condition)) (round body) roundLimit 0)

/-- Runs a body for each of some words. -/
def forEach (name : Text) (body : Act Unit) : List Text → Act Unit
  | [] => pure ()
  | word :: words => do
    Act.assign name word
    if ← round body then forEach name body words

end Runner

end Issuebook.Shell
