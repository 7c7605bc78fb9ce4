import Issuebook.Shell.Utility.Files
import Issuebook.Shell.Running

/-!
# The shell among programs

The shell is itself a program: it runs the script behind an option, that of a file, or the one
that it reads. With it there are programs that run other programs.
-/

/-!
## Running compound commands

Sequences, conditions, loops, choices, pipelines and subshells run their parts; a command runs
by the structure of what it is made of. A script runs command by command, as it is read.
-/

namespace Issuebook.Shell.Runner

/-- Runs the commands of a pipeline, each in a shell of its own, with what the one before prints
as its input. All of them start at the same time. -/
def pipe (runner : Runner) (start : Nat) : List (Act Unit) → Act Unit
  | [] => pure ()
  | [last] => Subshell.run runner.script last
  | act :: acts => do
    let before ← get
    let (text, flow) ← Subshell.captureAll runner.script act
    let after ← get
    if flow = some .endless ∧ !after.isOverdue then pure () else Act.resume flow
    let (endpoint, opened) := { after with elapsed := start }.openInput text
    set (opened.lead 0 (some endpoint))
    let flow ← Act.settle (pipe runner start acts)
    Act.change fun shell =>
      { shell with
        streams := before.streams, elapsed := Nat.max after.elapsed shell.elapsed }
    Act.resume flow

/-- The commands that a case runs for a subject, if it has a pattern for it. -/
def matchesAny (runner : Runner) (subject : Text) : List Word → Act Bool
  | [] => pure false
  | pattern :: patterns => do
    let glob ← Expansion.pattern runner.output pattern
    if glob.accepts subject then pure true else matchesAny runner subject patterns

mutual

/-- Runs a command. -/
def run (runner : Runner) : Command → Act Unit
  | .simple line words redirections => check (runner.simple line words redirections)
  | .redirected line command redirections =>
    check do
      Act.change fun shell => { shell with line := line }
      let requests ← redirections.mapM (Leading.Request.ofRedirection runner.output)
      withStreams do
        if ← tryRequests requests then run runner command
  | .sequence commands => runAll runner commands
  | .background command => Subshell.background runner.script (run runner command)
  | .both first second => do
    tested (run runner first)
    if (← get).status = 0 then run runner second
  | .either first second => do
    tested (run runner first)
    if (← get).status ≠ 0 then run runner second
  | .negated command => do
    tested (run runner command)
    Act.finish (if (← get).status = 0 then 1 else 0)
  | .pipeline commands =>
    check do pipe runner (← get).elapsed (acts runner commands)
  | .subshell body => check (Subshell.run runner.script (run runner body))
  | .choice condition body other => do
    tested (run runner condition)
    if (← get).status = 0 then run runner body
    else
      match other with
      | .sequence [] => Act.finish 0
      | other => run runner other
  | .loop onSuccess condition body => loop onSuccess (run runner condition) (run runner body)
  | .forEach line name words body => do
    Act.change fun shell => { shell with line := line }
    let fields ←
      match words with
      | some words => do
        let fields ← words.mapM (Expansion.fields runner.output)
        pure fields.flatten
      | none => pure (← get).arguments
    if fields.isEmpty then Act.finish 0
    inLoop (forEach name (run runner body) fields)
  | .select line subject cases => do
    Act.change fun shell => { shell with line := line }
    let subject ← Expansion.single runner.output subject
    runCases runner subject cases
  | .function name body =>
    Act.change fun shell =>
      { shell with functions := shell.functions.put name body, status := 0 }

/-- Runs one command after the other. -/
def runAll (runner : Runner) : List Command → Act Unit
  | [] => pure ()
  | command :: commands => do
    run runner command
    runAll runner commands

/-- The actions that run commands. -/
def acts (runner : Runner) : List Command → List (Act Unit)
  | [] => []
  | command :: commands => run runner command :: acts runner commands

/-- Runs the first case that has a pattern for a subject. -/
def runCases (runner : Runner) (subject : Text) : List (List Word × Command) → Act Unit
  | [] => Act.finish 0
  | (patterns, body) :: cases => do
    if ← matchesAny runner subject patterns then
      match body with
      | .sequence [] => Act.finish 0
      | body => run runner body
    else runCases runner subject cases

end

/-- Runs the commands of the tokens of a script, each as soon as it is read. -/
def runTokens (runner : Runner) : (fuel : Nat) → Script.Tokens → Act Unit
  | 0, _ => pure ()
  | fuel + 1, tokens =>
    match Script.next? tokens with
    | .error (line, fault) => do
      Act.change fun shell => { shell with line := line }
      Act.fail (("Syntax error: " : Text) ++ fault.message)
    | .ok none => pure ()
    | .ok (some (command, rest)) => do
      run runner command
      runTokens runner fuel rest

/-- Runs the text of a script; one without commands succeeds. -/
def runScript (runner : Runner) (script : Text) : Act Unit := do
  let tokens := Token.list script
  match Script.skipLines tokens with
  | [] | [⟨_, .finish⟩] => Act.finish 0
  | tokens => runTokens runner (tokens.length + 1) tokens

/-- The runner whose scripts and functions are nested to a depth. -/
def ofDepth (programs : Text → Option Utility) : (depth : Nat) → Runner
  | 0 =>
    { script := fun _ => throw .endless
      body := fun _ => throw .endless
      programs := programs }
  | depth + 1 =>
    let inner := ofDepth programs depth
    { script := inner.runScript
      body := inner.run
      programs := programs }

end Issuebook.Shell.Runner

namespace Issuebook.Shell

/-- How a shell is called. -/
structure Invocation where
  /-- The letters of its options. -/
  options : List Char := []
  /-- Whether its first argument is a script. -/
  isScript : Bool := false
  /-- Its arguments. -/
  arguments : List Text := []
  deriving Repr, DecidableEq, Inhabited

namespace Invocation

/-- Adds the options of the letters behind a sign; the letter `o` takes the next argument as a
name. -/
def addLetters (isSet : Bool) :
    List Char → List Text → Invocation → Except Text (Invocation × List Text)
  | [], rest, call => .ok (call, rest)
  | 'c' :: letters, rest, call => addLetters isSet letters rest { call with isScript := true }
  | 'o' :: letters, rest, call =>
    match rest with
    | [] => .ok (call, [])
    | name :: rest =>
      match OwnCommand.optionNames.lookup name with
      | some letter =>
        let others := call.options.filter fun found => some found ≠ letter
        addLetters isSet letters rest
          { call with options := if isSet then letter.toList ++ others else others }
      | none => .error (("Illegal option -o " : Text) ++ name)
  | letter :: letters, rest, call =>
    if OwnCommand.optionNames.any fun (_, found) => found = some letter then
      let others := call.options.filter (· ≠ letter)
      addLetters isSet letters rest
        { call with options := if isSet then letter :: others else others }
    else .error (("Illegal option -" : Text) ++ [letter])

/-- Reads how a shell is called. -/
def read : (fuel : Nat) → Invocation → List Text → Except Text Invocation
  | 0, call, arguments => .ok { call with arguments := arguments }
  | _, call, ['-', '-'] :: rest => .ok { call with arguments := rest }
  | _, call, ['-'] :: rest => .ok { call with arguments := rest }
  | fuel + 1, call, ('-' :: letters) :: rest => do
    let (call, rest) ← addLetters true letters rest call
    read fuel call rest
  | fuel + 1, call, ('+' :: letters) :: rest => do
    let (call, rest) ← addLetters false letters rest call
    read fuel call rest
  | _, call, arguments => .ok { call with arguments := arguments }

end Invocation

namespace Interpreter

/-- Where programs are looked for when nothing says so. -/
def usualPlaces : Text :=
  "/usr/local/sbin:/usr/local/bin:/usr/sbin:/usr/bin:/sbin:/bin"

/-- The working directory as a shell calls it: by the path that it is told, when that leads
there. -/
def startDirectory (context : Context) : Path :=
  let resolved :=
    match context.disk.resolve context.directory with
    | .ok path => path
    | .error _ => context.directory
  match (context.environment.get? "PWD").map fun written => Path.ofText (Bytes.decode written) with
  | some told =>
    match if told.isAbsolute then context.disk.resolve told else .error .zeroInPath with
    | .ok path => if path = resolved then told else resolved
    | .error _ => resolved
  | none => resolved

/-- The variables of a shell at its start. -/
def startVariables (context : Context) : Entries Variable :=
  let own (value : Text) : Variable := { value := some value }
  let usual : Entries Variable :=
    [("PATH", own usualPlaces), ("PS1", own "# "), ("PS2", own "> "), ("PS4", own "+ ")]
  let told := (context.environment.filter fun (name, _) => isName name).foldl
    (fun bindings (name, value) => bindings.put name { value := some value, isPublic := true })
    usual
  let set (name value : Text) (bindings : Entries Variable) : Entries Variable :=
    bindings.put name { (bindings.get? name).getD {} with value := some value }
  let counted := set "IFS" [' ', '\t', '\n'] (set "OPTIND" ['1']
    (set "PPID" (Text.ofNat (context.number - 1)) told))
  counted.put "PWD"
    { value := some (OwnCommand.directoryText (startDirectory context)), isPublic := true }

/-- A shell at its start. -/
def start (context : Context) (name : Text) (arguments : List Text) (options : List Char) :
    State where
  name := name
  number := context.number
  bindings := startVariables context
  arguments := arguments
  options := options
  disk := context.disk
  directory := startDirectory context
  inputs := [(0, context.input)]
  traps := context.ignored.map fun signal => (signal, [])
  deadline := context.deadline

/-- The trace of a shell that has ended. -/
def traceOf (flow : Option Flow) (shell : State) : Trace :=
  let shell := Subshell.settle shell
  { prints := shell.printed.reverse.filterMap fun (channel, text) =>
      if channel = 1 then some ⟨false, text⟩
      else if channel = 2 then some ⟨true, text⟩ else none
    code :=
      match flow with
      | some (.signal number) => -(number : Int)
      | _ => ((shell.status % 256 : Nat) : Int)
    elapsed := shell.elapsed
    isEndless := flow = some .endless || Subshell.never ≤ shell.elapsed
    disk := some shell.disk
    input := shell.inputs.lookup 0 }

/-- How deep scripts and functions are nested. -/
def nestingLimit : Nat := 3000

/-- Runs a script in a shell that starts. -/
def runShell (programs : Text → Option Utility) (script : Text) (shell : State) : Trace :=
  let runner := Runner.ofDepth programs nestingLimit
  match Act.settle (Subshell.toEnd runner.script (runner.script script)) shell with
  | (.ok flow, after) => traceOf flow after
  | (.error flow, after) => traceOf (some flow) after

/-- The shell as a program. -/
def utility (programs : Text → Option Utility) : Utility := fun context arguments =>
  let refuse (text : Text) : Trace :=
    .complaint (context.name ++ (": 0: " : Text) ++ text) 2
  match Invocation.read (arguments.length + 1) {} arguments with
  | .error text => refuse text
  | .ok call =>
    let readsInput := call.arguments.isEmpty || call.options.contains 's'
    match call.isScript, if readsInput ∧ !call.isScript then [] else call.arguments with
    | true, [] => refuse "-c requires an argument"
    | true, [script] => runShell programs script (start context context.name [] call.options)
    | true, script :: name :: rest =>
      runShell programs script (start context name rest call.options)
    | false, [] =>
      runShell programs context.input
        { start context context.name call.arguments call.options with inputs := [(0, [])] }
    | false, name :: rest =>
      match context.disk.readContent (context.path name) with
      | .ok content =>
        runShell programs (Bytes.toText content.toBytes) (start context name rest call.options)
      | .error (.refused .isDirectory _) => {}
      | .error _ => refuse (("cannot open " : Text) ++ name ++ (": No such file" : Text))

/-! ## Programs that run programs -/

/-- Runs a program by its name; `refuse` tells what is said about one that is not run. -/
def launch (programs : Text → Option Utility) (refuse : Text → Text) (context : Context)
    (name : Text) (arguments : List Text) : Trace :=
  let places := (context.environment.get? "PATH").getD "/bin:/usr/bin"
  match Search.find? context.disk context.directory places name with
  | .ok program =>
    match programs program with
    | some utility => utility { context with name := name } arguments
    | none => {}
  | .error refusal =>
    .refusal context (refuse (inApostrophes name) ++ (": " : Text) ++ refusal.reason)
      (if refusal = .absent ∨ refusal = .notDirectory then 127 else 126)

/-- Changes the environment by the arguments in front, and gives those behind them. -/
def changeEnvironment : (fuel : Nat) → Entries Text → List Text →
    Except Char (Entries Text × List Text)
  | 0, environment, arguments => .ok (environment, arguments)
  | fuel + 1, environment, arguments =>
    match arguments with
    | ['-', 'i'] :: rest | ['-'] :: rest => changeEnvironment fuel [] rest
    | ['-', 'u'] :: name :: rest => changeEnvironment fuel (environment.erase name) rest
    | ('-' :: 'u' :: char :: name) :: rest =>
      changeEnvironment fuel (environment.erase (char :: name)) rest
    | ['-', '-'] :: rest => changeEnvironment fuel environment rest
    | ('-' :: letter :: _) :: _ => .error letter
    | argument :: rest =>
      match Text.cutAtChar? '=' argument with
      | some (name, value) => changeEnvironment fuel (environment.put name value) rest
      | none => .ok (environment, arguments)
    | [] => .ok (environment, [])

/-- Runs a program in another environment, or tells the environment. -/
def inEnvironment (programs : Text → Option Utility) : Utility := fun context arguments =>
  match changeEnvironment (arguments.length + 1) context.environment arguments with
  | .error letter => Utility.unknownOption context letter 125
  | .ok (environment, []) => Utility.printVariables { context with environment := environment } []
  | .ok (environment, name :: rest) =>
    launch programs id { context with environment := environment } name rest

/-- Runs a program and stops it when it takes longer than it may. -/
def withTimeout (programs : Text → Option Utility) : Utility := fun context arguments =>
  match arguments with
  | written :: name :: rest =>
    match Utility.timeOf? written with
    | none =>
      .misuse context (("invalid time interval " : Text) ++ inApostrophes written) 125
    | some limit =>
      let limited :=
        if limit = 0 then context
        else
          { context with
            deadline := some (match context.deadline with
              | some deadline => if deadline < limit then deadline else limit
              | none => limit) }
      let trace := launch programs (("failed to run command " : Text) ++ ·) limited name rest
      if limit ≠ 0 ∧ (trace.isEndless ∨ limit ≤ trace.elapsed) then
        { trace with code := 124, elapsed := limit, isEndless := false }
      else trace
  | _ =>
    .complaint (("Try '" : Text) ++ context.name ++
      (" --help' for more information." : Text)) 125

/-- The program that calculates. -/
def calculators : Entries Utility :=
  [("expr", Utility.Calculation.utility)]

/-- The programs that run no others. -/
def simple : Entries Utility :=
  Utility.small ++ Utility.filters ++ Utility.forFiles ++ calculators

/-- The names of shells. -/
def shellNames : List Text := ["sh", "bash"]

/-- The names of the programs that run others. -/
def launchers : List Text := "env" :: "timeout" :: shellNames

/-- The names of all programs. -/
def names : List Text :=
  simple.keys ++ launchers

/-- The programs by name; those that run others run them to a depth. -/
def programs : (depth : Nat) → Text → Option Utility
  | 0, name => simple.get? name
  | depth + 1, name =>
    let inner := programs depth
    if shellNames.contains name then some (utility inner)
    else if name = ("env" : Text) then some (inEnvironment inner)
    else if name = ("timeout" : Text) then some (withTimeout inner)
    else simple.get? name

end Interpreter

end Issuebook.Shell
