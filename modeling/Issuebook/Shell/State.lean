import Issuebook.Disk.Changes
import Issuebook.Shell.Program
import Issuebook.Shell.Script

/-!
# The state of a shell

Variables, functions, options and streams of a shell between two commands, and everything that
was printed so far. A stream leads to a channel, to a file or nowhere. What goes to a channel is
in the order in which it was printed, whichever channel it is.
-/

namespace Issuebook.Shell

/-- A variable. -/
structure Variable where
  /-- Its value, if it has one. -/
  value : Option Text := none
  /-- Whether programs see it. -/
  isPublic : Bool := false
  /-- Whether it keeps its value. -/
  isFixed : Bool := false
  deriving Repr, DecidableEq, Inhabited

/-- Where a stream leads. -/
inductive Endpoint where
  /-- To a channel, where what is printed is added. -/
  | output (channel : Nat)
  /-- From a channel, from the front of which is read. -/
  | input (channel : Nat)
  /-- To the end of a file. -/
  | file (path : Path)
  /-- Nowhere. -/
  | nowhere
  deriving Repr, DecidableEq, Inhabited

/-- What comes after a command, when it is not the next one. -/
inductive Flow where
  /-- The end of the shell. -/
  | leave
  /-- The end of what a fault stops: the shell, or only a command of its own. -/
  | fault
  /-- The end of the function, or of the script that is read. -/
  | goBack
  /-- The end of so many loops. -/
  | breakOut (loops : Nat)
  /-- The next round of the last of so many loops. -/
  | goOn (loops : Nat)
  /-- The end of the shell by a signal. -/
  | signal (number : Nat)
  /-- Nothing, because the command never ends or nobody waits for it. -/
  | endless
  deriving Repr, DecidableEq, Inhabited

/-- A command that was not waited for. -/
structure Background where
  /-- The number under which it runs. -/
  number : Nat
  /-- The time at which it ends, in millionths of a second. -/
  ending : Nat
  /-- The number it ends with. -/
  status : Nat
  /-- What it prints to channels, the last first. -/
  printed : List (Nat × Text)
  /-- The signal that ended it, if one did. -/
  signal : Option Nat := none
  deriving Repr, DecidableEq, Inhabited

/-- A shell between two commands. -/
structure State where
  /-- The name it complains under. -/
  name : Text
  /-- The number under which it runs. -/
  number : Nat
  /-- The line it is on. -/
  line : Nat := 1
  /-- The command of its own that runs. -/
  speaker : Option Text := none
  /-- The variables. -/
  bindings : Entries Variable
  /-- The arguments of the script or of the function. -/
  arguments : List Text := []
  /-- The functions. -/
  functions : Entries Command := []
  /-- The scripts that run at signals; an empty one only keeps the signal away. -/
  traps : List (Nat × Text) := []
  /-- The letters of the options that are set. -/
  options : List Char := []
  /-- The number the last command ended with. -/
  status : Nat := 0
  /-- The number that the last script inside a word ended with. -/
  outputStatus : Nat := 0
  /-- The programs whose place is known. -/
  known : List Text := []
  /-- The files. -/
  disk : Disk
  /-- The working directory. -/
  directory : Path
  /-- The mask of new files. -/
  mask : Nat := 18
  /-- Where the streams lead. -/
  streams : List (Nat × Endpoint) := [(0, .input 0), (1, .output 1), (2, .output 2)]
  /-- What was printed to channels, the last first. -/
  printed : List (Nat × Text) := []
  /-- What can be read from channels. -/
  inputs : List (Nat × Text) := []
  /-- The next channel. -/
  nextChannel : Nat := 3
  /-- The time that has passed, in millionths of a second. -/
  elapsed : Nat := 0
  /-- The time after which nobody waits any longer. -/
  deadline : Option Nat := none
  /-- Whether the failure of a command is looked at by what it is part of. -/
  isTested : Bool := false
  /-- The number of functions that are running. -/
  depth : Nat := 0
  /-- The number of loops that are running. -/
  loops : Nat := 0
  /-- What the variables of the running function were before. -/
  saved : Entries (Option Variable) := []
  /-- Commands that were not waited for. -/
  backgrounds : List Background := []
  /-- The number of the last command that was not waited for. -/
  lastBackground : Option Nat := none
  /-- The number of characters that are read of the argument with options. -/
  optionOffset : Nat := 0
  /-- The number that the last command had ended with before the trap that runs. -/
  trapped : Option Nat := none

namespace State

/-- The value of a variable, if it has one. -/
def valueOf? (shell : State) (name : Text) : Option Text :=
  (shell.bindings.get? name).bind Variable.value

/-- Whether an option is set. -/
def hasOption (shell : State) (letter : Char) : Bool :=
  shell.options.contains letter

/-- Sets the value of a variable. -/
def setVariable (name value : Text) (shell : State) : State :=
  let before := (shell.bindings.get? name).getD {}
  let isPublic := before.isPublic || shell.hasOption 'a'
  let after := { before with value := some value, isPublic := isPublic }
  { shell with bindings := shell.bindings.put name after }

/-- Whether a variable keeps its value. -/
def isFixed (shell : State) (name : Text) : Bool :=
  (shell.bindings.get? name).any Variable.isFixed

/-- Puts a variable back as it was. -/
def restoreVariable (name : Text) (before : Option Variable) (shell : State) : State :=
  { shell with
    bindings :=
      match before with
      | some before => shell.bindings.put name before
      | none => shell.bindings.erase name }

/-- The number of the bucket that a name falls into; variables are told in the order of their
buckets. -/
def bucket (name : Text) : Nat :=
  name.foldl (fun sum char => sum + char.toNat) (16 * (name.headD '\x00').toNat) % 39

/-- The environment of programs. -/
def environment (shell : State) : Entries Text :=
  let seen := shell.bindings.filterMap fun (name, found) =>
    if found.isPublic then found.value.map fun value => (name, value) else none
  seen.mergeSort fun left right => bucket left.1 ≤ bucket right.1

/-- Prints to the end of a file. -/
def appendFile (path : Path) (text : Text) (shell : State) : State :=
  match shell.disk.walk path with
  | .ok (.there place (.file content)) =>
    let content := Content.ofBytes (content.toBytes ++ Bytes.ofText text)
    { shell with disk := shell.disk.put place (.file content) }
  | _ => shell

/-- Prints to where a stream leads. -/
def printTo (endpoint : Endpoint) (text : Text) (shell : State) : State :=
  if text.isEmpty then shell
  else
    match endpoint with
    | .output channel => { shell with printed := (channel, text) :: shell.printed }
    | .file path => shell.appendFile path text
    | .input _ | .nowhere => shell

/-- Where a stream leads, if it is open. -/
def endpoint? (shell : State) (stream : Nat) : Option Endpoint :=
  shell.streams.lookup stream

/-- Leads a stream elsewhere, or closes it. -/
def lead (stream : Nat) (endpoint : Option Endpoint) (shell : State) : State :=
  let others := shell.streams.filter fun (number, _) => number != stream
  { shell with
    streams :=
      match endpoint with
      | some endpoint => (stream, endpoint) :: others
      | none => others }

/-- Prints to a stream; to a closed one nothing is printed. -/
def print (stream : Nat) (text : Text) (shell : State) : State :=
  match shell.endpoint? stream with
  | some endpoint => shell.printTo endpoint text
  | none => shell

/-- A channel with something to read. -/
def openInput (text : Text) (shell : State) : Endpoint × State :=
  (.input shell.nextChannel,
    { shell with
      inputs := (shell.nextChannel, text) :: shell.inputs
      nextChannel := shell.nextChannel + 1 })

/-- A channel to print to. -/
def openOutput (shell : State) : Nat × State :=
  (shell.nextChannel, { shell with nextChannel := shell.nextChannel + 1 })

/-- What was printed to a channel, in order. -/
def printedTo (shell : State) (channel : Nat) : Text :=
  shell.printed.foldl (fun later (found, text) =>
    if found = channel then text ++ later else later) []

/-- Takes what was printed to a channel out of the state. -/
def takePrinted (channel : Nat) (shell : State) : Text × State :=
  (shell.printedTo channel,
    { shell with printed := shell.printed.filter fun (found, _) => found != channel })

/-- What can be read where a stream leads. -/
def readable (shell : State) : Option Endpoint → Text
  | some (.input channel) => (shell.inputs.lookup channel).getD []
  | _ => []

/-- Leaves only some of what can be read from a channel. -/
def leaveInput (endpoint : Option Endpoint) (rest : Text) (shell : State) : State :=
  match endpoint with
  | some (.input channel) =>
    { shell with
      inputs := (channel, rest) :: shell.inputs.filter fun (found, _) => found != channel }
  | _ => shell

/-- How a complaint of the shell begins: with its name, the line, and the command of its own
that complains. -/
def complaintHead (shell : State) : Text :=
  shell.name ++ (": " : Text) ++ Text.ofNat shell.line ++ (": " : Text) ++
    match shell.speaker with
    | some speaker => speaker ++ (": " : Text)
    | none => []

/-- Prints a complaint. -/
def complain (text : Text) (shell : State) : State :=
  shell.print 2 (shell.complaintHead ++ text ++ ['\n'])

/-- Adds what the commands printed that were not waited for and that have ended. -/
def collect (isOver : Background → Bool) (shell : State) : State :=
  let ended := shell.backgrounds.filter isOver
  { shell with
    printed := ended.foldl (fun printed background => background.printed ++ printed) shell.printed
    backgrounds := shell.backgrounds.map fun background =>
      if isOver background then { background with printed := [] } else background }

/-- Lets time pass. -/
def pass (time : Nat) (shell : State) : State :=
  let now := shell.elapsed + time
  if time = 0 then shell
  else { shell with elapsed := now }.collect fun background => background.ending < now

/-- Adds what a program printed where the streams lead. -/
def record (trace : Trace) (shell : State) : State :=
  let shell := shell.pass trace.elapsed
  let printed := trace.prints.foldl
    (fun shell print => shell.print (if print.isError then 2 else 1) print.text) shell
  let printed :=
    match trace.input with
    | some rest => printed.leaveInput (shell.endpoint? 0) rest
    | none => printed
  { printed with
    disk := trace.disk.getD printed.disk
    status := if trace.code < 0 then 128 + trace.code.natAbs else trace.code.natAbs }

/-- What programs run in that the shell starts under a name. -/
def context (shell : State) (name : Text) : Context where
  name := name
  environment := shell.environment
  directory := shell.directory
  disk := shell.disk
  input := shell.readable (shell.endpoint? 0)
  number := shell.number + 1
  deadline := shell.deadline.map fun deadline => deadline - shell.elapsed
  ignored := shell.traps.filterMap fun (signal, script) =>
    if script.isEmpty ∧ signal ≠ 0 then some signal else none

/-- Whether nobody waits any longer. -/
def isOverdue (shell : State) : Bool :=
  shell.deadline.any fun deadline => deadline ≤ shell.elapsed

end State

/-- An action of a shell: it gives a value, or something other than the next command follows. -/
abbrev Act := ExceptT Flow (StateM State)

namespace Act

/-- Changes the state. -/
def change (update : State → State) : Act Unit :=
  modify update

/-- Runs an action to its end, and tells what follows it. -/
def settle (act : Act Unit) : Act (Option Flow) := fun shell =>
  match act shell with
  | (.ok (), shell) => (.ok none, shell)
  | (.error flow, shell) => (.ok (some flow), shell)

/-- Ends as an action that was settled. -/
def resume : Option Flow → Act Unit
  | none => pure ()
  | some flow => throw flow

/-- Complains about a fault. -/
def fail {α : Type} (text : Text) (status : Nat := 2) : Act α := do
  change fun shell => { shell.complain text with status := status }
  throw .fault

/-- Sets the number that a command ended with. -/
def finish (status : Nat) : Act Unit :=
  change fun shell => { shell with status := status }

/-- Complains and sets the number that a command ended with. -/
def complain (text : Text) (status : Nat) : Act Unit :=
  change fun shell => { shell.complain text with status := status }

/-- Sets a variable, unless it keeps its value. -/
def assign (name value : Text) : Act Unit := do
  if (← get).isFixed name then fail (name ++ (": is read only" : Text))
  else change (State.setVariable name value)

/-- Prints to the output and succeeds. -/
def print (text : Text) : Act Unit := do
  let shell ← get
  if (shell.endpoint? 1).isNone then
    complain ((shell.speaker.getD []) ++ (": I/O error" : Text)) 1
  else change fun shell => { shell.print 1 text with status := 0 }

end Act

end Issuebook.Shell
