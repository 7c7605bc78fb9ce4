import Issuebook.Shell.Own.Basic
import Issuebook.Text.Table

/-!
# Own commands for signals

Signals are sent to the shell itself and to commands that it does not wait for; scripts can be
kept for signals; commands are waited for.
-/

/-!
## Signals

The signals that a system sends to programs: their names in order of their numbers, what is
said about a program that one of them ended, and those that end no program.
-/

namespace Issuebook.Shell.Signal

/-- The names of the signals from number one on. -/
def names : List Text :=
  ["HUP", "INT", "QUIT", "ILL", "TRAP", "ABRT", "BUS", "FPE", "KILL", "USR1", "SEGV", "USR2",
   "PIPE", "ALRM", "TERM", "STKFLT", "CHLD", "CONT", "STOP", "TSTP", "TTIN", "TTOU", "URG",
   "XCPU", "XFSZ", "VTALRM", "PROF", "WINCH", "IO", "PWR", "SYS"]

/-- The greatest number of a signal. -/
def greatest : Nat := 64

/-- The number of the signal that no program survives. -/
def kill : Nat := 9

/-- The number of the usual signal. -/
def terminate : Nat := 15

/-- What is said about programs that signals ended. -/
def endings : List (Nat × Text) :=
  [(1, "Hangup"), (3, "Quit"), (4, "Illegal instruction"), (5, "Trace/breakpoint trap"),
   (6, "Aborted"), (7, "Bus error"), (8, "Floating point exception"), (9, "Killed"),
   (10, "User defined signal 1"), (11, "Segmentation fault"), (12, "User defined signal 2"),
   (14, "Alarm clock"), (15, "Terminated"), (16, "Stack fault"),
   (24, "CPU time limit exceeded"), (25, "File size limit exceeded"),
   (26, "Virtual timer expired"), (27, "Profiling timer expired"), (29, "I/O possible"),
   (30, "Power failure"), (31, "Bad system call")]

/-- Whether a signal ends no program that does not wait for it. -/
def isHarmless (number : Nat) : Bool :=
  [17, 18, 23, 28].contains number

/-- Whether a signal stops a program until another one lets it go on. -/
def stops (number : Nat) : Bool :=
  19 ≤ number && number ≤ 22

/-- The name of the end of a shell among signals. -/
def exitName : Text := "EXIT"

/-- The name of a signal; zero is the end of the shell. -/
def name? (number : Nat) : Option Text :=
  match number with
  | 0 => some exitName
  | number + 1 => names[number]?

/-- The signal that a text names, by its number or its name in any case. -/
def ofText? (written : Text) : Option Nat :=
  match Text.decimalNumber? written with
  | some number => if number ≤ greatest then some number else none
  | none =>
    let upper := written.map Char.toUpper
    if upper = exitName then some 0
    else (names.idxOf? upper).map fun index => index + 1

end Issuebook.Shell.Signal

namespace Issuebook.Shell.OwnCommand

/-- How signals are sent. -/
def killUsage : Text :=
  "Usage: kill [-s sigspec | -signum | -sigspec] [pid | job]... or\nkill -l [exitstatus]"

/-- Tells the name of a signal, or the names of all. -/
def tellSignal : OwnCommand := fun arguments => do
  match arguments with
  | [] => Act.print (['0', '\n'] ++ Signal.names.flatMap fun name => name ++ ['\n'])
  | written :: _ =>
    let number ← number written
    let signal := if 128 < number then number - 128 else number
    match if signal = 0 then none else Signal.name? signal with
    | some name => Act.print (name ++ ['\n'])
    | none =>
      Act.fail (("invalid signal number or exit status: " : Text) ++ written)

/-- Ends a command that the shell does not wait for. -/
def endBackground (signal : Nat) (background : Background) (shell : State) : State :=
  let ended : Background :=
    if signal = 0 ∨ Signal.isHarmless signal ∨ background.ending ≤ shell.elapsed then background
    else
      { background with
        ending := shell.elapsed, status := 128 + signal, printed := [], signal := some signal }
  { shell with
    backgrounds := shell.backgrounds.map fun found =>
      if found.number = background.number then ended else found }

/-- Sends a signal to a number; `deliver` takes it to the shell itself. -/
def sendTo (deliver : Nat → Act Unit) (signal : Nat) (target : Text) : Act Bool := do
  match target with
  | '%' :: _ => Act.fail (("No such job: " : Text) ++ target)
  | target =>
    let isGroup := target.head? = some '-'
    let written := if isGroup then target.drop 1 else target
    match number? written with
    | none => Act.fail (("Illegal number: " : Text) ++ written)
    | some number =>
      let shell ← get
      if (number = shell.number ∧ !isGroup) ∨ number = 0 then
        Act.finish 0
        deliver signal
        pure true
      else
        match shell.backgrounds.find? fun background => background.number = number with
        | some background =>
          set (endBackground signal background shell)
          pure true
        | none =>
          Act.complain "No such process\n" 1
          pure false

/-- The signal that is named by options in front, and the arguments behind them; none asks for
the names of signals. -/
def signalOptions : List Text → Act (Option Nat × List Text)
  | ['-', '-'] :: rest => pure (some Signal.terminate, rest)
  | ['-', 'l'] :: rest => pure (none, rest)
  | ['-', 's'] :: [] => Act.fail "No arg for -s option"
  | ['-', 's'] :: name :: rest => named name rest
  | ('-' :: 's' :: name) :: rest =>
    match Signal.ofText? ('s' :: name) with
    | some signal => pure (some signal, rest)
    | none => named name rest
  | ('-' :: letter :: letters) :: rest =>
    match Signal.ofText? (letter :: letters) with
    | some signal => pure (some signal, rest)
    | none => Act.fail (("Illegal option -" : Text) ++ [letter])
  | arguments => pure (some Signal.terminate, arguments)
where
  /-- The signal of a name. -/
  named (name : Text) (rest : List Text) : Act (Option Nat × List Text) :=
    match Signal.ofText? name with
    | some signal => pure (some signal, rest)
    | none => Act.fail (("invalid signal number or name: " : Text) ++ name)

/-- Sends a signal. -/
def send (deliver : Nat → Act Unit) : OwnCommand := fun arguments => do
  if arguments.isEmpty then Act.fail killUsage
  else
    match ← signalOptions arguments with
    | (none, rest) => tellSignal rest
    | (some _, []) => Act.fail killUsage
    | (some signal, targets) =>
      let reached ← targets.mapM (sendTo deliver signal)
      if !reached.all id then Act.finish 1
      else if (← get).trapped.isNone then Act.finish 0

/-- The lines that keep the scripts for signals again. -/
def trapLines (traps : List (Nat × Text)) : Text :=
  let sorted := traps.mergeSort fun left right => left.1 ≤ right.1
  sorted.flatMap fun (signal, script) =>
    ("trap -- " : Text) ++ quoted script ++ ' ' :: (Signal.name? signal).getD (Text.ofNat signal) ++
      ['\n']

/-- Keeps a script for signals, or none, until a name is unknown. -/
def keepScript (script : Option Text) : List Text → Act Unit
  | [] => Act.finish 0
  | written :: rest => do
    match Signal.ofText? written with
    | none =>
      Act.change fun shell =>
        { shell.print 2 (("trap: " : Text) ++ written ++ (": bad trap\n" : Text)) with status := 1 }
    | some signal =>
      Act.change fun shell =>
        let others := shell.traps.filter fun (found, _) => found != signal
        { shell with
          traps :=
            match script with
            | some script => (signal, script) :: others
            | none => others }
      keepScript script rest

/-- Keeps scripts for signals, or tells which ones are kept. -/
def keepScripts : OwnCommand := fun arguments => do
  let (_, arguments) ← options [] arguments
  match arguments with
  | [] => Act.print (trapLines (← get).traps)
  | [signal] => keepScript none [signal]
  | script :: signals =>
    if (Text.decimalNumber? script).any fun number => number ≤ Signal.greatest then
      keepScript none (script :: signals)
    else keepScript (if script = ['-'] then none else some script) signals

/-- Waits for a command; `tells` whether it is said that a signal ended it. -/
def waitForOne (tells : Bool) (background : Background) : Act Unit :=
  Act.change fun shell =>
    let later := { shell with
      elapsed := Nat.max shell.elapsed background.ending }.collect fun found =>
        found.ending ≤ Nat.max shell.elapsed background.ending
    let told :=
      match background.signal.bind fun signal => Signal.endings.lookup signal with
      | some text => if tells then later.print 2 (text ++ ['\n']) else later
      | none => later
    { told with
      backgrounds := told.backgrounds.map fun found =>
        if found.number = background.number then { found with signal := none } else found
      status := background.status }

/-- Waits for commands. -/
def waitFor : OwnCommand := fun arguments => do
  let (_, arguments) ← options [] arguments
  if arguments.isEmpty then
    (← get).backgrounds.forM (waitForOne false)
    Act.finish 0
  else
    arguments.forM fun written => do
      let number ← number written
      match (← get).backgrounds.find? fun background => background.number = number with
      | some background => waitForOne true background
      | none => Act.finish 127

end Issuebook.Shell.OwnCommand
