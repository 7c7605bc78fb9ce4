import Issuebook.Shell.Own.Signals

/-!
# Subshells

A part of a script that runs in a shell of its own leaves what it printed, the files it changed
and the time it took, and nothing else. At the end of a shell the script runs that is kept for
it.
-/

namespace Issuebook.Shell

/-- How the text of a script runs in a shell. -/
abbrev ScriptRunner := Text → Act Unit

namespace Subshell

/-- The time that it takes to start a command which is not waited for. -/
def startTime : Nat := 500

/-- The time of a command that never ends. -/
def never : Nat := 1000000000000000

/-- Runs the script that is kept for a signal; the number of the last command stays. -/
def runTrap (script : ScriptRunner) (text : Text) : Act Unit := do
  let shell ← get
  set { shell with trapped := some shell.status, isTested := false }
  let flow ← Act.settle (script text)
  Act.change fun after =>
    { after with trapped := shell.trapped, isTested := shell.isTested }
  if flow.isNone then Act.finish shell.status
  Act.resume flow

/-- Takes a signal to the shell. -/
def deliver (script : ScriptRunner) (signal : Nat) : Act Unit := do
  if signal = 0 then pure ()
  else
    let shell ← get
    match if signal = Signal.kill then none else shell.traps.lookup signal with
    | some [] => pure ()
    | some text => runTrap script text
    | none =>
      if Signal.isHarmless signal then pure ()
      else if Signal.stops signal then throw .endless
      else throw (.signal signal)

/-- Runs the script that is kept for the end of the shell. -/
def runExitTrap (script : ScriptRunner) : Act Unit := do
  match (← get).traps.lookup 0 with
  | some (char :: text) =>
    Act.change fun shell =>
      { shell with traps := shell.traps.filter fun (signal, _) => signal != 0 }
    match ← Act.settle (runTrap script (char :: text)) with
    | some (.signal number) => throw (.signal number)
    | some .endless => throw .endless
    | _ => pure ()
  | _ => pure ()

/-- Runs a shell to its end. -/
def toEnd (script : ScriptRunner) (body : Act Unit) : Act Unit := do
  match ← Act.settle body with
  | some (.signal number) => throw (.signal number)
  | some .endless => throw .endless
  | _ => runExitTrap script

/-- The shell that runs a part of a script. -/
def enter (shell : State) : State :=
  { shell with
    traps := shell.traps.filter fun (_, text) => text.isEmpty
    saved := []
    backgrounds := [] }

/-- The shell behind a part of its script: what the part leaves. -/
def leave (before after : State) : State :=
  { before with
    printed := after.printed
    inputs := after.inputs
    nextChannel := after.nextChannel
    disk := after.disk
    status := after.status % 256
    backgrounds := before.backgrounds ++ after.backgrounds }.pass (after.elapsed - before.elapsed)

/-- Runs a part of a script in a shell of its own. A signal to the shell reaches it behind the
part. -/
def run (script : ScriptRunner) (body : Act Unit) : Act Unit := do
  let before ← get
  set (enter before)
  let flow ← Act.settle (toEnd script body)
  Act.change (leave before)
  match flow with
  | some (.signal number) => deliver script number
  | flow => Act.resume flow

/-- Waits for all that still runs. -/
def settle (shell : State) : State :=
  let ending := shell.backgrounds.foldl
    (fun ending background => Nat.max ending background.ending) shell.elapsed
  { { shell with elapsed := ending }.collect fun _ => true with backgrounds := [] }

/-- Runs a part of a script in a shell of its own, and gives what it prints and what follows. -/
def captureAll (script : ScriptRunner) (body : Act Unit) : Act (Text × Option Flow) := do
  let shell ← get
  let (channel, opened) := shell.openOutput
  set (opened.lead 1 (some (.output channel)))
  let flow ← Act.settle <| run script do
    let flow ← Act.settle body
    Act.change settle
    Act.resume flow
  let (text, after) := (← get).takePrinted channel
  set { after with streams := shell.streams }
  pure (text, flow)

/-- Runs a part of a script in a shell of its own, and gives what it prints. -/
def capture (script : ScriptRunner) (body : Act Unit) : Act Text := do
  let (text, flow) ← captureAll script body
  Act.resume flow
  pure text

/-- The output of a script inside a word: without line ends at its end. -/
def output (script : ScriptRunner) (text : Text) : Act Text := do
  let shell ← get
  set { shell with isTested := false }
  let printed ← capture script (script text)
  Act.change fun after =>
    { after with
      isTested := shell.isTested, outputStatus := after.status, status := shell.status }
  pure (Text.trimEndBy (· = '\n') (printed.filter fun char => char.val ≠ 0))

/-- Runs a command without waiting for it. -/
def background (script : ScriptRunner) (body : Act Unit) : Act Unit := do
  let before ← get
  let number := (before.lastBackground.getD (before.number + 1)) + 1
  set { (enter before).lead 0 (some .nowhere) with printed := [] }
  let flow ← Act.settle (toEnd script body)
  let after := settle (← get)
  let ending := if flow = some .endless then never else after.elapsed + startTime
  let started : Background :=
    { number := number, ending := ending, status := after.status % 256, printed := after.printed }
  set
    { before with
      disk := after.disk
      inputs := after.inputs
      nextChannel := after.nextChannel
      lastBackground := some number
      backgrounds := before.backgrounds ++ [started]
      status := 0 }
  match flow with
  | some (.signal signal) => deliver script signal
  | _ => pure ()

end Subshell

end Issuebook.Shell
