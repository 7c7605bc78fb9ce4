import Issuebook.Shell.Interpreter
import Issuebook.Store.Command

/-!
# Jobs

A program is looked up, run in its directory, and stopped when it takes longer than it may.
The world it runs in is a small one: the usual directories and a few programs, of which one is
a shell.
-/

namespace Issuebook.Shell

/-- A program to run. -/
structure Job where
  /-- The program and its arguments. -/
  argv : List Text
  /-- The variables of its environment. -/
  environment : Entries Text
  /-- The directory to run it in. -/
  directory : Path
  /-- The seconds it may take. -/
  timeout : Option Binary64
  deriving Repr, DecidableEq

namespace Job

/-- The disk of the small world. -/
def world : Disk :=
  systemDisk Interpreter.names

/-- The number of programs that run inside each other. -/
def programDepth : Nat := 20

/-- The number under which a job runs. -/
def jobNumber : Nat := 1000

/-- Where programs are looked for when the environment does not say it. -/
def usualPlaces : Text := "/bin:/usr/bin"

/-- The longest time that can be waited for, in millionths of a second. -/
def longestTime : Nat := 2147483648000

/-- Whether a text holds the character zero. -/
def hasZero (text : Text) : Bool :=
  text.any fun char => char.val = 0

/-- What the system does not even look at: names and values with the character zero, and names
of variables with an equals sign. -/
def fault? (job : Job) : Option Fault :=
  if job.argv.isEmpty then some .nothingToRun
  else if job.environment.any fun (name, _) => name.contains '=' then some .badVariable
  else if job.argv.any hasZero ∨ job.directory.segments.any hasZero ∨
      job.environment.any fun (name, value) => hasZero name || hasZero value then
    some .zeroInPath
  else none

/-- The millionths of a second in so many seconds, none for a negative number. -/
def micros (seconds : Binary64) : Nat :=
  (seconds.scaled * 1000000).toNat / Power.two 1074

/-- The time that a job may take, in millionths of a second. -/
def limit (job : Job) : Except Fault (Option Nat) :=
  match job.timeout with
  | none => .ok none
  | some .nan => .error .notANumber
  | some (.infinite false) => .error .outOfRange
  | some (.infinite true) => .ok (some 0)
  | some seconds =>
    let time := micros seconds
    if longestTime < time then .error .outOfRange else .ok (some time)

/-- What a job runs in. -/
def context (job : Job) (deadline : Option Nat) : Context where
  name := Bytes.encode (job.argv.headD [])
  environment := job.environment.map fun (name, value) => (Bytes.encode name, Bytes.encode value)
  directory := job.directory
  disk := world
  number := jobNumber
  deadline := deadline

/-- How a program ends that was found. -/
def endingOf (job : Job) (program : Utility) : Except Fault Ending := do
  let limit ← job.limit
  let trace := program (job.context limit) (job.argv.tail.map Bytes.encode)
  let elapsed := trace.elapsed + Runner.programTime
  let isOverdue := trace.isEndless || limit.any fun limit => limit ≤ elapsed
  if isOverdue then pure .overdue
  else
    pure (.ended trace.code (Bytes.ofText (trace.printed false))
      (Bytes.ofText (trace.printed true)))

/-- How a job ends whose directory is there. -/
def endingThere (job : Job) : Except Fault Ending :=
  let name := job.argv.headD []
  let places := (job.environment.get? "PATH").getD usualPlaces
  match Search.find? world job.directory (Bytes.encode places) (Bytes.encode name) with
  | .error .absent => .ok .absent
  | .error refusal => .ok (.refused refusal name)
  | .ok program =>
    match Interpreter.programs programDepth program with
    | some utility => job.endingOf utility
    | none => .ok .absent

/-- How a job ends. -/
def ending (job : Job) : Except Fault Ending :=
  match world.walk job.directory with
  | .error .absent => .ok .absent
  | .error refusal => .ok (.refusedDirectory refusal job.directory)
  | .ok (.free _) => .ok .absent
  | .ok (.there _ .directory) => job.endingThere
  | .ok (.there _ _) => .ok (.refusedDirectory .notDirectory job.directory)

/-- What came of a job, none when its program is not there. -/
def completion (job : Job) : Except Fault (Option Completion) :=
  match job.fault? with
  | some fault => .error fault
  | none => do (← job.ending).completion job.argv

end Job

end Issuebook.Shell
