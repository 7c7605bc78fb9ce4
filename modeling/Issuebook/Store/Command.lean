import Issuebook.Disk.Path
import Issuebook.Number.Binary64
import Issuebook.Text.Basic
import Issuebook.Fault

/-!
# Commands

A command of the store's program: what is asked, and what came of it.
-/

namespace Issuebook

/-- A command to run. -/
structure Request where
  /-- The program and its arguments. -/
  argv : List Text
  /-- The directory to run it in. -/
  cwd : Path
  /-- The directory of the store, which the program is told. -/
  store : Path
  /-- The seconds it may take. -/
  timeout : Option Binary64
  deriving Repr, DecidableEq

/-- What came of a command. -/
structure Completion where
  /-- The program and its arguments. -/
  argv : List Text
  /-- The number it ended with. -/
  code : Int
  /-- What it printed. -/
  output : Text
  /-- What it printed about errors. -/
  errors : Text
  /-- Whether it took too long. -/
  timedOut : Bool
  deriving Repr, DecidableEq, Inhabited

namespace Completion

/-- Whether a command succeeded. -/
def isOk (completion : Completion) : Bool :=
  completion.code == 0 && !completion.timedOut

/-- What a failed command said: its errors, or else its output. -/
def said (completion : Completion) : Text :=
  Text.trim (if completion.errors.isEmpty then completion.output else completion.errors)

/-- The command as one line. -/
def commandLine (completion : Completion) : Text :=
  Text.join [' '] completion.argv

/-- What went wrong with a command. -/
def failureText (completion : Completion) : Text :=
  if completion.timedOut then ("command timed out: " : Text) ++ completion.commandLine
  else
    ("command failed: " : Text) ++ completion.commandLine ++
      (if completion.said.isEmpty then [] else '\n' :: completion.said)

end Completion

/-- What is said when a program is not there. -/
def missingText : List Text → Text
  | [] => "missing required command"
  | program :: _ => ("missing required command: " : Text) ++ program

end Issuebook

/-!
## Endings

How a run of a program ends, and what is made of it. What a program prints has to be UTF-8,
and all its line ends become line feeds. Of a program that takes too long nothing is kept.
-/

namespace Issuebook

/-- How a run of a program ends. -/
inductive Ending where
  /-- The program, or the directory to run it in, is not there. -/
  | absent
  /-- The system refuses to run it. -/
  | refused (refusal : Refusal) (path : Text)
  /-- The system refuses the directory to run it in. -/
  | refusedDirectory (refusal : Refusal) (directory : Path)
  /-- It ends with a number, negative when a signal ended it. -/
  | ended (code : Int) (output errors : List UInt8)
  /-- It takes too long and is stopped. -/
  | overdue
  deriving Repr, DecidableEq

namespace Ending

/-- The number that stands for a program that takes too long. -/
def overdueCode : Int := 124

/-- The text that a program printed. -/
def readPrinted (bytes : List UInt8) : Except Fault Text :=
  match Text.ofUtf8? bytes with
  | some text => .ok (Text.withLineFeeds text)
  | none => .error .notUtf8

/-- What came of a command, none when its program is not there. -/
def completion (argv : List Text) : Ending → Except Fault (Option Completion)
  | .absent => .ok none
  | .refused refusal path => .error (.refused refusal path)
  | .refusedDirectory refusal directory => .error (.refusedDirectory refusal directory.toText)
  | .ended code output errors => do
    let output ← readPrinted output
    let errors ← readPrinted errors
    pure (some ⟨argv, code, output, errors, false⟩)
  | .overdue => .ok (some ⟨argv, overdueCode, [], [], true⟩)

end Ending

end Issuebook
