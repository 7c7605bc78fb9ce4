import Issuebook.Shell.Field
import Issuebook.Shell.State
import Issuebook.Text.Table
import Issuebook.Shell.Condition
import Issuebook.Shell.Printing

/-!
# The shell's own commands

How the commands that a shell runs itself read their arguments: options in front, numbers and
names, each with what is said when it is none.
-/

namespace Issuebook.Shell

/-- A command of the shell itself: what it does with its arguments. -/
abbrev OwnCommand := List Text → Act Unit

namespace OwnCommand

/-- The letters of the options in front and the arguments behind them. -/
def options (allowed : List Char) : List Text → Act (List Char × List Text)
  | ['-', '-'] :: rest => pure ([], rest)
  | ('-' :: letter :: letters) :: rest => do
    match (letter :: letters).find? fun letter => !allowed.contains letter with
    | some wrong => Act.fail (("Illegal option -" : Text) ++ [wrong])
    | none =>
      let (later, arguments) ← options allowed rest
      pure (letter :: letters ++ later, arguments)
  | arguments => pure ([], arguments)

/-- The greatest number that an argument can be. -/
def numberLimit : Nat := 2147483647

/-- The number that an argument writes, if it is one. -/
def number? (written : Text) : Option Nat :=
  (Text.decimalNumber? written).filter fun number => number ≤ numberLimit

/-- The number that an argument writes. -/
def number (written : Text) : Act Nat :=
  match number? written with
  | some number => pure number
  | none => Act.fail (("Illegal number: " : Text) ++ written)

/-- Checks that an argument is the name of a variable. -/
def checkName (name : Text) : Act Unit :=
  if isName name then pure () else Act.fail (name ++ (": bad variable name" : Text))

/-- A value between quotes, so that it can be read again. -/
def quotedFrom : (fuel : Nat) → Text → Text
  | 0, _ => []
  | fuel + 1, text =>
    let plain := text.takeWhile (· ≠ '\'')
    let rest := text.drop plain.length
    let quotes := rest.takeWhile (· = '\'')
    let behind := rest.drop quotes.length
    ('\'' :: plain ++ ['\'']) ++
      (if quotes.isEmpty then [] else '"' :: quotes ++ ['"']) ++
      if behind.isEmpty then [] else quotedFrom fuel behind

/-- A value between quotes, so that it can be read again. -/
def quoted (text : Text) : Text :=
  quotedFrom (text.length + 1) text

/-- The lines that set variables again, in order of their names. -/
def settingLines (start : Text) (bindings : Entries Variable) : Text :=
  let sorted := bindings.mergeSort fun left right => Text.le left.1 right.1
  sorted.flatMap fun (name, found) =>
    start ++ name ++
      (match found.value with
      | some value => '=' :: quoted value
      | none => []) ++ ['\n']

end OwnCommand

end Issuebook.Shell

/-!
## Own commands that print and test

Arguments are printed as a line or by a format, and conditions are tested.
-/

namespace Issuebook.Shell.OwnCommand

/-- The arguments as a line, up to an escape that stops it. -/
def lineOf (endsLine : Bool) : List Text → Text
  | [] => if endsLine then ['\n'] else []
  | argument :: arguments =>
    match Escape.remove .shell argument with
    | (text, true) => text
    | (text, false) =>
      text ++ (if arguments.isEmpty then [] else [' ']) ++ lineOf endsLine arguments

/-- Prints the arguments as a line. -/
def printLine : OwnCommand := fun arguments =>
  match arguments with
  | ['-', 'n'] :: rest => Act.print (lineOf false rest)
  | arguments => Act.print (lineOf true arguments)

/-- Prints arguments by a format. -/
def printFormat : OwnCommand := fun arguments => do
  let (_, arguments) ← options [] arguments
  match arguments with
  | [] => Act.fail "usage: printf format [arg ...]"
  | format :: rest =>
    let progress := Printing.format .shell format rest
    progress.complaints.reverse.forM fun complaint => Act.complain complaint 1
    Act.print progress.text
    if (← get).status = 0 then
      Act.finish (if progress.isBroken then 2 else if progress.complaints.isEmpty then 0 else 1)

/-- Tests a condition. -/
def test : OwnCommand := fun words => do
  match Condition.holds ((← get).context []) words with
  | .ok holds => Act.finish (if holds then 0 else 1)
  | .error fault => Act.fail fault.message

/-- Tests a condition in brackets. -/
def testInBrackets : OwnCommand := fun words =>
  if words.getLast? = some [']'] then test words.dropLast else Act.fail "missing ]"

end Issuebook.Shell.OwnCommand
