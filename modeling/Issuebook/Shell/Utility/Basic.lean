import Issuebook.Shell.Condition
import Issuebook.Shell.Printing
import Issuebook.Disk.Walk

/-!
# Small programs

Programs that print their arguments, tell what they run in, test a condition, or wait.
-/

namespace Issuebook.Shell.Utility

/-! ## Options -/

/-- The complaint about an option that is not known. -/
def unknownOption (context : Context) (letter : Char) (code : Int := 1) : Trace :=
  .misuse context (("invalid option -- " : Text) ++ inApostrophes [letter]) code

/-- The letters of the options in front and the arguments behind them, or a letter that is not
known. -/
def takeOptions (known : List Char) : List Text → Except Char (List Char × List Text)
  | ['-', '-'] :: rest => .ok ([], rest)
  | ('-' :: letter :: letters) :: rest =>
    match (letter :: letters).find? fun letter => !known.contains letter with
    | some wrong => .error wrong
    | none => (takeOptions known rest).map fun (later, rest) => (letter :: letters ++ later, rest)
  | arguments => .ok ([], arguments)

/-- A program with options of single letters; `code` is the number it ends with at another
one. -/
def withOptions (known : List Char) (run : Context → List Char → List Text → Trace)
    (code : Int := 1) : Utility :=
  fun context arguments =>
    match takeOptions known arguments with
    | .ok (letters, rest) => run context letters rest
    | .error letter => unknownOption context letter code

/-! ## Waiting -/

/-- The seconds in the unit of a time. -/
def units : List (Char × Nat) :=
  [('s', 1), ('m', 60), ('h', 3600), ('d', 86400)]

/-- The millionths of a second in a written time. -/
def timeOf? (written : Text) : Option Nat :=
  let front := Numeral.real written
  let unit : Option Nat :=
    match front.rest with
    | [] => some 1
    | [letter] => units.lookup letter
    | _ => none
  if front.isNegative then none
  else
    match front.value, unit with
    | some ratio, some unit => some (ratio.numerator * 1000000 * unit / ratio.denominator)
    | _, _ => none

/-- Whether a written time has no end. -/
def isEndless (written : Text) : Bool :=
  let name := written.map Char.toLower
  name = ("inf" : Text) || name = ("infinity" : Text)

/-- Waits for the sum of its arguments. -/
def sleep : Utility :=
  withOptions [] fun context _ arguments =>
    let wrong := arguments.filter fun argument => !isEndless argument && (timeOf? argument).isNone
    if arguments.isEmpty then .misuse context "missing operand"
    else if wrong.isEmpty then
      { elapsed := (arguments.filterMap timeOf?).foldl Nat.add 0
        isEndless := arguments.any isEndless }
    else
      let complaints := wrong.map fun argument =>
        context.name ++ (": invalid time interval " : Text) ++ inApostrophes argument
      .complaint (Text.join ['\n'] complaints ++ ("\nTry '" : Text) ++ context.name ++
        (" --help' for more information." : Text)) 1

/-! ## Printing -/

/-- Prints the working directory. -/
def directory : Utility :=
  withOptions ['L', 'P'] fun context letters rest =>
    let resolved :=
      match context.disk.resolve context.directory with
      | .ok path => path
      | .error _ => context.directory
    let logical := (context.environment.get? "PWD").filter fun written =>
      let path := Path.ofText (Bytes.decode written)
      path.isAbsolute &&
        match context.disk.resolve path with
        | .ok path => path = resolved
        | .error _ => false
    let told := (if letters.contains 'L' then logical else none).getD
      (Bytes.encode resolved.toText)
    let warning : Trace :=
      if rest.isEmpty then {} else .refusal context "ignoring non-option arguments" 0
    warning.followedBy (.line told)

/-- The letters of the options in front of what is printed as a line, and what is printed. -/
def takeLineOptions : List Text → List Char × List Text
  | ('-' :: letter :: letters) :: rest =>
    if (letter :: letters).all fun letter => ['n', 'e', 'E'].contains letter then
      let (later, rest) := takeLineOptions rest
      (letter :: letters ++ later, rest)
    else ([], ('-' :: letter :: letters) :: rest)
  | arguments => ([], arguments)

/-- Prints its arguments as a line. -/
def line : Utility := fun _ arguments =>
  let (letters, words) := takeLineOptions arguments
  let text := Text.join [' '] words
  let readsEscapes :=
    ((letters.filter fun letter => letter ≠ 'n').getLast?) = some 'e'
  let (text, stops) := if readsEscapes then Escape.remove .program text else (text, false)
  .printing (if letters.contains 'n' ∨ stops then text else text ++ ['\n'])

/-- Prints its arguments by a format. -/
def format : Utility := fun context arguments =>
  let arguments :=
    match arguments with
    | ['-', '-'] :: rest => rest
    | arguments => arguments
  match arguments with
  | [] => .misuse context "missing operand"
  | written :: rest =>
    let progress := Printing.format .program written rest
    let say (text : Text) : Print := ⟨true, context.name ++ (": " : Text) ++ text ++ ['\n']⟩
    let unused :=
      match progress.arguments with
      | [] => []
      | argument :: _ =>
        if progress.isOver then []
        else [say (("warning: ignoring excess arguments, starting with " : Text) ++
          inApostrophes argument)]
    { prints := progress.complaints.reverse.map say ++ [⟨false, progress.text⟩] ++ unused
      code := if progress.complaints.isEmpty then 0 else 1 }

/-- Prints the same line without an end. -/
def endless : Utility := fun _ arguments =>
  let line := (if arguments.isEmpty then ['y'] else Text.join [' '] arguments) ++ ['\n']
  let count := endlessLength / line.length + 1
  { prints := [⟨false, (List.replicate count line).flatten⟩], isEndless := true }

/-- Prints the values of variables, or all variables. -/
def printVariables : Utility := fun context arguments =>
  if arguments.isEmpty then
    .printing (context.environment.flatMap fun (name, value) => name ++ '=' :: (value ++ ['\n']))
  else
    let values := arguments.map context.environment.get?
    { Trace.printing ((values.filterMap id).flatMap fun value => value ++ ['\n']) with
      code := if values.any Option.isNone then 1 else 0 }

/-- Prints whole numbers from one to another. -/
def sequence : Utility := fun context arguments =>
  let number? (written : Text) : Option Int :=
    match Condition.number written with
    | .ok number => some number
    | .error _ => none
  let print (first step last : Int) : Trace :=
    if step = 0 then
      .misuse context "invalid Zero increment value: '0'"
    else
      let count := if 0 < step then (last - first) / step + 1 else (first - last) / (-step) + 1
      .printing ((List.range count.toNat).flatMap fun (index : Nat) =>
        Text.ofInt (first + index * step) ++ ['\n'])
  match arguments, arguments.mapM number? with
  | [], _ => .misuse context "missing operand"
  | _, some [last] => print 1 1 last
  | _, some [first, last] => print first 1 last
  | _, some [first, step, last] => print first step last
  | _, some (_ :: _ :: _ :: extra :: _) =>
    .misuse context (("extra operand " : Text) ++ inApostrophes (Text.ofInt extra))
  | _, _ =>
    let wrong := (arguments.find? fun argument => (number? argument).isNone).getD []
    .misuse context (("invalid floating point argument: " : Text) ++ inApostrophes wrong)

/-- The last segment of a path, without an ending. -/
def lastSegment (path ending : Text) : Text :=
  let trimmed := Text.trimEndBy (· = '/') path
  let segment :=
    if trimmed.isEmpty then path.take 1 else (Text.splitOn '/' trimmed).getLastD []
  if segment ≠ ending ∧ Text.endsWith segment ending then
    segment.take (segment.length - ending.length)
  else segment

/-- Prints the last segment of a path. -/
def baseName : Utility := fun context arguments =>
  match arguments with
  | [] => .misuse context "missing operand"
  | [path] => .line (lastSegment path [])
  | [path, ending] => .line (lastSegment path ending)
  | _ :: _ :: extra :: _ => .misuse context (("extra operand " : Text) ++ inApostrophes extra)

/-- Prints paths without their last segments. -/
def parentName : Utility := fun context arguments =>
  let parent (path : Text) : Text :=
    let trimmed := Text.trimEndBy (· = '/') path
    if trimmed.isEmpty then (if path.isEmpty then ['.'] else ['/'])
    else
      match Text.cutAtLastChar? '/' trimmed with
      | none => ['.']
      | some (before, _) =>
        let before := Text.trimEndBy (· = '/') before
        if before.isEmpty then ['/'] else before
  if arguments.isEmpty then .misuse context "missing operand"
  else .printing (arguments.flatMap fun path => parent path ++ ['\n'])

/-! ## Testing -/

/-- What a program says about the words of a condition. -/
def conditionText (words : List Text) : ConditionFault → Text
  | .illegalNumber word => ("invalid integer " : Text) ++ inApostrophes word
  | .nothingAfter word => ("missing argument after " : Text) ++ inApostrophes word
  | .notClosed => "')' expected"
  | .unexpected word =>
    match words with
    | [operator, _] => inApostrophes operator ++ (": unary operator expected" : Text)
    | [_, operator, _] => inApostrophes operator ++ (": binary operator expected" : Text)
    | _ => ("extra argument " : Text) ++ inApostrophes word

/-- Tests a condition. -/
def test : Utility := fun context words =>
  match Condition.holds context words with
  | .ok holds => { code := if holds then 0 else 1 }
  | .error fault => .refusal context (conditionText words fault) 2

/-- Tests a condition in brackets. -/
def testInBrackets : Utility := fun context words =>
  if words.getLast? = some [']'] then test context words.dropLast
  else .refusal context "missing ']'" 2

/-- Tells who runs it. -/
def identity : Utility :=
  withOptions ['u', 'g', 'n'] fun _ letters _ =>
    if letters.contains 'n' then .line "root"
    else if letters.isEmpty then .line "uid=0(root) gid=0(root) groups=0(root)"
    else .line "0"

/-- The small programs. -/
def small : Entries Utility :=
  [("true", fun _ _ => {}), ("false", fun _ _ => { code := 1 }), ("sleep", sleep),
   ("pwd", directory), ("echo", line), ("printf", format), ("yes", endless),
   ("printenv", printVariables), ("seq", sequence), ("basename", baseName),
   ("dirname", parentName), ("test", test), ("[", testInBrackets),
   ("whoami", fun _ _ => .line "root"), ("uname", fun _ _ => .line "Linux"), ("id", identity)]

end Issuebook.Shell.Utility
