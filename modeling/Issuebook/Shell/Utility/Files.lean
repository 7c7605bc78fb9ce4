import Issuebook.Disk.Changes
import Issuebook.Shell.Glob
import Issuebook.Shell.Utility.Basic
import Issuebook.Shell.Utility.Filters

/-!
# Programs for files

Programs that list, make and remove files and directories, and one that copies its input into
files.
-/

namespace Issuebook.Shell.Utility

/-- What a program did to one of its files: the disk that is left, or what is said. -/
abbrev Step := Except Text Disk

/-- A program that does something to each of its files. -/
def overDisk (names : List Text) (step : Disk → Text → Step)
    (lacking : Text := "missing operand") : Context → Trace := fun context =>
  if names.isEmpty then .misuse context lacking
  else
    let (disk, prints) := names.foldl (fun (disk, prints) name =>
      match step disk name with
      | .ok disk => (disk, prints)
      | .error text =>
        (disk, prints ++ [⟨true, context.name ++ (": " : Text) ++ text ++ ['\n']⟩]))
      (context.disk, ([] : List Print))
    { prints := prints, code := if prints.isEmpty then 0 else 1, disk := some disk }

/-- What is said about a file that the system refuses. -/
def refused (action name : Text) (refusal : Refusal) : Text :=
  action ++ ' ' :: inApostrophes name ++ (": " : Text) ++ refusal.reason

/-- Makes files that are not there. -/
def touch : Utility :=
  withOptions [] fun context _ names =>
    overDisk names (fun disk name =>
      match disk.walk (context.path name) with
      | .ok (.there _ _) => .ok disk
      | .ok (.free place) => .ok (disk.put place (.file (.text [])))
      | .error refusal => .error (refused "cannot touch" name refusal))
      "missing file operand" context

/-- Makes directories. -/
def makeDirectory : Utility :=
  withOptions ['p'] fun context letters names =>
    overDisk names (fun disk name =>
      let path := context.path name
      if letters.contains 'p' then
        match disk.makeDirectories path with
        | (.ok (), disk) => .ok disk
        | (.error (.refused refusal _), _) =>
          .error (refused "cannot create directory" name refusal)
        | (.error _, disk) => .ok disk
      else
        match disk.makeIn path.parent path.name with
        | .ok disk => .ok disk
        | .error refusal => .error (refused "cannot create directory" name refusal))
      "missing operand" context

/-- Removes directories that are empty. -/
def removeDirectory : Utility :=
  withOptions [] fun context _ names =>
    overDisk names (fun disk name =>
      let path := context.path name
      let refuse (text : Text) : Step :=
        .error (("failed to remove " : Text) ++ inApostrophes name ++ (": " : Text) ++ text)
      match disk.walk path false with
      | .ok (.there place .directory) =>
        if (disk.pathsBelow path).isEmpty then .ok (disk.dropTree place)
        else refuse "Directory not empty"
      | .ok (.there _ _) => refuse Refusal.notDirectory.reason
      | .ok (.free _) => refuse Refusal.absent.reason
      | .error refusal => refuse refusal.reason) "missing operand" context

/-- Removes files. -/
def remove : Utility :=
  withOptions ['f', 'r', 'R'] fun context letters names =>
    if names.isEmpty ∧ letters.contains 'f' then {}
    else
      overDisk names (fun disk name =>
        let refuse (refusal : Refusal) : Step :=
          if letters.contains 'f' ∧ (refusal = .absent ∨ refusal = .notDirectory) then .ok disk
          else .error (refused "cannot remove" name refusal)
        match disk.walk (context.path name) false with
        | .ok (.there place .directory) =>
          if letters.contains 'r' ∨ letters.contains 'R' then .ok (disk.dropTree place)
          else refuse .isDirectory
        | .ok (.there place _) => .ok (disk.dropTree place)
        | .ok (.free _) => refuse .absent
        | .error refusal => refuse refusal) "missing operand" context

/-- Lists files and directories. -/
def list : Utility :=
  withOptions ['1', 'a', 'A', 'd'] (fun context letters names =>
    let names := if names.isEmpty then [['.']] else names
    let sorted := names.mergeSort Text.le
    let look (name : Text) : Except Refusal Node :=
      match context.disk.walk (context.path name) with
      | .ok (.there _ node) => .ok node
      | .ok (.free _) => .error .absent
      | .error refusal => .error refusal
    let complaints := names.filterMap fun name =>
      match look name with
      | .ok _ => none
      | .error refusal =>
        some (⟨true, context.name ++ (": " : Text) ++ refused "cannot access" name refusal ++
          ['\n']⟩ : Print)
    let isDirectory (name : Text) : Bool :=
      !letters.contains 'd' &&
        match look name with
        | .ok .directory => true
        | _ => false
    let isThere (name : Text) : Bool :=
      match look name with
      | .ok _ => true
      | .error _ => false
    let files := sorted.filter fun name => isThere name && !isDirectory name
    let directories := sorted.filter isDirectory
    let inside (name : Text) : Text :=
      let found := (namesIn context.disk (context.path name)).mergeSort Text.le
      let shown := found.filter fun entry =>
        letters.contains 'a' || (entry.head? ≠ some '.') ||
          (letters.contains 'A' && entry ≠ ['.'] && entry ≠ Path.up)
      ofLines shown
    let sections := directories.map fun name =>
      (if names.length = 1 then [] else name ++ [':', '\n']) ++ inside name
    let blocks := (if files.isEmpty then [] else [ofLines files]) ++ sections
    { prints := complaints ++ [⟨false, Text.join ['\n'] blocks⟩]
      code := if complaints.isEmpty then 0 else 2 }) 2

/-- Copies its input into files and prints it. -/
def tee : Utility :=
  withOptions ['a'] fun context letters names =>
    let text := context.input
    let (disk, prints) := names.foldl (fun (disk, prints) name =>
      let path := context.path name
      let before :=
        match disk.readContent path with
        | .ok content => if letters.contains 'a' then content.toBytes else []
        | .error _ => []
      let node : Node := .file (.ofBytes (before ++ Bytes.ofText text))
      let refuse (refusal : Refusal) : Disk × List Print :=
        (disk, prints ++
          [⟨true, context.name ++ (": " : Text) ++ shellName name ++ (": " : Text) ++
            refusal.reason ++ ['\n']⟩])
      match disk.walk path with
      | .ok (.there place (.file _)) =>
        if isDevice place then (disk, prints) else (disk.put place node, prints)
      | .ok (.free place) => (disk.put place node, prints)
      | .ok (.there _ _) => refuse .isDirectory
      | .error refusal => refuse refusal) (context.disk, ([] : List Print))
    { prints := prints ++ [⟨false, text⟩], code := if prints.isEmpty then 0 else 1
      disk := some disk, input := some [] }

/-- The programs for files. -/
def forFiles : Entries Utility :=
  [("touch", touch), ("mkdir", makeDirectory), ("rmdir", removeDirectory), ("rm", remove),
   ("ls", list), ("tee", tee)]

end Issuebook.Shell.Utility

/-!
## Calculating with words

A program whose arguments are the words of a calculation: numbers and texts with operators
between them. A text is false when it is empty or zero.
-/

namespace Issuebook.Shell.Utility.Calculation

/-- What is read of a calculation, and the words behind it; or what is said. -/
abbrev Reading := Except Text (Text × List Text)

/-- Whether a text counts as false. -/
def isFalse (text : Text) : Bool :=
  text.isEmpty ||
    match text with
    | '-' :: digits => !digits.isEmpty && digits.all (· = '0')
    | digits => digits.all (· = '0')

/-- The whole number that a text writes. -/
def number? (text : Text) : Option Int :=
  let (isNegative, digits) :=
    match text with
    | '-' :: digits => (true, digits)
    | digits => (false, digits)
  if digits.isEmpty ∨ !digits.all Char.isDigit then none
  else
    let size : Int := Text.digitsNumber digits
    some (if isNegative then -size else size)

/-- The text for a truth value. -/
def truth (holds : Bool) : Text :=
  if holds then ['1'] else ['0']

/-- The operators of each strength, the weakest first. -/
def levels : List (List Text) :=
  [["|"], ["&"], ["=", "==", "!=", "<", "<=", ">", ">="], ["+", "-"], ["*", "/", "%"]]

/-- The result of an operator between numbers. -/
def calculate (operator : Text) (left right : Text) : Except Text Text :=
  match number? left, number? right with
  | some left, some right =>
    match String.ofList operator with
    | "+" => .ok (Text.ofInt (left + right))
    | "-" => .ok (Text.ofInt (left - right))
    | "*" => .ok (Text.ofInt (left * right))
    | "/" => if right = 0 then .error "division by zero" else .ok (Text.ofInt (left.tdiv right))
    | _ => if right = 0 then .error "division by zero" else .ok (Text.ofInt (left.tmod right))
  | _, _ => .error "non-integer argument"

/-- The result of a comparison: of numbers when both are, otherwise of texts. -/
def compare (operator : Text) (left right : Text) : Text :=
  let (isLess, isSame) :=
    match number? left, number? right with
    | some left, some right => (decide (left < right), decide (left = right))
    | _, _ => (left ≠ right && Text.le left right, decide (left = right))
  truth <|
    match String.ofList operator with
    | "=" | "==" => isSame
    | "!=" => !isSame
    | "<" => isLess
    | "<=" => isLess || isSame
    | ">" => !(isLess || isSame)
    | _ => !isLess

/-- The result of an operator. -/
def apply (operator left right : Text) : Except Text Text :=
  match operator with
  | ['|'] =>
    .ok (if !isFalse left then left else if !isFalse right then right else ['0'])
  | ['&'] => .ok (if isFalse left ∨ isFalse right then ['0'] else left)
  | operator =>
    if ["+", "-", "*", "/", "%"].any fun (sign : String) => sign.toList = operator then
      calculate operator left right
    else .ok (compare operator left right)

/-- What is said where a word is missing. -/
def missing (before : Text) : Text :=
  ("syntax error: missing argument after " : Text) ++ inApostrophes before

mutual

/-- Reads operators of some strengths with their words. -/
def readLevel : (fuel : Nat) → List (List Text) → (before : Text) → List Text → Reading
  | 0, _, before, _ => .error (missing before)
  | fuel + 1, [], before, words => readWord fuel before words
  | fuel + 1, operators :: stronger, before, words => do
    let (left, rest) ← readLevel fuel stronger before words
    readMore fuel operators stronger left rest

/-- Reads the operators of one strength behind a word. -/
def readMore : (fuel : Nat) → List Text → List (List Text) → Text → List Text → Reading
  | 0, _, _, left, words => .ok (left, words)
  | _, _, _, left, [] => .ok (left, [])
  | fuel + 1, operators, stronger, left, operator :: rest =>
    if operators.contains operator then do
      let (right, rest) ← readLevel fuel stronger operator rest
      let result ← apply operator left right
      readMore fuel operators stronger result rest
    else .ok (left, operator :: rest)

/-- Reads one word, or a calculation in parentheses. -/
def readWord : (fuel : Nat) → (before : Text) → List Text → Reading
  | 0, before, _ => .error (missing before)
  | _, before, [] => .error (missing before)
  | fuel + 1, _, ['('] :: rest => do
    let (result, rest) ← readLevel fuel levels ['('] rest
    match rest with
    | [')'] :: rest => pure (result, rest)
    | word :: _ =>
      .error (("syntax error: expecting ')' instead of " : Text) ++ inApostrophes word)
    | [] => .error (("syntax error: expecting ')' after " : Text) ++ inApostrophes result)
  | _, _, word :: rest =>
    match rest with
    | text :: behind =>
      if word = ("length" : Text) then .ok (Text.ofNat text.length, behind)
      else .ok (word, rest)
    | [] => .ok (word, [])

end

/-- Calculates with the words of its arguments. -/
def utility : Utility := fun context words =>
  if words.isEmpty then .misuse context "missing operand" 2
  else
    match readLevel (10 * words.length + 20) levels [] words with
    | .error text => .refusal context text 2
    | .ok (_, word :: _) =>
      .refusal context (("syntax error: unexpected argument " : Text) ++ inApostrophes word) 2
    | .ok (result, []) => { Trace.line result with code := if isFalse result then 1 else 0 }

end Issuebook.Shell.Utility.Calculation
