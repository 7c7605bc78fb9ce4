import Issuebook.Shell.Glob
import Issuebook.Shell.Utility.Basic

/-!
# Filters

Programs that read files or their input and print some of it in another form.
-/

namespace Issuebook.Shell.Utility

/-- What is read of a file, or what is said about it. -/
def readFile (context : Context) (name : Text) : Except Text Text :=
  if name = ['-'] ∨ name = ("/dev/stdin" : Text) then .ok context.input
  else
    match context.disk.readContent (context.path name) with
    | .ok content => .ok (Bytes.toText content.toBytes)
    | .error (.refused refusal _) => .error refusal.reason
    | .error _ => .error Refusal.absent.reason

/-- What most programs say about a file that they cannot read. -/
def unread (name reason : Text) : Text :=
  shellName name ++ (": " : Text) ++ reason

/-- What some programs say about a file that they cannot open. -/
def unopened (name reason : Text) : Text :=
  ("cannot open " : Text) ++ inApostrophes name ++ (" for reading: " : Text) ++ reason

/-- A program that prints what it makes of each of its files, or of its input; `refuse` tells
what is said about a file that it cannot read. -/
def overFiles (names : List Text) (print : Text → Text) (refuse : Text → Text → Text := unread) :
    Context → Trace := fun context =>
  let names := if names.isEmpty then [['-']] else names
  let traces := names.map fun name =>
    match readFile context name with
    | .ok text => Trace.printing (print text)
    | .error reason => .refusal context (refuse name reason) 1
  (traces.foldl Trace.followedBy {}).reading

/-- The lines of a text without their ends, and whether the last one has an end. -/
def lines (text : Text) : List Text × Bool :=
  let pieces := Text.splitOn '\n' text
  if pieces.getLast? = some [] then (pieces.dropLast, true) else (pieces, false)

/-- The text of lines. -/
def ofLines (lines : List Text) : Text :=
  lines.flatMap fun line => line ++ ['\n']

/-- The text of lines of which the last one may have no end. -/
def ofOpenLines (lines : List Text) (isWhole : Bool) : Text :=
  if isWhole then ofLines lines else (ofLines lines).dropLast

/-- Prints files one after the other. -/
def cat : Utility :=
  withOptions ['n', 'u'] fun context letters names =>
    overFiles names (fun text =>
      if letters.contains 'n' then
        let (found, isWhole) := lines text
        ofOpenLines (found.zipIdx.map fun (line, index) =>
          Printing.fill [] 6 false [] (Text.ofNat (index + 1)) ++ '\t' :: line) isWhole
      else text) unread context

/-- The number of lines or characters that options in front ask for; whether characters are
meant; and the arguments behind them. -/
def takeAmount (lines : Int) (isBytes : Bool) :
    (fuel : Nat) → List Text → Option (Int × Bool × List Text)
  | 0, rest => some (lines, isBytes, rest)
  | fuel + 1, arguments =>
    let number? (written : Text) : Option Int :=
      match Condition.number written with
      | .ok number => if written.head? = some '+' then some (-number) else some number
      | .error _ => none
    match arguments with
    | ['-', 'n'] :: count :: rest =>
      (number? count).bind fun count => takeAmount count false fuel rest
    | ['-', 'c'] :: count :: rest =>
      (number? count).bind fun count => takeAmount count true fuel rest
    | ('-' :: 'n' :: count) :: rest =>
      (number? count).bind fun count => takeAmount count false fuel rest
    | ('-' :: 'c' :: count) :: rest =>
      (number? count).bind fun count => takeAmount count true fuel rest
    | ('-' :: letter :: digits) :: rest =>
      if letter.isDigit then
        (number? (letter :: digits)).bind fun count => takeAmount count false fuel rest
      else none
    | rest => some (lines, isBytes, rest)

/-- Prints the beginning of its input. -/
def head : Utility := fun context arguments =>
  match takeAmount 10 false (arguments.length + 1) arguments with
  | none => unknownOption context (((arguments.headD []).drop 1).headD '-')
  | some (count, isBytes, names) =>
    overFiles names (fun text =>
      let keep (length : Nat) : Nat := if count < 0 then length - count.natAbs else count.toNat
      if isBytes then text.take (keep text.length)
      else
        let (found, isWhole) := lines text
        let kept := keep found.length
        ofOpenLines (found.take kept) (isWhole || kept < found.length)) unopened context

/-- Prints the end of its input. -/
def tail : Utility := fun context arguments =>
  match takeAmount 10 false (arguments.length + 1) arguments with
  | none => unknownOption context (((arguments.headD []).drop 1).headD '-')
  | some (count, isBytes, names) =>
    overFiles names (fun text =>
      let skip (length : Nat) : Nat :=
        if count < 0 then count.natAbs - 1 else length - count.toNat
      if isBytes then text.drop (skip text.length)
      else
        let (found, isWhole) := lines text
        ofOpenLines (found.drop (skip found.length)) isWhole) unopened context

/-- The number of words of a text. -/
def wordCount (text : Text) : Nat :=
  let rec count (inWord : Bool) : Text → Nat
    | [] => 0
    | char :: rest =>
      if Numeral.isSpace char then count false rest
      else (if inWord then 0 else 1) + count true rest
  count false text

/-- Counts the lines, words and characters of its input. -/
def count : Utility :=
  withOptions ['l', 'w', 'c', 'm'] fun context letters names =>
    let chosen (letter : Char) : Bool := letters.isEmpty || letters.contains letter
    let isOne := letters.eraseDups.length = 1
    overFiles (names.take 1) (fun text =>
      let counts :=
        (if chosen 'l' then [text.countP (· = '\n')] else []) ++
        (if chosen 'w' then [wordCount text] else []) ++
        (if chosen 'c' ∨ letters.contains 'm' then [text.length] else [])
      let width := if isOne then 0 else if names.isEmpty then 7 else (Text.ofNat text.length).length
      Text.join [' ']
          (counts.map fun count => Printing.fill [] width false [] (Text.ofNat count)) ++
        (match names with
        | name :: _ => ' ' :: name
        | [] => []) ++ ['\n']) unread context

/-- The characters that a set names. -/
def charSet : (fuel : Nat) → Text → Text
  | 0, _ => []
  | _, [] => []
  | fuel + 1, '\\' :: rest =>
    match Escape.ofFormat .shell rest with
    | (.text [_, char], rest) => char :: charSet fuel rest
    | (.text text, rest) => text ++ charSet fuel rest
    | (_, rest) => charSet fuel rest
  | fuel + 1, '[' :: ':' :: rest =>
    match Text.cutAt? [':', ']'] rest with
    | some (name, rest) =>
      (((Glob.classes.lookup name).getD []).flatMap fun span =>
        (List.range (span.last.toNat + 1 - span.first.toNat)).map fun index =>
          Char.ofNat (span.first.toNat + index)) ++ charSet fuel rest
    | none => '[' :: charSet fuel (':' :: rest)
  | fuel + 1, first :: '-' :: last :: rest =>
    ((List.range (last.toNat + 1 - first.toNat)).map fun index =>
      Char.ofNat (first.toNat + index)) ++ charSet fuel rest
  | fuel + 1, char :: rest => char :: charSet fuel rest

/-- Drops the repetitions of characters of a set. -/
def squeeze (set : Text) : Text → Text
  | first :: second :: rest =>
    if first = second ∧ set.contains first then squeeze set (second :: rest)
    else first :: squeeze set (second :: rest)
  | text => text

/-- Turns characters into others, or drops them. -/
def translate : Utility :=
  withOptions ['d', 's', 'c', 'C'] fun context letters sets =>
    let read (set : Text) : Text := charSet (set.length + 1) set
    let isOthers := letters.contains 'c' || letters.contains 'C'
    match sets.map read with
    | [] => .misuse context "missing operand"
    | first :: rest =>
      let isMeant (char : Char) : Bool := first.contains char != isOthers
      let second := rest.headD []
      if rest.isEmpty ∧ !letters.contains 'd' ∧ !letters.contains 's' then
        .misuse context (("missing operand after " : Text) ++ inApostrophes (sets.headD []) ++
          ("\nTwo strings must be given when translating." : Text))
      else
        let text := context.input
        let kept := if letters.contains 'd' then text.filter fun char => !isMeant char else text
        let turned :=
          if letters.contains 'd' ∨ rest.isEmpty then kept
          else kept.map fun char =>
            if isMeant char then
              match if isOthers then none else first.idxOf? char with
              | some index => second.getD index (second.getLastD char)
              | none => second.getLastD char
            else char
        let squeezed :=
          if letters.contains 's' then squeeze (if rest.isEmpty then first else second) turned
          else turned
        (Trace.printing squeezed).reading

/-- The number at the front of a line, with as many decimal places as are compared. -/
def lineNumber (line : Text) : Int :=
  let front := Numeral.real line
  let ratio := front.value.getD ⟨0, 1⟩
  let size : Int := (ratio.numerator * 1000000000 / ratio.denominator : Nat)
  if front.isNegative then -size else size

/-- Sorts lines. -/
def sort : Utility :=
  withOptions ['n', 'r', 'u'] fun context letters names =>
    let names := if names.isEmpty then [['-']] else names
    match names.mapM (readFile context) with
    | .error reason =>
      .refusal context (("cannot read: " : Text) ++ shellName (names.headD []) ++ (": " : Text) ++
        reason) 2
    | .ok texts =>
      let found := texts.flatMap fun text => (lines text).1
      let le (left right : Text) : Bool :=
        if letters.contains 'n' then
          lineNumber left < lineNumber right ||
            (lineNumber left = lineNumber right && Text.le left right)
        else Text.le left right
      let sorted := found.mergeSort le
      let sorted := if letters.contains 'r' then sorted.reverse else sorted
      let same (left right : Text) : Bool :=
        if letters.contains 'n' then lineNumber left = lineNumber right else left = right
      let kept :=
        if letters.contains 'u' then (sorted.splitBy same).filterMap List.head? else sorted
      (Trace.printing (ofLines kept)).reading

/-- Drops lines that repeat the one before, or counts them. -/
def unique : Utility :=
  withOptions ['c', 'd', 'u'] fun context letters names =>
    overFiles (names.take 1) (fun text =>
      let groups := (lines text).1.splitBy fun left right => left = right
      let groups :=
        if letters.contains 'd' then groups.filter fun group => 1 < group.length
        else if letters.contains 'u' then groups.filter fun group => group.length = 1
        else groups
      ofLines (groups.map fun group =>
        (if letters.contains 'c' then
          Printing.fill [] 7 false [] (Text.ofNat group.length) ++ [' '] else []) ++
        group.headD [])) unread context

/-- Prints lines backwards. -/
def reverse : Utility :=
  withOptions [] fun context _ names =>
    overFiles names (fun text =>
      let (found, isWhole) := lines text
      ofOpenLines (found.map List.reverse) isWhole) unread context

/-- The positions that a list of ranges names. -/
def isListed (ranges : Text) (position : Nat) : Bool :=
  (Text.splitOn ',' ranges).any fun range =>
    match Text.cutAtChar? '-' range with
    | none => Text.decimalNumber? range = some position
    | some (first, last) =>
      (Text.decimalNumber? first).getD 1 ≤ position &&
        ((Text.decimalNumber? last).map fun last => decide (position ≤ last)).getD true

/-- How lines are cut: at a character or everywhere, and what is kept. -/
structure Cut where
  /-- Whether characters are counted, not fields. -/
  isByChars : Bool := false
  /-- The character between fields. -/
  mark : Char := '\t'
  /-- The positions that are kept. -/
  ranges : Option Text := none
  /-- The files. -/
  names : List Text := []

/-- Reads how lines are cut. -/
def Cut.read : (fuel : Nat) → Cut → List Text → Cut
  | 0, cut, _ => cut
  | _, cut, [] => cut
  | fuel + 1, cut, ['-', 'd'] :: mark :: rest =>
    Cut.read fuel { cut with mark := mark.headD '\t' } rest
  | fuel + 1, cut, ['-', 'f'] :: ranges :: rest => Cut.read fuel { cut with ranges := ranges } rest
  | fuel + 1, cut, ['-', 'c'] :: ranges :: rest =>
    Cut.read fuel { cut with ranges := ranges, isByChars := true } rest
  | fuel + 1, cut, ('-' :: 'd' :: mark :: _) :: rest => Cut.read fuel { cut with mark := mark } rest
  | fuel + 1, cut, ('-' :: 'f' :: ranges) :: rest =>
    Cut.read fuel { cut with ranges := ranges } rest
  | fuel + 1, cut, ('-' :: 'c' :: ranges) :: rest =>
    Cut.read fuel { cut with ranges := ranges, isByChars := true } rest
  | fuel + 1, cut, name :: rest => Cut.read fuel { cut with names := cut.names ++ [name] } rest

/-- Keeps parts of lines. -/
def cut : Utility := fun context arguments =>
  let cut := Cut.read (arguments.length + 1) {} arguments
  match cut.ranges with
  | none =>
    .misuse context "you must specify a list of bytes, characters, or fields"
  | some ranges =>
    let keep {α : Type} (pieces : List α) : List α :=
      pieces.zipIdx.filterMap fun (piece, index) =>
        if isListed ranges (index + 1) then some piece else none
    overFiles cut.names (fun text =>
      ofLines ((lines text).1.map fun line =>
        if cut.isByChars then keep line
        else if line.contains cut.mark then
          Text.join [cut.mark] (keep (Text.splitOn cut.mark line))
        else line)) unread context

/-- The filters. -/
def filters : Entries Utility :=
  [("cat", cat), ("head", head), ("tail", tail), ("wc", count), ("tr", translate), ("sort", sort),
   ("uniq", unique), ("rev", reverse), ("cut", cut)]

end Issuebook.Shell.Utility
