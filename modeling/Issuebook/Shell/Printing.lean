import Issuebook.Shell.Numeral
import Issuebook.Shell.Program
import Issuebook.Text.Basic

/-!
# Printing by a format

A format is text with escapes and directives, each of which prints an argument. It is used
again while arguments are left; a directive without an argument prints an empty text or zero.
-/

/-!
## Escapes

What stands behind a backslash in a text that a program prints: letters for control characters
and numbers for bytes. Shells and separate programs know different ones.
-/

namespace Issuebook.Shell

/-- Who prints. -/
inductive Dialect where
  /-- A shell by a command of its own. -/
  | shell
  /-- A program. -/
  | program
  deriving Repr, DecidableEq, Inhabited

/-- What an escape becomes. -/
inductive Unescaped where
  /-- Text. -/
  | text (text : Text)
  /-- The end of all that is printed. -/
  | stop
  /-- Nothing, because its number is missing. -/
  | incomplete
  deriving Repr, DecidableEq, Inhabited

namespace Escape

/-- The characters that letters stand for behind a backslash. -/
def letters : List (Char × Char) :=
  [('n', '\n'), ('t', '\t'), ('r', '\x0d'), ('a', '\x07'), ('b', '\x08'), ('f', '\x0c'),
   ('v', '\x0b'), ('e', '\x1b'), ('\\', '\\')]

/-- The value of a digit of base eight or sixteen. -/
def digit? (base : Nat) (char : Char) : Option Nat :=
  let value :=
    if char.isDigit then some (char.toNat - '0'.toNat)
    else if 'a' ≤ char ∧ char ≤ 'f' then some (char.toNat - 'a'.toNat + 10)
    else if 'A' ≤ char ∧ char ≤ 'F' then some (char.toNat - 'A'.toNat + 10)
    else none
  value.filter fun value => value < base

/-- The number of at most `limit` digits at the front, and the rest; none without a digit. -/
def takeNumber? (base limit : Nat) (text : Text) : Option (Nat × Text) :=
  let digits := (text.take limit).takeWhile fun char => (digit? base char).isSome
  if digits.isEmpty then none
  else some (digits.foldl (fun sum char => base * sum + (digit? base char).getD 0) 0,
    text.drop digits.length)

/-- The byte of a number. -/
def byte (number : Nat) : Text :=
  [Char.ofNat (number % 256)]

/-- The character of a number; beyond the first 128 it stays an escape. -/
def character (letter : Char) (digits number : Nat) : Text :=
  if number < 128 then [Char.ofNat number]
  else
    let written := (Nat.toDigits 16 number).map Char.toUpper
    let (letter, digits) := if letter = 'U' ∧ number < 65536 then ('u', 4) else (letter, digits)
    ['\\', letter] ++ List.replicate (digits - written.length) '0' ++ written

/-- The escapes that only programs know. -/
def ofProgram? : Text → Option (Unescaped × Text)
  | '"' :: rest => some (.text ['"'], rest)
  | 'c' :: rest => some (.stop, rest)
  | 'x' :: rest =>
    match takeNumber? 16 2 rest with
    | some (number, rest) => some (.text (byte number), rest)
    | none => some (.incomplete, rest)
  | 'u' :: rest =>
    match takeNumber? 16 4 rest with
    | some (number, rest) => some (.text (character 'u' 4 number), rest)
    | none => some (.incomplete, rest)
  | 'U' :: rest =>
    match takeNumber? 16 8 rest with
    | some (number, rest) => some (.text (character 'U' 8 number), rest)
    | none => some (.incomplete, rest)
  | _ => none

/-- What an escape of a format becomes whose characters behind the backslash are at the front,
and the rest. -/
def ofFormat (dialect : Dialect) (text : Text) : Unescaped × Text :=
  match if dialect = .program then ofProgram? text else none with
  | some found => found
  | none =>
    match takeNumber? 8 3 text, text with
    | some (number, rest), _ => (.text (byte number), rest)
    | none, char :: rest =>
      match letters.lookup char with
      | some meant => (.text [meant], rest)
      | none => (.text ['\\', char], rest)
    | none, [] => (.text ['\\'], [])

/-- What an escape of a printed text becomes: as in formats, but a zero may stand in front of the
digits of a byte. -/
def ofText (dialect : Dialect) (text : Text) : Unescaped × Text :=
  match text with
  | 'c' :: rest => (.stop, rest)
  | '0' :: digit :: rest =>
    if (digit? 8 digit).isSome then ofFormat dialect (digit :: rest) else ofFormat dialect text
  | text => ofFormat dialect text

/-- A text without its escapes, and whether one of them stops it. -/
def removeFrom (dialect : Dialect) : (fuel : Nat) → Text → Text × Bool
  | 0, text => (text, false)
  | _, [] => ([], false)
  | fuel + 1, '\\' :: rest =>
    match ofText dialect rest with
    | (.stop, _) => ([], true)
    | (.text text, rest) =>
      let (later, stops) := removeFrom dialect fuel rest
      (text ++ later, stops)
    | (.incomplete, rest) => removeFrom dialect fuel rest
  | fuel + 1, char :: rest =>
    let (later, stops) := removeFrom dialect fuel rest
    (char :: later, stops)

/-- A text without its escapes, and whether one of them stops it. -/
def remove (dialect : Dialect) (text : Text) : Text × Bool :=
  removeFrom dialect (text.length + 1) text

end Escape

end Issuebook.Shell

/-!
## Quoting names

How programs write names in what they say: between quotes, everywhere or only where a shell
would need them.
-/

namespace Issuebook.Shell

/-- Whether a character means nothing to a shell. -/
def isPlain (char : Char) : Bool :=
  char.isAlphanum ||
    ['%', '+', ',', '-', '.', '/', ':', '@', '_', '=', '~', ']', '[', '\x7b', '\x7d'].contains char

/-- A name between quotes. -/
def inApostrophes (name : Text) : Text :=
  '\'' :: name ++ ['\'']

/-- A name between quotes where a shell would need them. -/
def shellName (name : Text) : Text :=
  if name.isEmpty ∨ !name.all isPlain then inApostrophes name else name

end Issuebook.Shell

namespace Issuebook.Shell.Printing

/-- A count in a directive. -/
inductive Count where
  /-- A number. -/
  | fixed (number : Nat)
  /-- The next argument. -/
  | argument
  deriving Repr, DecidableEq, Inhabited

/-- What prints an argument. -/
structure Directive where
  /-- The signs that change its form. -/
  flags : List Char
  /-- The least number of characters. -/
  width : Option Count
  /-- The number of places or characters. -/
  precision : Option Count
  /-- The letter that tells what it prints. -/
  letter : Char
  deriving Repr, DecidableEq, Inhabited

/-- A piece of a format. -/
inductive Piece where
  /-- Text. -/
  | text (text : Text)
  /-- A directive. -/
  | directive (directive : Directive)
  /-- The end of all that is printed. -/
  | stop
  /-- Something that no directive says. -/
  | broken (reason : Text)
  deriving Repr, DecidableEq, Inhabited

/-- The letters of directives. -/
def directiveLetters : List Char :=
  ['b', 'c', 's', 'd', 'i', 'o', 'u', 'x', 'X', 'e', 'E', 'f', 'F', 'g', 'G']

/-- A count at the front of a text, and the rest. -/
def takeCount (text : Text) : Option Count × Text :=
  match text with
  | '*' :: rest => (some .argument, rest)
  | text =>
    let (digits, rest) := Text.takeDigits text
    (if digits.isEmpty then none else some (.fixed (Text.digitsNumber digits)), rest)

/-- The piece behind a percent sign, and the rest. -/
def takeDirective (dialect : Dialect) (text : Text) : Piece × Text :=
  let isFlag (char : Char) : Bool :=
    ['#', '-', '+', ' ', '0'].contains char || (dialect = .program && char = '\'')
  let flags := text.takeWhile isFlag
  let (width, rest) := takeCount (text.drop flags.length)
  let (precision, rest) :=
    match rest with
    | '.' :: rest =>
      let (count, rest) := takeCount rest
      (some (count.getD (.fixed 0)), rest)
    | rest => (none, rest)
  let rest :=
    if dialect = .program then
      rest.dropWhile fun char => ['h', 'l', 'L', 'j', 't', 'z'].contains char
    else rest
  let written := '%' :: text.take (text.length - rest.length + 1)
  match rest with
  | letter :: behind =>
    if directiveLetters.contains letter ∨ (dialect = .program ∧ letter = 'q') then
      (.directive ⟨flags, width, precision, letter⟩, behind)
    else
      (.broken (written ++
        if dialect = .shell then (": invalid directive" : Text)
        else (": invalid conversion specification" : Text)), behind)
  | [] =>
    (.broken (if dialect = .shell then ("missing format character" : Text)
      else written ++ (": invalid conversion specification" : Text)), [])

/-- The pieces of a format. -/
def piecesFrom (dialect : Dialect) : (fuel : Nat) → Text → List Piece
  | 0, _ => []
  | _, [] => []
  | fuel + 1, '\\' :: rest =>
    match Escape.ofFormat dialect rest with
    | (.text text, rest) => .text text :: piecesFrom dialect fuel rest
    | (.stop, _) => [.stop]
    | (.incomplete, _) => [.broken "missing hexadecimal number in escape"]
  | fuel + 1, '%' :: '%' :: rest => .text ['%'] :: piecesFrom dialect fuel rest
  | fuel + 1, '%' :: rest =>
    let (piece, rest) := takeDirective dialect rest
    piece :: piecesFrom dialect fuel rest
  | fuel + 1, char :: rest => .text [char] :: piecesFrom dialect fuel rest

/-- Printing up to a point. -/
structure Progress where
  /-- The arguments that are left. -/
  arguments : List Text
  /-- What is printed, the last piece first. -/
  printed : List Text := []
  /-- What there is to complain about, the last first. -/
  complaints : List Text := []
  /-- Whether nothing more is printed. -/
  isOver : Bool := false
  /-- Whether the format itself is broken. -/
  isBroken : Bool := false
  deriving Repr, Inhabited

namespace Progress

/-- Prints a text. -/
def print (text : Text) (progress : Progress) : Progress :=
  { progress with printed := text :: progress.printed }

/-- Complains. -/
def complain (text : Text) (progress : Progress) : Progress :=
  { progress with complaints := text :: progress.complaints }

/-- The next argument, if there is one. -/
def next (progress : Progress) : Option Text × Progress :=
  (progress.arguments.head?, { progress with arguments := progress.arguments.tail })

end Progress

/-- Complains about an argument of which not all was read as a number. -/
def checkRead (dialect : Dialect) (argument rest : Text) (isRead fits : Bool)
    (progress : Progress) : Progress :=
  let complain (ofShell ofProgram : Text) : Progress :=
    match dialect with
    | .shell => progress.complain (argument ++ (": " : Text) ++ ofShell)
    | .program =>
      progress.complain ('\'' :: argument ++ ("': " : Text) ++ ofProgram)
  if !isRead then
    if argument.isEmpty then progress
    else complain "expected numeric value" "expected a numeric value"
  else if !rest.isEmpty then complain "not completely converted" "value not completely converted"
  else if !fits then
    complain "Numerical result out of range" "Numerical result out of range"
  else progress

/-- The greatest number without a sign. -/
def greatestUnsigned : Nat := 18446744073709551615

/-- The character behind a quotation mark, whose number an argument stands for. -/
def quotedChar? : Text → Option Char
  | mark :: char :: _ => if mark = '\'' ∨ mark = '"' then some char else none
  | _ => none

/-- The next argument as a whole number. -/
def nextWhole (dialect : Dialect) (isSigned : Bool) (progress : Progress) : Int × Progress :=
  match progress.next with
  | (none, progress) => (0, progress)
  | (some argument, progress) =>
    match quotedChar? argument with
    | some char => (char.toNat, progress)
    | none =>
      let front := Numeral.whole argument
      let size := front.value.getD 0
      let limit :=
        if !isSigned then greatestUnsigned
        else if front.isNegative then Arithmetic.greatest + 1 else Arithmetic.greatest
      let fits : Bool := size ≤ limit
      let bounded := if fits then size else limit
      let value : Int :=
        if !front.isNegative ∨ (!isSigned ∧ !fits) then bounded
        else if isSigned then -(bounded : Int)
        else ((greatestUnsigned + 1 - bounded) % (greatestUnsigned + 1) : Nat)
      (value, checkRead dialect argument front.rest front.value.isSome fits progress)

/-- The next argument as a real number, with its sign. -/
def nextReal (dialect : Dialect) (progress : Progress) : Bool × Numeral.Ratio × Progress :=
  match progress.next with
  | (none, progress) => (false, ⟨0, 1⟩, progress)
  | (some argument, progress) =>
    match quotedChar? argument with
    | some char => (false, ⟨char.toNat, 1⟩, progress)
    | none =>
      let front := Numeral.real argument
      let bits := if dialect = .shell then 53 else 64
      (front.isNegative, (front.value.getD ⟨0, 1⟩).withBits bits,
        checkRead dialect argument front.rest front.value.isSome true progress)

/-- A text filled up to a width: with blanks, or with zeros behind its sign. -/
def fill (flags : List Char) (width : Nat) (withZeros : Bool) (sign body : Text) : Text :=
  let missing := width - (sign.length + body.length)
  if flags.contains '-' then sign ++ body ++ List.replicate missing ' '
  else if withZeros then sign ++ List.replicate missing '0' ++ body
  else List.replicate missing ' ' ++ sign ++ body

/-- The sign of a number. -/
def signText (flags : List Char) (isNegative : Bool) : Text :=
  if isNegative then ['-']
  else if flags.contains '+' then ['+']
  else if flags.contains ' ' then [' ']
  else []

/-- The digits of a whole number in the base of a letter, and what stands before them. -/
def wholeText (flags : List Char) (letter : Char) (number : Nat) : Text × Text :=
  let isMarked := flags.contains '#' && number ≠ 0
  match letter with
  | 'o' => (if isMarked then ['0'] else [], Nat.toDigits 8 number)
  | 'x' => (if isMarked then ['0', 'x'] else [], Nat.toDigits 16 number)
  | 'X' => (if isMarked then ['0', 'X'] else [], (Nat.toDigits 16 number).map Char.toUpper)
  | _ => ([], Text.ofNat number)

/-- What a number prints whose places are not its digits. -/
def realText (flags : List Char) (letter : Char) (precision : Option Nat)
    (number : Numeral.Ratio) : Text :=
  let places := precision.getD 6
  match letter.toLower with
  | 'e' =>
    let text := number.scientific places
    if letter = 'E' then text.map Char.toUpper else text
  | 'g' =>
    let text := number.general (flags.contains '#') places
    if letter = 'G' then text.map Char.toUpper else text
  | _ => number.fixed places

/-- Prints what a directive with a known width and precision says. -/
def follow (dialect : Dialect) (flags : List Char) (width : Nat) (precision : Option Nat)
    (letter : Char) (progress : Progress) : Progress :=
  let cut (text : Text) : Text :=
    match precision with
    | some count => text.take count
    | none => text
  if letter = 's' then
    let (argument, progress) := progress.next
    progress.print (fill flags width false [] (cut (argument.getD [])))
  else if letter = 'q' then
    let (argument, progress) := progress.next
    progress.print (fill flags width false [] (shellName (argument.getD [])))
  else if letter = 'b' then
    let (argument, progress) := progress.next
    let (text, stops) := Escape.remove dialect (argument.getD [])
    { progress.print (fill flags width false [] (cut text)) with isOver := stops }
  else if letter = 'c' then
    let (argument, progress) := progress.next
    progress.print (fill flags width false [] [(argument.getD []).headD '\x00'])
  else if letter = 'd' ∨ letter = 'i' ∨ ['o', 'u', 'x', 'X'].contains letter then
    let isSigned := letter = 'd' || letter = 'i'
    let (number, progress) := nextWhole dialect isSigned progress
    let (mark, digits) := wholeText flags letter number.natAbs
    let digits := if number = 0 ∧ precision = some 0 then [] else digits
    let body := List.replicate (precision.getD 0 - digits.length) '0' ++ digits
    let sign := if isSigned then signText flags (number < 0) else []
    progress.print
      (fill flags width (flags.contains '0' && precision.isNone) (sign ++ mark) body)
  else
    let (isNegative, number, progress) := nextReal dialect progress
    progress.print (fill flags width (flags.contains '0') (signText flags isNegative)
      (realText flags letter precision number))

/-- The number that a count stands for. -/
def countOf (dialect : Dialect) (count : Option Count) (progress : Progress) :
    Option Int × Progress :=
  match count with
  | none => (none, progress)
  | some (.fixed number) => (some number, progress)
  | some .argument =>
    let (number, progress) := nextWhole dialect true progress
    (some number, progress)

/-- The greatest width and precision that are followed. -/
def widthLimit : Nat := 100000

/-- Prints a piece of a format. -/
def usePiece (dialect : Dialect) (progress : Progress) (piece : Piece) : Progress :=
  if progress.isOver then progress
  else
    match piece with
    | .text text => progress.print text
    | .stop => { progress with isOver := true }
    | .broken reason => { progress.complain reason with isOver := true, isBroken := true }
    | .directive directive =>
      let (width, progress) := countOf dialect directive.width progress
      let (precision, progress) := countOf dialect directive.precision progress
      let width := width.getD 0
      let flags := if width < 0 then '-' :: directive.flags else directive.flags
      let size := if widthLimit < width.natAbs then widthLimit else width.natAbs
      let precision := (precision.filter fun count => 0 ≤ count).map fun count =>
        if widthLimit < count.toNat then widthLimit else count.toNat
      follow dialect flags size precision directive.letter progress

/-- Uses a format again while arguments are left, `limit` times at most. -/
def useAll (dialect : Dialect) (pieces : List Piece) : (limit : Nat) → Progress → Progress
  | 0, progress => progress
  | limit + 1, progress =>
    let before := progress.arguments.length
    let progress := pieces.foldl (usePiece dialect) progress
    if progress.isOver ∨ progress.arguments.isEmpty ∨ progress.arguments.length = before then
      progress
    else useAll dialect pieces limit progress

/-- What a format prints with arguments. -/
def format (dialect : Dialect) (written : Text) (arguments : List Text) : Progress :=
  useAll dialect (piecesFrom dialect (written.length + 1) written) (arguments.length + 1)
    { arguments := arguments }

/-- All that is printed, in order. -/
def Progress.text (progress : Progress) : Text :=
  progress.printed.reverse.flatten

end Issuebook.Shell.Printing
