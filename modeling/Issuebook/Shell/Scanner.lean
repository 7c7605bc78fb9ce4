import Issuebook.Shell.Word

/-!
# Scanning words

How a word reads character by character. Single quotes keep everything as it is, double quotes
everything but parameters, outputs and escapes; outside quotes a backslash keeps the character
behind it.
-/

namespace Issuebook.Shell

/-- Why a script cannot be read. -/
inductive SyntaxFault where
  /-- Quotes are not closed. -/
  | unclosedQuotes
  /-- The braces of a parameter are not closed. -/
  | unclosedBraces
  /-- The parentheses of an output are not closed. -/
  | unclosedOutput
  /-- The parentheses of a calculation are not closed. -/
  | unclosedCalculation
  /-- Backquotes are not closed. -/
  | unclosedBackquotes
  /-- What a loop sets is no variable. -/
  | badLoopVariable
  /-- No function can have the name. -/
  | badFunctionName
  /-- Something stands where it cannot; perhaps something else has to. -/
  | unexpected (found : Text) (expected : Option Text)
  deriving Repr, DecidableEq, Inhabited

/-- What is said about a script that cannot be read. -/
def SyntaxFault.message : SyntaxFault → Text
  | .unclosedQuotes => "Unterminated quoted string"
  | .unclosedBraces => "Missing '\x7d'"
  | .unclosedOutput => "end of file unexpected (expecting \")\")"
  | .unclosedCalculation => "Missing '))'"
  | .unclosedBackquotes => "EOF in backquote substitution"
  | .badLoopVariable => "Bad for loop variable"
  | .badFunctionName => "Bad function name"
  | .unexpected found none => found ++ (" unexpected" : Text)
  | .unexpected found (some expected) =>
    found ++ (" unexpected (expecting " : Text) ++ expected ++ [')']

namespace Scanner

/-- The name of a parameter at the front of a text, and the rest. -/
def takeName? : Text → Option (Text × Text)
  | [] => none
  | char :: rest =>
    if char.isDigit then
      some ((char :: rest).takeWhile Char.isDigit, (char :: rest).dropWhile Char.isDigit)
    else if isNameStart char then
      some ((char :: rest).takeWhile isNameChar, (char :: rest).dropWhile isNameChar)
    else if isSpecialParameter char then some ([char], rest)
    else none

/-- The treatment that a sign and what follows it ask for. -/
def signTreatment? (countsEmpty : Bool) : Text → Option Treatment
  | '-' :: written => some (.standIn countsEmpty written)
  | '=' :: written => some (.settled countsEmpty written)
  | '?' :: written => some (.demanded countsEmpty written)
  | '+' :: written => some (.replaced countsEmpty written)
  | _ => none

/-- The treatment written behind the name of a parameter. -/
def treatment? : Text → Option Treatment
  | [] => some .value
  | ':' :: rest => signTreatment? true rest
  | '#' :: '#' :: written => some (.trimmed false true written)
  | '#' :: written => some (.trimmed false false written)
  | '%' :: '%' :: written => some (.trimmed true true written)
  | '%' :: written => some (.trimmed true false written)
  | rest => signTreatment? false rest

/-- A name with the treatment written behind it. -/
def named? (isQuoted : Bool) (text : Text) : Option Part := do
  let (name, rest) ← takeName? text
  let treatment ← treatment? rest
  pure (.parameter name treatment isQuoted)

/-- The part that is written between braces. -/
def bracedPart (isQuoted : Bool) (text : Text) : Part :=
  match text with
  | '#' :: rest =>
    match takeName? rest with
    | some (name, []) => .parameter name .length isQuoted
    | _ => (named? isQuoted text).getD .unreadable
  | text => (named? isQuoted text).getD .unreadable

/-- The part that is written between parentheses behind a dollar sign: a calculation when they
are double, and otherwise a script. -/
def parenthesesPart (isQuoted : Bool) (text : Text) : Part :=
  match text, text.getLast? with
  | '(' :: rest, some ')' => .result rest.dropLast isQuoted
  | text, _ => .output text .parentheses isQuoted

/-- The script between backquotes: backslashes keep only backquotes, dollar signs and
backslashes, and inside double quotes also these. -/
def backquoted (isQuoted : Bool) : Text → Text
  | [] => []
  | '\\' :: char :: rest =>
    if ['`', '$', '\\'].contains char ∨ (isQuoted ∧ char = '"') then
      char :: backquoted isQuoted rest
    else '\\' :: char :: backquoted isQuoted rest
  | char :: rest => char :: backquoted isQuoted rest

/-- The part behind a dollar sign, if there is one, and the rest of the text. -/
def dollarPart (isQuoted : Bool) (text : Text) : Except SyntaxFault (Option (Part × Text)) :=
  match text with
  | '(' :: rest =>
    match Enclosure.parentheses.span? rest with
    | some (inside, rest) => .ok (some (parenthesesPart isQuoted inside, rest))
    | none =>
      .error (if rest.head? = some '(' then .unclosedCalculation else .unclosedOutput)
  | '\x7b' :: rest =>
    match (Enclosure.braces isQuoted).span? rest with
    | some (inside, rest) => .ok (some (bracedPart isQuoted inside, rest))
    | none => .error (if isQuoted then .unclosedQuotes else .unclosedBraces)
  | char :: rest =>
    if isSpecialParameter char then .ok (some (.parameter [char] .value isQuoted, rest))
    else
      .ok ((takeName? text).map fun (name, rest) => (.parameter name .value isQuoted, rest))
  | [] => .ok none

/-- The part at the front of a text that begins with a dollar sign or a backquote, and the rest
of the text. -/
def valuePart (isQuoted : Bool) (text : Text) : Except SyntaxFault (Option (Part × Text)) :=
  match text with
  | '$' :: rest => dollarPart isQuoted rest
  | '`' :: rest =>
    match Enclosure.backquotes.span? rest with
    | some (inside, rest) =>
      .ok (some (.output (backquoted isQuoted inside) .backquotes isQuoted, rest))
    | none => .error .unclosedBackquotes
  | _ => .ok none

/-- Adds a part before others, which come last one first; text of one kind is joined. -/
def addPart (part : Part) : (reversed : Word) → Word
  | .bare before :: rest =>
    match part with
    | .bare text => .bare (before ++ text) :: rest
    | part => part :: .bare before :: rest
  | .quoted before :: rest =>
    match part with
    | .quoted text => .quoted (before ++ text) :: rest
    | part => part :: .quoted before :: rest
  | rest => part :: rest

/-- Where quoted text ends: at double quotes, at the end of all text, or there with double
quotes inside that count for nothing. -/
inductive QuoteEnd where
  /-- At double quotes. -/
  | atQuotes
  /-- At the end of the text. -/
  | atEnd
  /-- At the end of the text; double quotes are left out. -/
  | atEndWithoutQuotes
  deriving Repr, DecidableEq, Inhabited

/-- The characters that a backslash keeps inside double quotes. -/
def keptInQuotes (ending : QuoteEnd) : List Char :=
  match ending with
  | .atQuotes => ['$', '`', '"', '\\']
  | .atEnd => ['$', '`', '\\']
  | .atEndWithoutQuotes => ['$', '`', '"', '\\', '\x7d']

/-- Reads quoted text behind parts, which come last one first, and gives what follows it. -/
def quotedFrom (ending : QuoteEnd) :
    (fuel : Nat) → (reversed : Word) → Text → Except SyntaxFault (Word × Text)
  | 0, reversed, text => .ok (reversed, text)
  | _, reversed, [] =>
    if ending = .atQuotes then .error .unclosedQuotes else .ok (reversed, [])
  | fuel + 1, reversed, '"' :: rest =>
    match ending with
    | .atQuotes => .ok (reversed, rest)
    | .atEnd => quotedFrom ending fuel (addPart (.quoted ['"']) reversed) rest
    | .atEndWithoutQuotes => quotedFrom ending fuel reversed rest
  | fuel + 1, reversed, '\\' :: '\n' :: rest => quotedFrom ending fuel reversed rest
  | fuel + 1, reversed, '\\' :: char :: rest =>
    let text := if (keptInQuotes ending).contains char then [char] else ['\\', char]
    quotedFrom ending fuel (addPart (.quoted text) reversed) rest
  | fuel + 1, reversed, char :: rest =>
    match valuePart true (char :: rest) with
    | .error fault => .error fault
    | .ok (some (part, rest)) => quotedFrom ending fuel (addPart part reversed) rest
    | .ok none => quotedFrom ending fuel (addPart (.quoted [char]) reversed) rest

/-- Whether a character ends a word. -/
def endsWord (char : Char) : Bool :=
  [' ', '\t', '\n', ';', '&', '|', '<', '>', '(', ')'].contains char

/-- Reads a word behind parts, which come last one first, and gives what follows it. Where
`isWhole`, all of the text is the word. -/
def wordFrom (isWhole : Bool) :
    (fuel : Nat) → (reversed : Word) → Text → Except SyntaxFault (Word × Text)
  | 0, reversed, text => .ok (reversed.reverse, text)
  | _, reversed, [] => .ok (reversed.reverse, [])
  | fuel + 1, reversed, '\\' :: '\n' :: rest => wordFrom isWhole fuel reversed rest
  | fuel + 1, reversed, '\\' :: char :: rest =>
    wordFrom isWhole fuel (addPart (.quoted [char]) reversed) rest
  | fuel + 1, reversed, '\'' :: rest =>
    match Text.cutAtChar? '\'' rest with
    | some (inside, rest) => wordFrom isWhole fuel (addPart (.quoted inside) reversed) rest
    | none => .error .unclosedQuotes
  | fuel + 1, reversed, '"' :: rest =>
    match quotedFrom .atQuotes fuel (addPart (.quoted []) reversed) rest with
    | .error fault => .error fault
    | .ok (reversed, rest) => wordFrom isWhole fuel reversed rest
  | fuel + 1, reversed, char :: rest =>
    if endsWord char ∧ !isWhole then .ok (reversed.reverse, char :: rest)
    else
      match valuePart false (char :: rest) with
      | .error fault => .error fault
      | .ok (some (part, rest)) => wordFrom isWhole fuel (addPart part reversed) rest
      | .ok none => wordFrom isWhole fuel (addPart (.bare [char]) reversed) rest

end Scanner

namespace Word

/-- The word at the front of a text, and the rest. -/
def scan (text : Text) : Except SyntaxFault (Word × Text) :=
  Scanner.wordFrom false (text.length + 1) [] text

/-- The word that a whole text writes. -/
def ofText (text : Text) : Except SyntaxFault Word :=
  (Scanner.wordFrom true (text.length + 1) [] text).map Prod.fst

/-- The word that a whole text writes inside double quotes. -/
def ofQuotedText (text : Text) : Except SyntaxFault Word :=
  (Scanner.quotedFrom .atEndWithoutQuotes (text.length + 1) [.quoted []] text).map fun
    (reversed, _) => reversed.reverse

/-- The word of a document inside a script, where double quotes mean nothing. -/
def ofDocument (text : Text) : Except SyntaxFault Word :=
  (Scanner.quotedFrom .atEnd (text.length + 1) [] text).map fun (reversed, _) => reversed.reverse

end Word

end Issuebook.Shell
