import Issuebook.Shell.Scanner

/-!
# Tokens

A script is cut into words, signs and the ends of its lines, each with the number of the line
it is on. A document that a command reads is taken out of the lines that follow. What cannot be
read is a token of its own, because the script runs up to the line before it.
-/

namespace Issuebook.Shell

/-- A sign between words. -/
inductive Sign where
  /-- The end of a command. -/
  | semicolon
  /-- The end of a case. -/
  | caseEnd
  /-- The command before it is not waited for. -/
  | ampersand
  /-- What follows runs after success. -/
  | both
  /-- What follows reads what comes before. -/
  | pipe
  /-- What follows runs after failure. -/
  | either
  /-- The beginning of a subshell. -/
  | opening
  /-- The end of a subshell, or of a pattern. -/
  | closing
  deriving Repr, DecidableEq, Inhabited

/-- How a sign is written. -/
def Sign.text : Sign → Text
  | .semicolon => ";"
  | .caseEnd => ";;"
  | .ampersand => "&"
  | .both => "&&"
  | .pipe => "|"
  | .either => "||"
  | .opening => "("
  | .closing => ")"

/-- What a redirection makes of a stream. -/
inductive StreamUse where
  /-- It reads a file. -/
  | read
  /-- It writes a file anew, perhaps only one that is not there. -/
  | write
  /-- It writes a file anew in any case. -/
  | overwrite
  /-- It writes at the end of a file. -/
  | append
  /-- It goes where another stream goes. -/
  | copy
  deriving Repr, DecidableEq, Inhabited

/-- A token of a script. -/
inductive Token where
  /-- A word. -/
  | word (word : Word)
  /-- A sign. -/
  | sign (sign : Sign)
  /-- The end of a line. -/
  | lineEnd
  /-- A stream is led to where the next word says. -/
  | redirect (stream : Nat) (use : StreamUse)
  /-- A stream reads a document. -/
  | document (stream : Nat) (body : Word)
  /-- The script cannot be read. -/
  | broken (fault : SyntaxFault)
  /-- The end of the script. -/
  | finish
  deriving Repr, DecidableEq, Inhabited

/-- A token and the number of its line. -/
structure Placed where
  /-- The number of the line. -/
  line : Nat
  /-- The token. -/
  token : Token
  deriving Repr, DecidableEq, Inhabited

namespace Token

/-- The sign at the front of a text, and the rest. -/
def takeSign? : Text → Option (Sign × Text)
  | ';' :: ';' :: rest => some (.caseEnd, rest)
  | ';' :: rest => some (.semicolon, rest)
  | '&' :: '&' :: rest => some (.both, rest)
  | '&' :: rest => some (.ampersand, rest)
  | '|' :: '|' :: rest => some (.either, rest)
  | '|' :: rest => some (.pipe, rest)
  | '(' :: rest => some (.opening, rest)
  | ')' :: rest => some (.closing, rest)
  | _ => none

/-- The redirection at the front of a text, with its usual stream, and the rest. -/
def takeUse? : Text → Option (Nat × StreamUse × Text)
  | '>' :: '>' :: rest => some (1, .append, rest)
  | '>' :: '&' :: rest => some (1, .copy, rest)
  | '>' :: '|' :: rest => some (1, .overwrite, rest)
  | '>' :: rest => some (1, .write, rest)
  | '<' :: '&' :: rest => some (0, .copy, rest)
  | '<' :: '>' :: rest => some (0, .read, rest)
  | '<' :: rest => some (0, .read, rest)
  | _ => none

/-- The sign of a document at the front of a text, whether tabs at the front of its lines are
left out, and the rest. -/
def takeDocument? : Text → Option (Bool × Text)
  | '<' :: '<' :: '-' :: rest => some (true, rest)
  | '<' :: '<' :: rest => some (false, rest)
  | _ => none

/-- The digit right before a redirection at the front of a text, and the rest. -/
def takeStream? : Text → Option (Nat × Text)
  | digit :: arrow :: rest =>
    if digit.isDigit ∧ (arrow = '<' ∨ arrow = '>') then
      some (digit.toNat - '0'.toNat, arrow :: rest)
    else none
  | _ => none

/-- The lines of a document up to its last one, each with its line end, the lines behind it,
and their number; none when the last line is not there. -/
def takeBody? (dropsTabs : Bool) (last : Text) : List Text → Option (Text × List Text × Nat)
  | [] => none
  | line :: lines =>
    let line := if dropsTabs then line.dropWhile (· = '\t') else line
    if line = last then some ([], lines, 1)
    else
      (takeBody? dropsTabs last lines).map fun (body, behind, count) =>
        (line ++ '\n' :: body, behind, count + 1)

/-- The document whose last line is known, taken out of the lines behind the one that is being
read: its text, the text without it, and the number of its lines. -/
def cutBody (dropsTabs : Bool) (last text : Text) : Text × Text × Nat :=
  match Text.cutAtChar? '\n' text with
  | none => ([], text, 0)
  | some (present, behind) =>
    match takeBody? dropsTabs last (Text.splitOn '\n' behind) with
    | some (body, lines, count) => (body, present ++ '\n' :: Text.join ['\n'] lines, count)
    | none => (behind, present, Text.countLeading '\n' (behind.filter (· = '\n')))

/-- The body of a document as a word. -/
def bodyWord (delimiter : Word) (body : Text) : Except SyntaxFault Word :=
  if delimiter.hasQuotes then .ok [.quoted body] else Word.ofDocument body

/-- Drops blanks, line ends behind backslashes, and a remark at the front of a text; counts the
line ends. -/
def skipBlanks : (fuel : Nat) → (isRemark : Bool) → Nat → Text → Nat × Text
  | 0, _, count, text => (count, text)
  | _, _, count, [] => (count, [])
  | _, true, count, '\n' :: rest => (count, '\n' :: rest)
  | fuel + 1, true, count, _ :: rest => skipBlanks fuel true count rest
  | fuel + 1, false, count, '\\' :: '\n' :: rest => skipBlanks fuel false (count + 1) rest
  | fuel + 1, false, count, char :: rest =>
    if char = ' ' ∨ char = '\t' then skipBlanks fuel false count rest
    else if char = '#' then skipBlanks fuel true count rest
    else (count, char :: rest)

/-- The number of line ends in what was read of a text. -/
def linesRead (before after : Text) : Nat :=
  before.countP (· = '\n') - after.countP (· = '\n')

/-- The tokens of a text that begins on a line; `hidden` counts the lines of documents that
were taken out of it. -/
def listFrom : (fuel : Nat) → (line hidden : Nat) → Text → List Placed
  | 0, line, _, _ => [⟨line, .finish⟩]
  | fuel + 1, line, hidden, text =>
    let (skipped, text) := skipBlanks (text.length + 1) false 0 text
    let line := line + skipped
    match text with
    | [] => [⟨line + hidden, .finish⟩]
    | '\n' :: rest => ⟨line, .lineEnd⟩ :: listFrom fuel (line + 1 + hidden) 0 rest
    | text =>
      let (stream, text) :=
        match takeStream? text with
        | some (stream, text) => (some stream, text)
        | none => (none, text)
      match takeDocument? text with
      | some (dropsTabs, rest) =>
        let (_, rest) := skipBlanks (rest.length + 1) false 0 rest
        match Word.scan rest with
        | .error fault => [⟨line, .broken fault⟩]
        | .ok ([], rest) =>
          ⟨line, .redirect (stream.getD 0) .read⟩ :: listFrom fuel line hidden rest
        | .ok (delimiter, rest) =>
          let (body, rest, count) := cutBody dropsTabs delimiter.literal rest
          match bodyWord delimiter body with
          | .error fault => [⟨line, .broken fault⟩]
          | .ok body =>
            ⟨line, .document (stream.getD 0) body⟩ :: listFrom fuel line (hidden + count) rest
      | none =>
        match takeUse? text with
        | some (usual, use, rest) =>
          ⟨line, .redirect (stream.getD usual) use⟩ :: listFrom fuel line hidden rest
        | none =>
          match takeSign? text with
          | some (found, rest) => ⟨line, .sign found⟩ :: listFrom fuel line hidden rest
          | none =>
            match Word.scan text with
            | .error fault => [⟨line + linesRead text [], .broken fault⟩]
            | .ok (found, rest) =>
              ⟨line, .word found⟩ :: listFrom fuel (line + linesRead text rest) hidden rest

/-- The tokens of a script. -/
def list (script : Text) : List Placed :=
  listFrom (script.length + 1) 1 0 script

end Token

end Issuebook.Shell
