import Issuebook.Shell.Token

/-!
# Scripts

What a script says: commands of words and redirections, put together by sequences, conditions,
loops, choices, subshells and functions. A script is read line by line, each line with all
further lines that its commands need.
-/

namespace Issuebook.Shell

/-- A change of where a stream goes. -/
inductive Redirection where
  /-- It goes where a word says. -/
  | toward (stream : Nat) (use : StreamUse) (target : Word)
  /-- It reads a document. -/
  | document (stream : Nat) (body : Word)
  deriving Repr, DecidableEq, Inhabited

/-- A command of a script. -/
inductive Command where
  /-- Words, of which the first ones may set variables, on a line. -/
  | simple (line : Nat) (words : List Word) (redirections : List Redirection)
  /-- A command whose streams are led elsewhere. -/
  | redirected (line : Nat) (command : Command) (redirections : List Redirection)
  /-- One command after the other. -/
  | sequence (commands : List Command)
  /-- A command that is not waited for. -/
  | background (command : Command)
  /-- The second command runs after success of the first. -/
  | both (first second : Command)
  /-- The second command runs after failure of the first. -/
  | either (first second : Command)
  /-- Success becomes failure, and failure success. -/
  | negated (command : Command)
  /-- Each command reads what the one before prints. -/
  | pipeline (commands : List Command)
  /-- A command in a shell of its own. -/
  | subshell (body : Command)
  /-- The body runs after success of the condition, otherwise the other command. -/
  | choice (condition body other : Command)
  /-- The body runs as long as the condition ends as it has to. -/
  | loop (onSuccess : Bool) (condition body : Command)
  /-- The body runs for each of the words, or for each argument. -/
  | forEach (line : Nat) (name : Text) (words : Option (List Word)) (body : Command)
  /-- The first body runs that has a pattern for a word. -/
  | select (line : Nat) (subject : Word) (cases : List (List Word × Command))
  /-- A function. -/
  | function (name : Text) (body : Command)
  deriving Inhabited

namespace Command

/-- The command that does nothing. -/
def nothing : Command := sequence []

/-- The commands as one. -/
def ofList : List Command → Command
  | [command] => command
  | commands => sequence commands

/-- The command with its streams led elsewhere. -/
def leading (line : Nat) (redirections : List Redirection) (command : Command) : Command :=
  if redirections.isEmpty then command else redirected line command redirections

end Command

namespace Script

/-- What is read of a script, unless something on a line cannot be read. -/
abbrev Read := Except (Nat × SyntaxFault)

/-- The tokens of a script that are left. -/
abbrev Tokens := List Placed

/-- The words that have a meaning where a command begins. -/
def reserved : List Text :=
  ["!", "case", "do", "done", "elif", "else", "esac", "fi", "for", "if", "in", "then",
   "until", "while", "\x7b", "\x7d"]

/-- The reserved words that end a list of commands. -/
def closers : List Text :=
  ["then", "else", "elif", "fi", "do", "done", "esac", "\x7d"]

/-- The commands of the shell that no function can stand for. -/
def lastingNames : List Text :=
  [".", ":", "break", "continue", "eval", "exec", "exit", "export", "local", "readonly",
   "return", "set", "shift", "times", "trap", "unset"]

/-- Whether no function can have a name. -/
def isLasting (name : Text) : Bool :=
  lastingNames.contains name

/-- The token at the front, and its line. -/
def peek (tokens : Tokens) : Placed :=
  tokens.headD ⟨1, .finish⟩

/-- The reserved word at the front, if there is one. -/
def keyword? (tokens : Tokens) : Option Text :=
  match (peek tokens).token with
  | .word word => word.bare?.filter reserved.contains
  | _ => none

/-- The text between double quotes. -/
def inQuotes (text : Text) : Text :=
  '"' :: (text ++ ['"'])

/-- How a token is named in complaints; reserved words stand for themselves where they have a
meaning. -/
def tokenName (hasMeaning : Bool) : Token → Text
  | .word word =>
    match word.bare?.filter reserved.contains with
    | some text => if hasMeaning then inQuotes text else "word"
    | none => "word"
  | .sign sign => inQuotes sign.text
  | .lineEnd => "newline"
  | .redirect _ _ | .document _ _ => "redirection"
  | .broken fault => fault.message
  | .finish => "end of file"

/-- The complaint that the token at the front cannot stand there. -/
def refuse {α : Type} (tokens : Tokens) (expected : Option Text) (hasMeaning : Bool := true) :
    Read (α × Tokens) :=
  let placed := peek tokens
  match placed.token with
  | .broken fault => .error (placed.line, fault)
  | token => .error (placed.line, .unexpected (tokenName hasMeaning token) expected)

/-- Drops the ends of lines at the front. -/
def skipLines : Tokens → Tokens
  | ⟨_, .lineEnd⟩ :: rest => skipLines rest
  | tokens => tokens

/-- Reads a reserved word. -/
def expect (word : Text) (tokens : Tokens) : Read (Unit × Tokens) :=
  if keyword? tokens = some word then .ok ((), tokens.tail)
  else refuse tokens (some (inQuotes word))

/-- Reads the redirections at the front. -/
def takeRedirections : (fuel : Nat) → Tokens → Read (List Redirection × Tokens)
  | 0, tokens => .ok ([], tokens)
  | fuel + 1, tokens =>
    match tokens with
    | ⟨_, .document stream body⟩ :: rest => do
      let (later, rest) ← takeRedirections fuel rest
      pure (.document stream body :: later, rest)
    | ⟨_, .redirect stream use⟩ :: ⟨_, .word target⟩ :: rest => do
      let (later, rest) ← takeRedirections fuel rest
      pure (.toward stream use target :: later, rest)
    | ⟨_, .redirect _ _⟩ :: rest => refuse rest none
    | tokens => .ok ([], tokens)

/-- Reads the words and the redirections of a simple command. -/
def takeSimple : (fuel : Nat) → Tokens → Read ((List Word × List Redirection) × Tokens)
  | 0, tokens => .ok (([], []), tokens)
  | fuel + 1, tokens =>
    match tokens with
    | ⟨_, .word word⟩ :: rest => do
      let ((words, redirections), rest) ← takeSimple fuel rest
      pure ((word :: words, redirections), rest)
    | ⟨_, .document stream body⟩ :: rest => do
      let ((words, redirections), rest) ← takeSimple fuel rest
      pure ((words, .document stream body :: redirections), rest)
    | ⟨_, .redirect stream use⟩ :: ⟨_, .word target⟩ :: rest => do
      let ((words, redirections), rest) ← takeSimple fuel rest
      pure ((words, .toward stream use target :: redirections), rest)
    | ⟨_, .redirect _ _⟩ :: rest => refuse rest none
    | ⟨line, .broken fault⟩ :: _ => .error (line, fault)
    | tokens => .ok (([], []), tokens)

/-- Reads words up to the next token of another kind. -/
def takeWords : Tokens → List Word × Tokens
  | ⟨_, .word word⟩ :: rest =>
    let (words, rest) := takeWords rest
    (word :: words, rest)
  | tokens => ([], tokens)

/-- Reads the patterns of a case. -/
def takePatterns : (fuel : Nat) → Tokens → Read (List Word × Tokens)
  | 0, tokens => .ok ([], tokens)
  | fuel + 1, tokens =>
    match tokens with
    | ⟨_, .word word⟩ :: ⟨_, .sign .pipe⟩ :: rest => do
      let (later, rest) ← takePatterns fuel rest
      pure (word :: later, rest)
    | ⟨_, .word word⟩ :: ⟨_, .sign .closing⟩ :: rest => .ok ([word], rest)
    | ⟨_, .word _⟩ :: rest => refuse rest (some (inQuotes ")")) false
    | tokens => refuse tokens (some (inQuotes ")")) false

/-- Reads the words that a loop goes through, none for the arguments, up to its body. -/
def takeRange (tokens : Tokens) : Read (Option (List Word) × Tokens) :=
  let there := skipLines tokens
  if keyword? there = some "in" then
    let (words, rest) := takeWords there.tail
    match rest with
    | ⟨_, .sign .semicolon⟩ :: rest => .ok (some words, skipLines rest)
    | ⟨_, .lineEnd⟩ :: rest => .ok (some words, skipLines rest)
    | rest => refuse rest none false
  else
    match tokens with
    | ⟨_, .sign .semicolon⟩ :: rest => .ok (none, skipLines rest)
    | tokens => .ok (none, skipLines tokens)

/-- Whether a token ends a list of commands. -/
def endsList (tokens : Tokens) : Bool :=
  match (peek tokens).token with
  | .finish | .sign .closing | .sign .caseEnd => true
  | .word word => word.bare?.any closers.contains
  | _ => false

/-- The reading of a command that is whole only with what is read of its parts. -/
structure Reader where
  /-- Reads commands up to the end of a list. Where `mayBeEmpty`, there need not be any. -/
  list : (mayBeEmpty : Bool) → Tokens → Read (Command × Tokens)
  /-- Reads one command of any form. -/
  command : Tokens → Read (Command × Tokens)

namespace Reader

/-- Reads the rest of a condition: its body and the other command. `depth` bounds the number of
its further conditions. -/
def conditionRest (reader : Reader) :
    (depth : Nat) → Command → Tokens → Read (Command × Tokens)
  | 0, _, tokens => refuse tokens none
  | depth + 1, condition, tokens => do
    let ((), rest) ← expect "then" tokens
    let (body, rest) ← reader.list false rest
    match keyword? rest with
    | some ['e', 'l', 'i', 'f'] =>
      let (next, rest) ← reader.list false rest.tail
      let (other, rest) ← conditionRest reader depth next rest
      pure (.choice condition body other, rest)
    | some ['e', 'l', 's', 'e'] =>
      let (other, rest) ← reader.list false rest.tail
      let ((), rest) ← expect "fi" rest
      pure (.choice condition body other, rest)
    | _ =>
      let ((), rest) ← expect "fi" rest
      pure (.choice condition body .nothing, rest)

/-- Reads the body of a loop. -/
def loopBody (reader : Reader) (tokens : Tokens) : Read (Command × Tokens) := do
  let ((), rest) ← expect "do" tokens
  let (body, rest) ← reader.list false rest
  let ((), rest) ← expect "done" rest
  pure (body, rest)

/-- Reads a loop behind its first word. -/
def loop (reader : Reader) (onSuccess : Bool) (tokens : Tokens) : Read (Command × Tokens) := do
  let (condition, rest) ← reader.list false tokens
  let (body, rest) ← reader.loopBody rest
  pure (.loop onSuccess condition body, rest)

/-- Reads a loop through words behind its first word. -/
def forEach (reader : Reader) (tokens : Tokens) : Read (Command × Tokens) :=
  match tokens with
  | ⟨line, .word word⟩ :: rest =>
    match word.bare?.filter isName with
    | some name => do
      let (range, rest) ← takeRange rest
      let (body, rest) ← reader.loopBody rest
      pure (.forEach line name range body, rest)
    | none => .error (line, .badLoopVariable)
  | tokens => .error ((peek tokens).line, .badLoopVariable)

/-- Reads the cases of a selection up to its end. -/
def cases (reader : Reader) : (depth : Nat) → Tokens → Read (List (List Word × Command) × Tokens)
  | 0, tokens => refuse tokens none
  | depth + 1, tokens =>
    let tokens := skipLines tokens
    if keyword? tokens = some "esac" then .ok ([], tokens.tail)
    else do
      let start := if (peek tokens).token = .sign .opening then tokens.tail else tokens
      let (patterns, rest) ← takePatterns (start.length + 1) start
      let (body, rest) ← reader.list true rest
      match rest with
      | ⟨_, .sign .caseEnd⟩ :: rest =>
        let (later, rest) ← cases reader depth rest
        pure ((patterns, body) :: later, rest)
      | rest =>
        if keyword? rest = some "esac" then pure ([(patterns, body)], rest.tail)
        else refuse rest (some (inQuotes ";;"))

/-- Reads a selection behind its first word. -/
def select (reader : Reader) (tokens : Tokens) : Read (Command × Tokens) :=
  match tokens with
  | ⟨line, .word subject⟩ :: rest => do
    let rest := skipLines rest
    if keyword? rest = some "in" then
      let (cases, rest) ← reader.cases (rest.length + 1) rest.tail
      pure (.select line subject cases, rest)
    else refuse rest (some (inQuotes "in")) false
  | tokens => refuse tokens (some "word") false

/-- Reads a command that begins with a reserved word. -/
def compound (reader : Reader) (word : Text) (tokens : Tokens) : Read (Command × Tokens) :=
  match String.ofList word with
  | "if" => do
    let (condition, rest) ← reader.list false tokens.tail
    reader.conditionRest (rest.length + 1) condition rest
  | "while" => reader.loop true tokens.tail
  | "until" => reader.loop false tokens.tail
  | "for" => reader.forEach tokens.tail
  | "case" => reader.select tokens.tail
  | "\x7b" => do
    let (body, rest) ← reader.list false tokens.tail
    let ((), rest) ← expect "\x7d" rest
    pure (body, rest)
  | _ => refuse tokens none

/-- Reads a command with the redirections behind it. -/
def withRedirections (line : Nat) (read : Read (Command × Tokens)) : Read (Command × Tokens) := do
  let (command, rest) ← read
  let (redirections, rest) ← takeRedirections (rest.length + 1) rest
  pure (command.leading line redirections, rest)

/-- Reads a simple command. -/
def simple (tokens : Tokens) : Read (Command × Tokens) := do
  let ((words, redirections), rest) ← takeSimple (tokens.length + 1) tokens
  pure (.simple (peek tokens).line words redirections, rest)

/-- Reads one command of any form. -/
def commandWith (reader : Reader) (tokens : Tokens) : Read (Command × Tokens) :=
  let line := (peek tokens).line
  match tokens with
  | ⟨_, .sign .opening⟩ :: rest =>
    withRedirections line do
      let (body, rest) ← reader.list false rest
      match rest with
      | ⟨_, .sign .closing⟩ :: rest => pure (.subshell body, rest)
      | rest => refuse rest (some (inQuotes ")"))
  | ⟨_, .word word⟩ :: rest =>
    match keyword? tokens with
    | some keyword => withRedirections line (reader.compound keyword tokens)
    | none =>
      match rest with
      | ⟨_, .sign .opening⟩ :: inner =>
        if word.assignment?.isSome then refuse rest none
        else
          match inner with
          | ⟨_, .sign .closing⟩ :: rest =>
            match word.bare?.filter fun name => isName name && !isLasting name with
            | some name => do
              let (body, rest) ← reader.command (skipLines rest)
              pure (.function name body, rest)
            | none => .error (line, .badFunctionName)
          | inner => refuse inner (some (inQuotes ")")) false
      | _ => simple tokens
  | ⟨_, .redirect _ _⟩ :: _ => simple tokens
  | ⟨_, .document _ _⟩ :: _ => simple tokens
  | tokens => refuse tokens none

/-- Reads the commands of a pipeline behind the first one. -/
def pipesFrom (reader : Reader) : (fuel : Nat) → Tokens → Read (List Command × Tokens)
  | 0, tokens => .ok ([], tokens)
  | fuel + 1, tokens =>
    match tokens with
    | ⟨_, .sign .pipe⟩ :: rest => do
      let (command, rest) ← reader.command (skipLines rest)
      let (later, rest) ← pipesFrom reader fuel rest
      pure (command :: later, rest)
    | tokens => .ok ([], tokens)

/-- Reads a pipeline. -/
def pipeline (reader : Reader) (tokens : Tokens) : Read (Command × Tokens) := do
  let isNegated := keyword? tokens = some "!"
  let (first, rest) ← reader.command (if isNegated then tokens.tail else tokens)
  let (later, rest) ← reader.pipesFrom (rest.length + 1) rest
  let command := if later.isEmpty then first else .pipeline (first :: later)
  pure (if isNegated then .negated command else command, rest)

/-- Reads what is tied to a command by success and failure. -/
def tiesFrom (reader : Reader) : (fuel : Nat) → Command → Tokens → Read (Command × Tokens)
  | 0, command, tokens => .ok (command, tokens)
  | fuel + 1, command, tokens =>
    match tokens with
    | ⟨_, .sign .both⟩ :: rest => do
      let (next, rest) ← reader.pipeline (skipLines rest)
      tiesFrom reader fuel (.both command next) rest
    | ⟨_, .sign .either⟩ :: rest => do
      let (next, rest) ← reader.pipeline (skipLines rest)
      tiesFrom reader fuel (.either command next) rest
    | tokens => .ok (command, tokens)

/-- Reads pipelines that are tied by success and failure. -/
def tied (reader : Reader) (tokens : Tokens) : Read (Command × Tokens) := do
  let (first, rest) ← reader.pipeline tokens
  reader.tiesFrom (rest.length + 1) first rest

/-- Reads the commands of a list. Where `stopsAtLine`, the list ends with its line. -/
def listWith (reader : Reader) (stopsAtLine : Bool) :
    (fuel : Nat) → (mayBeEmpty : Bool) → Tokens → Read (List Command × Tokens)
  | 0, _, tokens => .ok ([], tokens)
  | fuel + 1, mayBeEmpty, tokens =>
    let tokens := if stopsAtLine then tokens else skipLines tokens
    let atEnd :=
      (peek tokens).token = .finish ∨ (mayBeEmpty ∧ !stopsAtLine ∧ endsList tokens) ∨
        (mayBeEmpty ∧ stopsAtLine ∧ (peek tokens).token = .lineEnd)
    if atEnd then .ok ([], tokens)
    else do
      let (command, rest) ← reader.tied tokens
      match rest with
      | ⟨_, .sign .ampersand⟩ :: rest =>
        let (later, rest) ← listWith reader stopsAtLine fuel true rest
        pure (.background command :: later, rest)
      | ⟨_, .sign .semicolon⟩ :: rest =>
        let (later, rest) ← listWith reader stopsAtLine fuel true rest
        pure (command :: later, rest)
      | ⟨_, .lineEnd⟩ :: rest =>
        if stopsAtLine then pure ([command], rest)
        else
          let (later, rest) ← listWith reader stopsAtLine fuel true rest
          pure (command :: later, rest)
      | ⟨_, .finish⟩ :: _ => pure ([command], rest)
      | rest => if stopsAtLine then refuse rest none else pure ([command], rest)

/-- The reader whose parts may be nested to a depth. -/
def ofDepth : (depth : Nat) → Reader
  | 0 =>
    { list := fun _ tokens => refuse tokens none
      command := fun tokens => refuse tokens none }
  | depth + 1 =>
    let inner := ofDepth depth
    { list := fun mayBeEmpty tokens => do
        let (commands, rest) ← inner.listWith false (tokens.length + 1) mayBeEmpty tokens
        pure (.ofList commands, rest)
      command := inner.commandWith }

end Reader

/-- The text of a script between an enclosure's signs, as it is read. -/
def enclosedText (between : Enclosure) (script : Text) : Text :=
  if between = .parentheses then script ++ [')'] else script

/-- Reads a whole script between parentheses or backquotes. -/
def readEnclosed (between : Enclosure) (tokens : Tokens) : Read (Unit × Tokens) := do
  let reader := Reader.ofDepth (2 * tokens.length + 4)
  let (_, rest) ← reader.list true tokens
  match (peek rest).token with
  | .sign .closing =>
    if between = .parentheses then pure ((), rest) else refuse rest none
  | .finish => pure ((), rest)
  | _ => refuse rest (if between = .parentheses then some (inQuotes ")") else none)

mutual

/-- What cannot be read in the scripts inside a word on a line. -/
def wordFault? : (depth : Nat) → (line : Nat) → Word → Option (Nat × SyntaxFault)
  | 0, _, _ => none
  | depth + 1, line, word => word.findSome? fun part =>
    match part with
    | .output script between _ => scriptFault? depth line between script
    | .parameter _ (.trimmed _ _ written) _ => writtenFault? depth line (Word.ofText written)
    | .parameter _ treatment isQuoted =>
      treatment.inner?.bind fun written =>
        writtenFault? depth line
          (if isQuoted then Word.ofQuotedText written else Word.ofText written)
    | .result calculation _ => writtenFault? depth line (Word.ofQuotedText calculation)
    | _ => none

/-- What cannot be read in a word inside a word. -/
def writtenFault? :
    (depth : Nat) → (line : Nat) → Except SyntaxFault Word → Option (Nat × SyntaxFault)
  | 0, _, _ => none
  | _, line, .error fault => some (line, fault)
  | depth + 1, line, .ok word => wordFault? depth line word

/-- What cannot be read in a script inside a word. -/
def scriptFault? :
    (depth : Nat) → (line : Nat) → Enclosure → Text → Option (Nat × SyntaxFault)
  | 0, _, _, _ => none
  | depth + 1, line, between, script =>
    let tokens := Token.list (enclosedText between script)
    match readEnclosed between tokens with
    | .error (inner, fault) => some (line + inner - 1, fault)
    | .ok _ => tokens.findSome? fun placed =>
      match placed.token with
      | .word word | .document _ word => wordFault? depth (line + placed.line - 1) word
      | _ => none

end

/-- The deepest nesting of scripts in words that is looked into. -/
def innerDepth : Nat := 100

/-- What cannot be read in the words of tokens. -/
def fault? (tokens : Tokens) : Option (Nat × SyntaxFault) :=
  tokens.findSome? fun placed =>
    match placed.token with
    | .word word | .document _ word => wordFault? innerDepth placed.line word
    | _ => none

/-- The next command of a script, with all that stands on its line, and the tokens behind it;
none at the end. -/
def next? (tokens : Tokens) : Read (Option (Command × Tokens)) :=
  let tokens := skipLines tokens
  if (peek tokens).token = .finish then .ok none
  else do
    let reader := Reader.ofDepth (2 * tokens.length + 4)
    let (commands, rest) ← reader.listWith true (tokens.length + 1) false tokens
    match fault? (tokens.take (tokens.length - rest.length)) with
    | some fault => .error fault
    | none => pure (some (.ofList commands, rest))

end Script

end Issuebook.Shell
