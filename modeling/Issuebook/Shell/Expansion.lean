import Issuebook.Shell.Arithmetic
import Issuebook.Shell.Field
import Issuebook.Shell.Glob
import Issuebook.Shell.Scanner

/-!
# Expansion

What the words of a command become when it runs. The values of parameters, outputs and results
take the places of their parts; outside quotes they are cut into fields, and a field that is a
pattern becomes the paths that it matches.
-/

namespace Issuebook.Shell

/-- How the output of a script inside a word is got. -/
abbrev Capture := Text → Act Text

namespace Expansion

/-- What is said about a calculation without a result. -/
def calculationText (written : Text) : CalculationFault → Text
  | .illegalNumber value => ("Illegal number: " : Text) ++ value
  | .fixedVariable name => name ++ (": is read only" : Text)
  | fault =>
    let reason : Text :=
      match fault with
      | .noPrimary => "expecting primary"
      | .notFinished => "expecting EOF"
      | .notClosed => "expecting ')'"
      | .noColon => "expecting ':'"
      | _ => "division by zero"
    ("arithmetic expression: " : Text) ++ reason ++ (": \"" : Text) ++ written ++ ['"']

/-- The result of a calculation. -/
def calculate (written : Text) : Act Text := do
  let shell ← get
  let outcome :=
    (Arithmetic.read written).bind fun expression =>
      Arithmetic.evaluate State.valueOf?
        (fun shell name value =>
          if shell.isFixed name then none else some (shell.setVariable name value))
        expression shell
  match outcome with
  | .ok (number, after) =>
    set after
    pure (Text.ofInt number)
  | .error fault => Act.fail (calculationText written fault)

/-- The home directory that is written behind a tilde. -/
def home? (shell : State) (user : Text) : Option Text :=
  if user.isEmpty then shell.valueOf? "HOME"
  else if user = ("root" : Text) then some "/root"
  else none

/-- The marks of text outside quotes that may begin with a home directory. -/
def homeMarks (shell : State) (isCut : Bool) (text : Text) : List Mark :=
  let bare (text : Text) : List Mark := text.map fun char => .glyph ⟨char, true⟩ isCut
  match text with
  | '~' :: rest =>
    match home? shell (rest.takeWhile (· ≠ '/')) with
    | some home =>
      (home.map fun char => Mark.glyph ⟨char, false⟩ false) ++ bare (rest.dropWhile (· ≠ '/'))
    | none => bare text
  | text => bare text

/-- The marks of what is made of the value of a parameter; `expand` gives those of a word
inside it. -/
def parameterMarks (expand : (isQuoted : Bool) → Text → Act (List Mark)) (name : Text)
    (treatment : Treatment) (isQuoted : Bool) : Act (List Mark) := do
  let shell ← get
  let value := shell.parameter? name
  let counts (countsEmpty : Bool) : Bool := value.any fun value => !(countsEmpty && value.isEmpty)
  let own := shell.valueMarks name isQuoted
  let demand (act : Act (List Mark)) : Act (List Mark) :=
    if value.isNone ∧ shell.hasOption 'u' then Act.fail (name ++ (": parameter not set" : Text))
    else act
  match treatment with
  | .value => demand (pure own)
  | .length =>
    demand (pure (Mark.ofValue isQuoted (Text.ofNat (value.getD []).length)))
  | .standIn countsEmpty written =>
    if counts countsEmpty then pure own else expand isQuoted written
  | .replaced countsEmpty written =>
    if counts countsEmpty then expand isQuoted written else pure (Mark.ofValue isQuoted [])
  | .settled countsEmpty written =>
    if counts countsEmpty then pure own
    else
      let text := Mark.text shell.separator (← expand isQuoted written)
      if isName name then
        Act.assign name text
        pure (Mark.ofValue isQuoted text)
      else Act.fail (name ++ (": bad variable name" : Text))
  | .demanded countsEmpty written =>
    if counts countsEmpty then pure own
    else
      let reason : Text ←
        if written.isEmpty then
          pure (if countsEmpty then "parameter not set or null" else "parameter not set")
        else pure (Mark.text shell.separator (← expand isQuoted written))
      Act.fail (name ++ (": " : Text) ++ reason)
  | .trimmed atEnd longest written =>
    demand do
      let glob := Glob.ofGlyphs (Mark.glyphs shell.separator (← expand false written))
      let value := value.getD []
      pure (Mark.ofValue isQuoted
        (if atEnd then glob.trimEnd longest value else glob.trimStart longest value))

/-- Drops the quotes around all arguments when there are none. -/
def dropNoArguments (shell : State) : Word → Word
  | .quoted [] :: .parameter ['@'] .value true :: rest =>
    if shell.arguments.isEmpty then dropNoArguments shell rest
    else .quoted [] :: .parameter ['@'] .value true :: dropNoArguments shell rest
  | part :: rest => part :: dropNoArguments shell rest
  | [] => []

/-- The marks of the parts of a word; `expand` gives those of a word inside a part. -/
def marksWith (capture : Capture) (expand : (isQuoted : Bool) → Text → Act (List Mark))
    (isInner : Bool) : (isFirst : Bool) → Word → Act (List Mark)
  | _, [] => pure []
  | isFirst, part :: parts => do
    let shell ← get
    let marks ←
      match part with
      | .bare text =>
        pure (if isFirst then homeMarks shell isInner text
          else text.map fun char => .glyph ⟨char, true⟩ isInner)
      | .quoted text => pure (Mark.ofValue true text)
      | .parameter name treatment isQuoted => parameterMarks expand name treatment isQuoted
      | .output script _ isQuoted => pure (Mark.ofValue isQuoted (← capture script))
      | .result calculation isQuoted =>
        let written := Mark.text shell.separator (← expand true calculation)
        pure (Mark.ofValue isQuoted (← calculate written))
      | .unreadable => Act.fail "Bad substitution"
    let later ← marksWith capture expand isInner false parts
    pure (marks ++ later)

/-- The marks of a word whose parts hold words nested to a depth. -/
def marksFrom (capture : Capture) : (depth : Nat) → (isInner : Bool) → Word → Act (List Mark)
  | 0, _, _ => Act.fail "Bad substitution"
  | depth + 1, isInner, word => do
    let expand (isQuoted : Bool) (written : Text) : Act (List Mark) :=
      match if isQuoted then Word.ofQuotedText written else Word.ofText written with
      | .ok word => marksFrom capture depth true word
      | .error fault => Act.fail (("Syntax error: " : Text) ++ fault.message)
    marksWith capture expand isInner true (dropNoArguments (← get) word)

/-- The marks of a word. -/
def marks (capture : Capture) (word : Word) : Act (List Mark) :=
  marksFrom capture word.depth false word

/-- The fields of a word. -/
def fields (capture : Capture) (word : Word) : Act (List Text) := do
  let found ← marks capture word
  let shell ← get
  let fields := Fields.ofMarks shell.cutters found
  pure (if shell.hasOption 'f' then fields.map fun field => field.map Glyph.char
    else fields.flatMap (pathsOrSelf shell.disk shell.directory))

/-- The text of a word that stays in one piece. -/
def single (capture : Capture) (word : Word) : Act Text := do
  let found ← marks capture word
  pure (Mark.text (← get).separator found)

/-- The pattern that a word writes. -/
def pattern (capture : Capture) (word : Word) : Act Glob := do
  let found ← marks capture word
  pure (Glob.ofGlyphs (Mark.glyphs (← get).separator found))

/-- The pieces of a value that is given to a variable: each colon may have a home directory
behind it. -/
def valuePieces : Word → List Word
  | [] => [[]]
  | .bare text :: rest =>
    match (Text.splitOn ':' text).reverse with
    | [] => valuePieces rest
    | last :: before =>
      match valuePieces rest with
      | [] => before.reverse.map (fun piece => [.bare piece]) ++ [[.bare last]]
      | piece :: pieces =>
        before.reverse.map (fun piece => [.bare piece]) ++ (.bare last :: piece) :: pieces
  | part :: rest =>
    match valuePieces rest with
    | [] => [[part]]
    | piece :: pieces => (part :: piece) :: pieces

/-- The text of a word that is given to a variable. -/
def value (capture : Capture) (word : Word) : Act Text := do
  let pieces ← (valuePieces word).mapM (single capture)
  pure (Text.join [':'] pieces)

end Expansion

end Issuebook.Shell
