import Issuebook.Text.Basic

/-!
# Words

A word of a script is made of literal text and of parts whose text is known only when the
script runs: the values of parameters, the output of commands, the results of calculations.
What stands inside a part is kept as it is written and read when its turn comes.
-/

/-!
## Enclosures

Where a part of a script ends that is enclosed by parentheses, braces or backquotes: at the
sign that closes it, which is the first one outside all quotes and inner enclosures.
-/

namespace Issuebook.Shell

/-- What encloses text in a script. -/
inductive Enclosure where
  /-- Parentheses. -/
  | parentheses
  /-- The braces of a parameter, outside or inside double quotes. -/
  | braces (isQuoted : Bool)
  /-- Double quotes. -/
  | doubleQuotes
  /-- Single quotes. -/
  | singleQuotes
  /-- Backquotes. -/
  | backquotes
  deriving Repr, DecidableEq, Inhabited

namespace Enclosure

/-- The sign that closes an enclosure. -/
def closing : Enclosure → Char
  | parentheses => ')'
  | braces _ => '\x7d'
  | doubleQuotes => '"'
  | singleQuotes => '\''
  | backquotes => '`'

/-- Whether a backslash takes the meaning from the next character. -/
def allowsEscapes (enclosure : Enclosure) : Bool :=
  enclosure ≠ singleQuotes

/-- Whether double quotes keep the meaning from quotes and parentheses. -/
def isQuoted : Enclosure → Bool
  | doubleQuotes => true
  | braces isQuoted => isQuoted
  | _ => false

/-- The inner enclosure that a character opens; `afterDollar` tells whether a dollar sign comes
before it. -/
def opened? (outer : Enclosure) (afterDollar : Bool) (char : Char) : Option Enclosure :=
  match outer with
  | singleQuotes | backquotes => none
  | outer =>
    if char = '(' ∧ (afterDollar ∨ outer = parentheses) then some parentheses
    else if char = '\x7b' ∧ afterDollar then some (braces outer.isQuoted)
    else if char = '`' then some backquotes
    else if char = '"' ∧ outer ≠ doubleQuotes then some doubleQuotes
    else if char = '\'' ∧ !outer.isQuoted then some singleQuotes
    else none

/-- The text up to the sign that closes the outermost enclosure, and the text behind it.
`kept` holds the text so far, the last character first; `isEscaped` and `afterDollar` tell
what comes before. -/
def spanFrom (kept : Text) (isEscaped afterDollar : Bool) :
    (inner : List Enclosure) → (outer : Enclosure) → Text → Option (Text × Text)
  | _, _, [] => none
  | inner, outer, char :: rest =>
    let top := inner.headD outer
    if isEscaped then spanFrom (char :: kept) false false inner outer rest
    else if char = '\\' ∧ top.allowsEscapes then spanFrom (char :: kept) true false inner outer rest
    else if char = top.closing then
      match inner with
      | [] => some (kept.reverse, rest)
      | _ :: inner => spanFrom (char :: kept) false false inner outer rest
    else
      match top.opened? afterDollar char with
      | some more => spanFrom (char :: kept) false false (more :: inner) outer rest
      | none => spanFrom (char :: kept) false (char = '$') inner outer rest

/-- The text inside an enclosure that is open, and the text behind it. -/
def span? (enclosure : Enclosure) (text : Text) : Option (Text × Text) :=
  spanFrom [] false false [] enclosure text

end Enclosure

end Issuebook.Shell

namespace Issuebook.Shell

/-- What is made of the value of a parameter. In all but the first two, `written` is a word or
a pattern as it is written; where `countsEmpty`, an empty value is as good as none. -/
inductive Treatment where
  /-- The value itself. -/
  | value
  /-- The number of its characters. -/
  | length
  /-- The value, or a word when there is none. -/
  | standIn (countsEmpty : Bool) (written : Text)
  /-- The value, or a word that becomes the value when there is none. -/
  | settled (countsEmpty : Bool) (written : Text)
  /-- The value, or a complaint when there is none. -/
  | demanded (countsEmpty : Bool) (written : Text)
  /-- A word when there is a value, and nothing otherwise. -/
  | replaced (countsEmpty : Bool) (written : Text)
  /-- The value without what a pattern matches at its start or end. -/
  | trimmed (atEnd longest : Bool) (written : Text)
  deriving Repr, DecidableEq, Inhabited

/-- A part of a word. -/
inductive Part where
  /-- Text outside quotes. -/
  | bare (text : Text)
  /-- Text inside quotes. -/
  | quoted (text : Text)
  /-- What is made of the value of a parameter. -/
  | parameter (name : Text) (treatment : Treatment) (isQuoted : Bool)
  /-- The output of a script between parentheses or backquotes. -/
  | output (script : Text) (between : Enclosure) (isQuoted : Bool)
  /-- The result of a calculation. -/
  | result (calculation : Text) (isQuoted : Bool)
  /-- A parameter that is written in no known way. -/
  | unreadable
  deriving Repr, DecidableEq, Inhabited

namespace Treatment

/-- The word or the pattern that a treatment needs, if it needs one. -/
def inner? : Treatment → Option Text
  | value | length => none
  | standIn _ written | settled _ written | demanded _ written | replaced _ written
  | trimmed _ _ written => some written

end Treatment

/-- The text inside a part that is read as a word later. -/
def Part.inner? : Part → Option Text
  | parameter _ treatment _ => treatment.inner?
  | result calculation _ => some calculation
  | _ => none

/-- A word of a script. -/
abbrev Word := List Part

namespace Word

/-- The word when it is one piece of text outside quotes. -/
def bare? : Word → Option Text
  | [.bare text] => some text
  | _ => none

/-- Whether any part of a word is quoted text. -/
def hasQuotes (word : Word) : Bool :=
  word.any fun part =>
    match part with
    | .quoted _ => true
    | _ => false

/-- A bound for the nesting of words in a word: each is shorter than the one around it. -/
def depth (word : Word) : Nat :=
  word.foldl (fun depth part => Nat.max depth (part.inner?.getD []).length) 0 + 2

/-- The literal text of a word, with its other parts left out. -/
def literal (word : Word) : Text :=
  word.flatMap fun part =>
    match part with
    | .bare text | .quoted text => text
    | _ => []

end Word

/-- Whether a character can begin a name. -/
def isNameStart (char : Char) : Bool :=
  char.isAlpha || char = '_'

/-- Whether a character can stand in a name. -/
def isNameChar (char : Char) : Bool :=
  char.isAlphanum || char = '_'

/-- Whether a text is the name of a variable. -/
def isName (text : Text) : Bool :=
  (text.head?.any isNameStart) && text.all isNameChar

/-- The name and the value of a word that sets a variable. -/
def Word.assignment? : Word → Option (Text × Word)
  | .bare text :: rest =>
    match Text.cutAtChar? '=' text with
    | some (name, value) => if isName name then some (name, .bare value :: rest) else none
    | none => none
  | _ => none

/-- Whether a character alone names a parameter. -/
def isSpecialParameter (char : Char) : Bool :=
  char.isDigit || ['@', '*', '#', '?', '-', '$', '!'].contains char

end Issuebook.Shell
