import Issuebook.Shell.Glob
import Issuebook.Shell.State
import Issuebook.Text.Table

/-!
# Fields

A word becomes a row of marks: characters that know whether they were quoted and whether they
can cut fields, and the places where there is a field in any case. The fields are what stands
between the cuts.
-/

namespace Issuebook.Shell

/-- A piece of what a word becomes. -/
inductive Mark where
  /-- A character, and whether it can cut fields. -/
  | glyph (glyph : Glyph) (isCut : Bool)
  /-- The end of a field. -/
  | boundary
  /-- Quotes: there is a field, even an empty one. -/
  | presence
  deriving Repr, DecidableEq, Inhabited

namespace Mark

/-- The marks of a value. -/
def ofValue (isQuoted : Bool) (value : Text) : List Mark :=
  if isQuoted then presence :: value.map fun char => glyph ⟨char, false⟩ false
  else value.map fun char => glyph ⟨char, true⟩ true

/-- The glyphs of marks, with a separator between fields. -/
def glyphs (separator : Text) (marks : List Mark) : List Glyph :=
  marks.flatMap fun mark =>
    match mark with
    | .glyph found _ => [found]
    | .boundary => separator.map fun char => ⟨char, false⟩
    | .presence => []

/-- The text of marks, with a separator between fields. -/
def text (separator : Text) (marks : List Mark) : Text :=
  (glyphs separator marks).map Glyph.char

end Mark

/-- Fields up to a point: finished ones, the last one first, and the one that is begun. -/
structure Fields where
  /-- The finished fields, the last one first. -/
  finished : List (List Glyph) := []
  /-- The field that is begun, its last glyph first. -/
  current : Option (List Glyph) := none
  /-- Whether blanks have just finished a field. -/
  isOpen : Bool := false
  deriving Repr, Inhabited

namespace Fields

/-- Finishes the field that is begun. -/
def finish (fields : Fields) : Fields :=
  match fields.current with
  | some field => { fields with finished := field.reverse :: fields.finished, current := none }
  | none => fields

/-- Whether a character that cuts fields is blank. -/
def isBlank (char : Char) : Bool :=
  char = ' ' || char = '\t' || char = '\n'

/-- Adds a mark; `cutters` are the characters that cut fields. -/
def add (cutters : Text) (fields : Fields) : Mark → Fields
  | .presence => { fields with current := some (fields.current.getD []), isOpen := false }
  | .boundary => { fields.finish with isOpen := false }
  | .glyph glyph isCut =>
    if isCut ∧ cutters.contains glyph.char then
      if isBlank glyph.char then
        if fields.current.isSome then { fields.finish with isOpen := true } else fields
      else if fields.isOpen then { fields with isOpen := false }
      else ({ fields with current := some (fields.current.getD []) } : Fields).finish
    else { fields with current := some (glyph :: fields.current.getD []), isOpen := false }

/-- The fields of marks. -/
def ofMarks (cutters : Text) (marks : List Mark) : List (List Glyph) :=
  (marks.foldl (add cutters) {}).finish.finished.reverse

end Fields

end Issuebook.Shell

/-!
## Parameters

What stands behind a dollar sign: a variable, an argument by its number, or one of the values
that a shell keeps about itself.
-/

namespace Issuebook.Shell

namespace State

/-- The characters that cut fields. -/
def cutters (shell : State) : Text :=
  (shell.valueOf? "IFS").getD [' ', '\t', '\n']

/-- What is set between all arguments when they are one text. -/
def separator (shell : State) : Text :=
  match shell.valueOf? "IFS" with
  | none => [' ']
  | some cutters => cutters.take 1

/-- The order in which the letters of options are told. -/
def optionOrder : List Char :=
  ['e', 'f', 'I', 'i', 'm', 'n', 's', 'x', 'v', 'V', 'E', 'C', 'a', 'b', 'u']

/-- The value of a parameter, if it has one. -/
def parameter? (shell : State) (name : Text) : Option Text :=
  match name with
  | ['$'] => some (Text.ofNat shell.number)
  | ['?'] => some (Text.ofNat shell.status)
  | ['#'] => some (Text.ofNat shell.arguments.length)
  | ['-'] => some (optionOrder.filter shell.hasOption)
  | ['!'] => shell.lastBackground.map Text.ofNat
  | ['0'] => some shell.name
  | ['@'] | ['*'] =>
    some (Text.join shell.separator shell.arguments)
  | name =>
    if name.head?.any Char.isDigit then
      match Text.decimalNumber? name with
      | some 0 => some shell.name
      | some (index + 1) => shell.arguments[index]?
      | none => none
    else shell.valueOf? name

/-- The marks of all arguments, each in a field of its own. -/
def argumentMarks (shell : State) (isQuoted : Bool) : List Mark :=
  ((shell.arguments.map (Mark.ofValue isQuoted)).intersperse [.boundary]).flatten

/-- The marks of the value of a parameter; quotes make a field even of no value. -/
def valueMarks (shell : State) (name : Text) (isQuoted : Bool) : List Mark :=
  match name with
  | ['@'] => shell.argumentMarks isQuoted
  | ['*'] =>
    if isQuoted then Mark.ofValue true (Text.join shell.separator shell.arguments)
    else shell.argumentMarks false
  | name => Mark.ofValue isQuoted ((shell.parameter? name).getD [])

end State

end Issuebook.Shell
