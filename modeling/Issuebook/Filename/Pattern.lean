import Issuebook.Text.Basic
import Issuebook.Text.Case
import Issuebook.Text.Word
import Issuebook.Fault

/-!
# Filename patterns

A pattern is literal text with variables in brackets. How a variable is written decides how
its value is shaped: a capital first letter asks for capitals, a dash in front for a slug.
-/

namespace Issuebook

/-- How the value of a variable is shaped for a filename. -/
inductive Shape where
  /-- Words are kept. -/
  | preserve
  /-- Small letters and dashes. -/
  | slugify
  /-- Words begin with capitals. -/
  | capitalize
  deriving Repr, DecidableEq, Inhabited

/-- The name of a shape. -/
def Shape.name : Shape → Text
  | .preserve => "preserve"
  | .slugify => "slugify"
  | .capitalize => "capitalize"

/-- A piece of a filename pattern. -/
inductive Piece where
  /-- Text that stands for itself. -/
  | literal (text : Text)
  /-- A variable by its name in small letters. -/
  | variable (name : Text) (shape : Shape)
  deriving Repr, DecidableEq, Inhabited

namespace Pattern

/-- The shape that the spelling of a variable and the character before it ask for. -/
def shapeOf (previous : Option Char) (name : Text) : Shape :=
  if ((Text.trim name).head?.any Text.isCapital) then .capitalize
  else if previous = some '-' then .slugify
  else .preserve

/-- Puts a character at the front of the first literal. -/
def consLiteral (char : Char) : List Piece → List Piece
  | .literal text :: pieces => .literal (char :: text) :: pieces
  | pieces => .literal [char] :: pieces

/-- The pieces of the rest of a pattern. `position` counts the characters before it, `skip`
those of a variable that is already read, and `previous` is the character before it. -/
def scan (pattern : Text) (position : Nat) (previous : Option Char) :
    (skip : Nat) → Text → Except Fault (List Piece)
  | _, [] => .ok []
  | skip + 1, char :: rest => scan pattern (position + 1) (some char) skip rest
  | 0, char :: rest =>
    if char = '[' then
      match Text.cutAtChar? ']' rest with
      | none => .error (.unclosedBracket position pattern)
      | some (name, _) =>
        if Text.isAllBlank name then .error (.emptyVariable position pattern)
        else
          (scan pattern (position + 1) (some char) (name.length + 1) rest).map fun pieces =>
            .variable (Text.lower (Text.trim name)) (shapeOf previous name) :: pieces
    else (scan pattern (position + 1) (some char) 0 rest).map (consLiteral char)

/-- The pieces of a pattern. -/
def read (pattern : Text) : Except Fault (List Piece) :=
  scan pattern 0 none 0 pattern

/-- The pattern for issues without another one. -/
def standard : Text := "[id]-[title].md"

end Pattern

end Issuebook
