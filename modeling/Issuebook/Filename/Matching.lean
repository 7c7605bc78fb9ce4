import Issuebook.Filename.Pattern
import Issuebook.Entries
import Issuebook.Text.Table

/-!
# Matching filenames

How a name is cut into pieces that fit a pattern. Every variable takes one character at
least and as few as the rest allows; the last literal is compared without regard to case.
-/

namespace Issuebook.Filename

/-- Letters, digits and the underscore of ASCII. -/
def isAsciiWord (char : Char) : Bool :=
  char.isAlphanum || char == '_'

/-- Whether a text is any number of dots, each with digits behind it. -/
def isDottedNumbers : Text → Bool
  | [] => true
  | '.' :: rest =>
    (Text.splitOn '.' rest).all fun piece => !piece.isEmpty && piece.all Text.isDecimalDigit
  | _ => false

/-- The strict form of identifiers: a word, a dash, three to eight letters or digits, and
numbers behind dots. -/
def isStrictId (text : Text) : Bool :=
  match Text.cutAtChar? '-' text with
  | none => false
  | some (head, rest) =>
    let code := rest.takeWhile Char.isAlphanum
    !head.isEmpty && head.all isAsciiWord && 3 ≤ code.length && code.length ≤ 8 &&
      isDottedNumbers (rest.drop code.length)

/-- The liberal form of values: word characters, dots and dashes. -/
def isLiberalValue (text : Text) : Bool :=
  !text.isEmpty && text.all fun char => Text.isWordChar char || char == '.' || char == '-'

/-- The form of titles: anything but slashes. -/
def isTitleValue (text : Text) : Bool :=
  !text.isEmpty && text.all (· ≠ '/')

/-- The form of dates: four, two and two digits with dashes between them. -/
def isDateValue (text : Text) : Bool :=
  text.length = 10 ∧
    (text.zipIdx.all fun (char, index) =>
      if index = 4 ∨ index = 7 then char = '-' else Text.isDecimalDigit char)

/-- Whether a piece is the variable with a name. -/
def Piece.isNamed (name : Text) : Piece → Bool
  | .variable found _ => found == name
  | .literal _ => false

/-- Whether a text can be the value of a variable that the pieces `rest` follow. -/
def accepts (strictId : Bool) (rest : List Piece) (name value : Text) : Bool :=
  if name = ("id" : Text) then
    if strictId && rest.any (Piece.isNamed "title") then isStrictId value
    else isLiberalValue value
  else if name = ("title" : Text) then isTitleValue value
  else if name = ("yyyy-mm-dd" : Text) then isDateValue value
  else isLiberalValue value

/-- The cuts of a text into a front and a rest, with `taken` in front of every front; the
shortest front comes first. -/
def cutsFrom (taken : Text) : Text → List (Text × Text)
  | [] => []
  | char :: rest => (taken ++ [char], rest) :: cutsFrom (taken ++ [char]) rest

/-- The cuts of a text into a non-empty front and a rest, shortest front first. -/
def cuts (text : Text) : List (Text × Text) :=
  cutsFrom [] text

/-- Whether a text begins as a literal in front of the pieces asks, or no literal does: one at the
end has to be the whole text, in any case. -/
def canBegin : List Piece → Text → Bool
  | [.literal literal], text => Text.foldCase text = Text.foldCase literal
  | .literal literal :: _, text => Text.startsWith text literal
  | _, _ => true

/-- The values of the variables of pieces in a text, when the pieces fit it. -/
def capture (strictId : Bool) : List Piece → Text → Option (List (Text × Text))
  | [], text => if text.isEmpty then some [] else none
  | [.literal literal], text =>
    if Text.foldCase text = Text.foldCase literal then some [] else none
  | [.variable name _], text =>
    if !text.isEmpty && accepts strictId [] name text then some [(name, text)] else none
  | .literal literal :: next :: rest, text =>
    match Text.dropHead? literal text with
    | some after => capture strictId (next :: rest) after
    | none => none
  | .variable name _ :: next :: rest, text =>
    (cuts text).findSome? fun (value, after) =>
      if canBegin (next :: rest) after && accepts strictId (next :: rest) name value then
        (capture strictId (next :: rest) after).map fun captured => (name, value) :: captured
      else none

/-- The identifier in a text that pieces fit; of several the last counts. -/
def captureId (strictId : Bool) (pieces : List Piece) (text : Text) : Option Text :=
  (capture strictId pieces text).bind fun captured =>
    (Entries.ofList captured).get? "id"

/-- The identifier that a pattern finds in a filename. The strict form is tried first. -/
def idOf (filename pattern : Text) : Except Fault (Option Text) :=
  (Pattern.read pattern).map fun pieces =>
    if pieces.any (Piece.isNamed "id") then
      match captureId true pieces filename with
      | some id => some id
      | none => captureId false pieces filename
    else none

end Issuebook.Filename
