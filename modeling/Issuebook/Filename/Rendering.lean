import Issuebook.Filename.Pattern
import Issuebook.Issue.Basic
import Issuebook.Text.Table
import Issuebook.Text.Shape
import Issuebook.Time.Reading

/-!
# Rendering filenames

The name that a pattern gives an issue. A variable without a value takes one delimiter next
to it along, and a title gives way when the name grows too long.
-/

namespace Issuebook.Filename

/-- The length a name may have before its title is cut. -/
def lengthLimit : Nat := 100

/-- The characters that separate the parts of a name. -/
def isDelimiter (char : Char) : Bool :=
  char == '-' || char == ' ' || char == '_' || char == '/'

/-- The value of a title in a shape. -/
def shaped (shape : Shape) (title : Text) : Text :=
  match shape with
  | .preserve => Text.tidyTitle title
  | .slugify => Text.slug title
  | .capitalize => Text.capitalTitle title

/-- A date of digits and dashes at the front of a text, as written. -/
def dateAtFront? (text : Text) : Option Text :=
  let front := text.take 10
  let fits := front.length = 10 ∧
    (front.zipIdx.all fun (char, index) =>
      if index = 4 ∨ index = 7 then char = '-' else Text.isDecimalDigit char)
  if fits then some front else none

/-- The date of a written time: the date at its front, or the day of the time stamp it
writes, or else today. -/
def dateText (today : Date) (created : Option Text) : Text :=
  let written := Text.trim (Issue.textOrEmpty created)
  match dateAtFront? written with
  | some date => date
  | none =>
    match Stamp.readParts written with
    | some (date, _, _) => date.toText
    | none => today.toText

/-- The name of an assignee: the part before the first at sign, when there is one. -/
def userName (assignee : Option Text) : Text :=
  let written := Issue.textOrEmpty assignee
  match Text.cutAtChar? '@' written with
  | some (before, _) => if before.isEmpty then written else before
  | none => written

/-- The value of a variable for an issue; an unknown variable has none. -/
def valueOf (today : Date) (issue : Issue) (name : Text) (shape : Shape) : Text :=
  if name = ("id" : Text) then issue.id
  else if name = ("title" : Text) then shaped shape issue.title
  else if name = ("type" : Text) then issue.kind.name
  else if name = ("priority" : Text) then Text.ofNat issue.priority.val
  else if name = ("assignee" : Text) then userName issue.assignee
  else if name = ("yyyy-mm-dd" : Text) then dateText today issue.createdAt
  else []

/-- A name while it is rendered. -/
structure Progress where
  /-- What is rendered so far. -/
  rendered : Text
  /-- Whether a delimiter at the front of the next literal is dropped. -/
  dropsDelimiter : Bool
  /-- Whether the last piece was a literal. -/
  afterLiteral : Bool

/-- Nothing is rendered yet. -/
def Progress.start : Progress := ⟨[], false, false⟩

/-- The name after a literal. -/
def Progress.addLiteral (progress : Progress) (literal : Text) : Progress :=
  let kept :=
    if progress.dropsDelimiter && literal.head?.any isDelimiter then literal.tail else literal
  ⟨progress.rendered ++ kept, false, true⟩

/-- The name after the value of a variable. -/
def Progress.addValue (progress : Progress) (value : Text) : Progress :=
  if value.isEmpty then
    if progress.afterLiteral && progress.rendered.getLast?.any isDelimiter then
      ⟨progress.rendered.dropLast, progress.dropsDelimiter, false⟩
    else ⟨progress.rendered, progress.dropsDelimiter || progress.rendered.isEmpty, false⟩
  else ⟨progress.rendered ++ value, false, false⟩

/-- The name after a piece whose variables have the given values. -/
def Progress.add (values : Text → Shape → Text) (progress : Progress) : Piece → Progress
  | .literal text => progress.addLiteral text
  | .variable name shape => progress.addValue (values name shape)

/-- The name that pieces make of the values of their variables. -/
def assemble (values : Text → Shape → Text) (pieces : List Piece) : Text :=
  (pieces.foldl (Progress.add values) Progress.start).rendered

/-- The values of an issue. -/
def issueValues (today : Date) (issue : Issue) : Text → Shape → Text :=
  valueOf today issue

/-- The values of an issue with another text for every title. -/
def valuesWithTitle (today : Date) (issue : Issue) (title : Text) : Text → Shape → Text :=
  fun name shape => if name = ("title" : Text) then title else valueOf today issue name shape

/-- The number of characters before the last one that satisfies a test. -/
def lastIndexOf? (test : Char → Bool) (text : Text) : Option Nat :=
  (text.reverse.findIdx? test).map fun fromEnd => text.length - 1 - fromEnd

/-- The text cut to a length, at the last space or dash if it lies in the second half. -/
def cutAtWord (text : Text) (limit : Int) : Text :=
  if (text.length : Int) ≤ limit then text
  else if limit ≤ 0 then []
  else
    let isEdge (char : Char) : Bool := char == ' ' || char == '-'
    let cut := text.take limit.toNat
    let cut :=
      match lastIndexOf? isEdge cut with
      | some boundary => if limit.toNat / 2 < boundary then cut.take boundary else cut
      | none => cut
    Text.trimEndBy isEdge cut

/-- The shape of the first title among pieces. -/
def titleShape? (pieces : List Piece) : Option Shape :=
  pieces.findSome? fun piece =>
    match piece with
    | .variable name shape => if name = ("title" : Text) then some shape else none
    | .literal _ => none

/-- The name of pieces for an issue, with the title cut by what the name is too long. -/
def fit (today : Date) (issue : Issue) (pieces : List Piece) : Text :=
  let name := assemble (issueValues today issue) pieces
  match titleShape? pieces with
  | none => name
  | some shape =>
    if name.length ≤ lengthLimit then name
    else
      let title := shaped shape issue.title
      let limit : Int := (title.length : Int) - ((name.length : Int) - lengthLimit)
      assemble (valuesWithTitle today issue (cutAtWord title limit)) pieces

end Issuebook.Filename
