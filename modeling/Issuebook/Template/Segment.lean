import Issuebook.Document.Metadata
import Issuebook.Text.Word

/-!
# Template segments

A template is literal text with slots between braces. Doubled braces around text without
braces stand for single ones. The segments of a template are in normal form: no literal is
empty, and no two literals are neighbours.
-/

namespace Issuebook

/-- A piece of a template. -/
inductive Segment where
  /-- Text that stands for itself. -/
  | literal (text : Text)
  /-- A place for the value at a path of names with dots between them. -/
  | slot (path : Text)
  deriving Repr, DecidableEq, Inhabited

namespace Segment

/-- Whether a text is a name on the way to a value. -/
def isName (text : Text) : Bool :=
  !text.isEmpty && text.all Text.isWordChar

/-- Whether a character can begin the first name of a path. -/
def opensPath (char : Char) : Bool :=
  char.isAlpha || char == '_'

/-- Whether a text is a path: names with dots between them, the first one not beginning with
a digit or a letter beyond ASCII. -/
def isPath (text : Text) : Bool :=
  text.head?.any opensPath && (Text.splitOn '.' text).all isName

/-- Whether a character can stand in a path. -/
def isPathChar (char : Char) : Bool :=
  char == '.' || Text.isWordChar char

/-- Whether a character is a brace. -/
def isBrace (char : Char) : Bool :=
  char == '{' || char == '}'

/-- A text between braces. -/
def braced (text : Text) : Text :=
  '{' :: (text ++ ['}'])

/-- The text between doubled braces at the front of a template. -/
def escaped? : Text → Option Text
  | '{' :: '{' :: rest =>
    let inner := rest.takeWhile fun char => !isBrace char
    if Text.startsWith (rest.drop inner.length) ['}', '}'] then some inner else none
  | _ => none

/-- The path of the slot at the front of a template. -/
def slot? : Text → Option Text
  | '{' :: rest =>
    let path := rest.takeWhile isPathChar
    if (rest.drop path.length).head? = some '}' && isPath path then some path else none
  | _ => none

/-- Puts text at the front of segments, as a part of their first literal if there is one. -/
def consText (text : Text) : List Segment → List Segment
  | .literal next :: segments => .literal (text ++ next) :: segments
  | segments => .literal text :: segments

/-- The segments of a template behind `skip` characters that are already read. -/
def scan : (skip : Nat) → Text → List Segment
  | _, [] => []
  | skip + 1, _ :: rest => scan skip rest
  | 0, char :: rest =>
    match escaped? (char :: rest) with
    | some inner => consText (braced inner) (scan (inner.length + 3) rest)
    | none =>
      match slot? (char :: rest) with
      | some path => .slot path :: scan (path.length + 1) rest
      | none => consText [char] (scan 0 rest)

/-- The segments of a template. -/
def ofTemplate (template : Text) : List Segment :=
  scan 0 template

end Segment

end Issuebook

/-!
## Template directives

A template may begin with a metadata block. Its lines that begin with a dollar sign are
directives to the program and are not rendered; a block of nothing else vanishes.
-/

namespace Issuebook.Template

/-- The metadata block of a template, cut from what follows it. All lines keep their
boundaries. -/
structure Block where
  /-- The lines between the fences. -/
  inner : List Text
  /-- The lines behind the second fence. -/
  rest : List Text
  deriving Repr, DecidableEq

/-- The metadata block that a template begins with. -/
def block? (template : Text) : Option Block :=
  match Text.linesWithBreaks template with
  | [] => none
  | first :: rest =>
    if Document.isFence first then
      (Document.cutAtFence? rest).map fun (inner, after) => ⟨inner, after⟩
    else none

/-- Whether a line is a directive. -/
def isDirective (line : Text) : Bool :=
  Text.startsWith (Text.trimStart line) ['$']

/-- The lines of a block that are directives. -/
def Block.directiveLines (block : Block) : List Text :=
  block.inner.filter isDirective

/-- The lines of a block that are rendered. -/
def Block.keptLines (block : Block) : List Text :=
  block.inner.filter fun line => !isDirective line

/-- The directives of a template under their names without dollar signs. -/
def directives (template : Text) : Entries Value :=
  match block? template with
  | none => []
  | some block =>
    Entries.ofList <|
      (Metadata.read (block.directiveLines.map Text.trim)).map fun (key, value) =>
        (Text.trimStartBy (· = '$') key, value)

/-- The filename pattern that a template asks for. -/
def pattern? (template : Text) : Option Text :=
  match (directives template).get? "pattern" with
  | some (.text pattern) => if Text.isAllBlank pattern then none else some pattern
  | _ => none

/-- The template without its directives. -/
def withoutDirectives (template : Text) : Text :=
  match block? template with
  | none => template
  | some block =>
    if block.directiveLines.isEmpty then template
    else if block.keptLines.all Text.isAllBlank then block.rest.flatten
    else
      let fenceLine := fence ++ ['\n']
      fenceLine ++ block.keptLines.flatten ++ fenceLine ++ block.rest.flatten

end Issuebook.Template
