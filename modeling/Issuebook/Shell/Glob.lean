import Issuebook.Text.Basic
import Issuebook.Disk.Files
import Issuebook.Shell.Program

/-!
# Glob patterns

A pattern matches a text character by character: a question mark stands for any character, a
star for any number of them, and brackets for one of the characters in them. A sign inside
quotes stands for itself.
-/

namespace Issuebook.Shell

/-- Characters from one to another. -/
structure Span where
  /-- The first character. -/
  first : Char
  /-- The last character. -/
  last : Char
  deriving Repr, DecidableEq, Inhabited

/-- An item of a pattern. -/
inductive GlobItem where
  /-- A character. -/
  | char (char : Char)
  /-- Any character. -/
  | one
  /-- Any number of characters. -/
  | many
  /-- A character in one of the spans, or in none of them. -/
  | among (isNegated : Bool) (spans : List Span)
  deriving Repr, DecidableEq, Inhabited

/-- A pattern. -/
abbrev Glob := List GlobItem

/-- A character of a pattern as it is written. -/
structure Glyph where
  /-- The character. -/
  char : Char
  /-- Whether it can be a sign; quoted characters cannot. -/
  isActive : Bool
  deriving Repr, DecidableEq, Inhabited

namespace GlobItem

/-- Whether an item stands for a character. -/
def admits (item : GlobItem) (char : Char) : Bool :=
  match item with
  | .char expected => expected = char
  | .one | .many => true
  | .among isNegated spans =>
    (spans.any fun span => span.first ≤ char && char ≤ span.last) != isNegated

end GlobItem

namespace Glob

/-- Every end of a text, the whole text first. -/
def ends : Text → List Text
  | [] => [[]]
  | char :: rest => (char :: rest) :: ends rest

/-- Whether a pattern matches a whole text. -/
def accepts : Glob → Text → Bool
  | [], text => text.isEmpty
  | .many :: glob, text => (ends text).any (accepts glob)
  | item :: glob, char :: rest => item.admits char && accepts glob rest
  | _ :: _, [] => false

/-- The classes of characters by name. -/
def classes : List (Text × List Span) :=
  [("alpha", [⟨'A', 'Z'⟩, ⟨'a', 'z'⟩]), ("digit", [⟨'0', '9'⟩]),
   ("alnum", [⟨'0', '9'⟩, ⟨'A', 'Z'⟩, ⟨'a', 'z'⟩]), ("upper", [⟨'A', 'Z'⟩]),
   ("lower", [⟨'a', 'z'⟩]), ("space", [⟨'\t', '\x0d'⟩, ⟨' ', ' '⟩]),
   ("blank", [⟨'\t', '\t'⟩, ⟨' ', ' '⟩]), ("xdigit", [⟨'0', '9'⟩, ⟨'A', 'F'⟩, ⟨'a', 'f'⟩]),
   ("punct", [⟨'!', '/'⟩, ⟨':', '@'⟩, ⟨'[', '\x60'⟩, ⟨'\x7b', '~'⟩]),
   ("print", [⟨' ', '~'⟩]), ("graph", [⟨'!', '~'⟩]), ("cntrl", [⟨'\x00', '\x1f'⟩])]

/-- The class written between colons at the front of glyphs, and the glyphs behind it. -/
def takeClass? (glyphs : List Glyph) : Option (List Span × List Glyph) :=
  let name := glyphs.takeWhile fun glyph => glyph.char ≠ ':'
  match glyphs.dropWhile fun glyph => glyph.char ≠ ':' with
  | ⟨':', _⟩ :: ⟨']', _⟩ :: rest =>
    (classes.lookup (name.map Glyph.char)).map fun spans => (spans, rest)
  | _ => none

/-- The spans inside brackets, and the glyphs behind them; none without a closing bracket. -/
def takeSpans? : (fuel : Nat) → (isFirst : Bool) → List Glyph → Option (List Span × List Glyph)
  | 0, _, _ => none
  | _, _, [] => none
  | fuel + 1, isFirst, glyph :: rest =>
    if glyph.char = ']' ∧ glyph.isActive ∧ !isFirst then some ([], rest)
    else
      let (spans, rest) :=
        match glyph, rest with
        | ⟨'[', true⟩, ⟨':', true⟩ :: inner => (takeClass? inner).getD ([⟨'[', '['⟩], rest)
        | glyph, ⟨'-', true⟩ :: last :: behind =>
          if last.char = ']' ∧ last.isActive then ([⟨glyph.char, glyph.char⟩], rest)
          else ([⟨glyph.char, last.char⟩], behind)
        | glyph, rest => ([⟨glyph.char, glyph.char⟩], rest)
      (takeSpans? fuel false rest).map fun (later, rest) => (spans ++ later, rest)

/-- The item that brackets write whose inside is at the front of glyphs, and the glyphs behind
it. -/
def takeBrackets? (glyphs : List Glyph) : Option (GlobItem × List Glyph) :=
  match glyphs with
  | ⟨'!', true⟩ :: rest =>
    (takeSpans? (rest.length + 1) true rest).map fun (spans, rest) => (.among true spans, rest)
  | glyphs =>
    (takeSpans? (glyphs.length + 1) true glyphs).map fun (spans, rest) =>
      (.among false spans, rest)

/-- The pattern that glyphs write. -/
def ofGlyphsFrom : (fuel : Nat) → List Glyph → Glob
  | 0, _ => []
  | _, [] => []
  | fuel + 1, glyph :: rest =>
    match glyph with
    | ⟨'*', true⟩ => .many :: ofGlyphsFrom fuel rest
    | ⟨'?', true⟩ => .one :: ofGlyphsFrom fuel rest
    | ⟨'[', true⟩ =>
      match takeBrackets? rest with
      | some (item, rest) => item :: ofGlyphsFrom fuel rest
      | none => .char '[' :: ofGlyphsFrom fuel rest
    | ⟨'\\', true⟩ =>
      match rest with
      | next :: rest => .char next.char :: ofGlyphsFrom fuel rest
      | [] => [.char '\\']
    | glyph => .char glyph.char :: ofGlyphsFrom fuel rest

/-- The pattern that glyphs write. -/
def ofGlyphs (glyphs : List Glyph) : Glob :=
  ofGlyphsFrom (glyphs.length + 1) glyphs

/-- Whether any sign of a pattern is among glyphs. -/
def hasSigns (glyphs : List Glyph) : Bool :=
  glyphs.any fun glyph => glyph.isActive && ['*', '?', '['].contains glyph.char

/-- The text without its shortest or longest beginning that a pattern matches. -/
def trimStart (glob : Glob) (longest : Bool) (text : Text) : Text :=
  let cuts := (List.range (text.length + 1)).map text.splitAt
  let cuts := if longest then cuts.reverse else cuts
  match cuts.find? fun (front, _) => accepts glob front with
  | some (_, rest) => rest
  | none => text

/-- The text without its shortest or longest end that a pattern matches. -/
def trimEnd (glob : Glob) (longest : Bool) (text : Text) : Text :=
  let cuts := (List.range (text.length + 1)).map text.splitAt
  let cuts := if longest then cuts else cuts.reverse
  match cuts.find? fun (_, rest) => accepts glob rest with
  | some (front, _) => front
  | none => text

end Glob

end Issuebook.Shell

/-!
## Patterns for paths

A pattern between slashes stands for the names in a directory that it matches; names that begin
with a dot only where the pattern does.
-/

namespace Issuebook.Shell

/-- The names in a directory; a dot is the directory itself, and two dots the one above it. -/
def namesIn (disk : Disk) (path : Path) : List Text :=
  match disk.walk path with
  | .ok (.there place .directory) =>
    [['.'], Path.up] ++ disk.nodes.filterMap fun (found, _) =>
      match Path.dropFront? place found with
      | some [name] => some (Bytes.encode name)
      | _ => none
  | _ => []

/-- The segments between slashes of a pattern for paths. -/
def pathSegments : List Glyph → List (List Glyph)
  | [] => [[]]
  | glyph :: rest =>
    if glyph.char = '/' then [] :: pathSegments rest
    else
      match pathSegments rest with
      | [] => [[glyph]]
      | segment :: segments => (glyph :: segment) :: segments

/-- The paths that begin with `written` and go on as the segments of a pattern say. -/
def matchingPaths (disk : Disk) (directory : Path) (written : Text) :
    List (List Glyph) → List Text
  | [] => []
  | segment :: segments =>
    let names :=
      if Glob.hasSigns segment then
        let glob := Glob.ofGlyphs segment
        let place := if written.isEmpty then directory else directory.join (Bytes.decode written)
        (namesIn disk place).filter fun name =>
          glob.accepts name && (name.head? ≠ some '.' || segment.head?.any fun glyph =>
            glyph.char = '.')
      else [segment.map Glyph.char]
    match segments with
    | [] =>
      (names.map (written ++ ·)).filter fun found =>
        match disk.walk (directory.join (Bytes.decode found)) false with
        | .ok (.there _ node) => !segment.isEmpty || node = .directory
        | _ => false
    | segments => names.flatMap fun name =>
      matchingPaths disk directory (written ++ name ++ ['/']) segments

/-- The texts that a field becomes: the paths that it matches, in order, or itself. -/
def pathsOrSelf (disk : Disk) (directory : Path) (field : List Glyph) : List Text :=
  let plain := field.map Glyph.char
  if !Glob.hasSigns field then [plain]
  else
    match matchingPaths disk directory [] (pathSegments field) with
    | [] => [plain]
    | paths => paths.mergeSort Text.le

end Issuebook.Shell
