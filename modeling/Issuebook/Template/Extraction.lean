import Issuebook.Entries
import Issuebook.Template.Segment
import Issuebook.Text.Basic

/-!
# Extraction

What an edited document says about the slots of its template. The literals of the template
are looked for in order; what stands before a literal belongs to the slot in front of it. A
literal that is not found leaves the slots on both its sides without a value, and so does
a slot next to a slot.
-/

/-!
## Anchors

A literal of a template as it may stand in an edited document. Its words stand as they are;
white space between them may grow, shrink to one character, and at the ends vanish, while
white space with a line feed needs a line feed still. White space and words alternate, so
each piece takes all the white space it can without a choice.
-/

namespace Issuebook

/-- A piece of an anchor. -/
inductive AnchorPiece where
  /-- Characters without white space, which stand as they are. -/
  | word (text : Text)
  /-- White space with a line feed in it. -/
  | newline
  /-- One space or tab at least. -/
  | gap
  /-- Spaces and tabs, if any. -/
  | margin
  deriving Repr, DecidableEq, Inhabited

namespace Anchor

/-- Puts a character at the front of the first run if both are white space or both are not. -/
def consRun (char : Char) : List Text → List Text
  | (next :: run) :: runs =>
    if Text.isBlank char = Text.isBlank next then (char :: next :: run) :: runs
    else [char] :: (next :: run) :: runs
  | runs => [char] :: runs

/-- The maximal runs of white space and of other characters, in order. -/
def runs : Text → List Text
  | [] => []
  | char :: rest => consRun char (runs rest)

/-- The piece of a run; `inside` tells whether runs stand on both sides of it or on none. -/
def pieceOf (inside : Bool) (run : Text) : AnchorPiece :=
  if !Text.isAllBlank run then .word run
  else if '\n' ∈ run then .newline
  else if inside then .gap
  else .margin

/-- The pieces of runs behind the first one. -/
def laterPieces : List Text → List AnchorPiece
  | [] => []
  | [run] => [pieceOf false run]
  | run :: next :: rest => pieceOf true run :: laterPieces (next :: rest)

/-- The anchor of a literal. -/
def ofLiteral (literal : Text) : List AnchorPiece :=
  match runs literal with
  | [] => []
  | [run] => [pieceOf true run]
  | run :: rest => pieceOf false run :: laterPieces rest

/-- Whether a character is a space or a tab. -/
def isGapChar (char : Char) : Bool :=
  char == ' ' || char == '\t'

/-- What remains of a text after a piece, when the text begins with it. -/
def dropPiece? (piece : AnchorPiece) (text : Text) : Option Text :=
  match piece with
  | .word word => Text.dropHead? word text
  | .newline =>
    if '\n' ∈ text.takeWhile Text.isBlank then some (text.dropWhile Text.isBlank) else none
  | .gap => if text.head?.any isGapChar then some (text.dropWhile isGapChar) else none
  | .margin => some (text.dropWhile isGapChar)

/-- What remains of a text after pieces, when the text begins with them. -/
def drop? : List AnchorPiece → Text → Option Text
  | [], text => some text
  | piece :: pieces, text => (dropPiece? piece text).bind (drop? pieces)

/-- The text before the first place of an anchor and the text after it. -/
def cutAt? (pieces : List AnchorPiece) : Text → Option (Text × Text)
  | [] => (drop? pieces []).map fun after => ([], after)
  | char :: rest =>
    match drop? pieces (char :: rest) with
    | some after => some ([], after)
    | none => (cutAt? pieces rest).map fun (before, after) => (char :: before, after)

end Anchor

end Issuebook

/-! ## Slots and what stands in them -/

namespace Issuebook

/-- What a document says about one slot of a template. -/
structure Capture where
  /-- The path of the slot. -/
  path : Text
  /-- The trimmed text in its place, never empty. -/
  found : Option Text
  deriving Repr, DecidableEq, Inhabited

/-- What a document says about all slots of a template. -/
structure Extraction where
  /-- The values found, nested along their paths. -/
  data : Entries Value
  /-- The share of the slots that have a value. -/
  confidence : Binary64
  /-- The paths of the slots without a value. -/
  unmatched : List Text

namespace Extraction

/-- The trimmed text of a place whose beginning is `known`, when something remains of it. -/
def textAt (known : Bool) (place : Text) : Option Text :=
  let inner := Text.trim place
  if known && !inner.isEmpty then some inner else none

/-- One capture per slot, in order. `rest` is the document behind the last literal that was
found, and `known` tells whether no literal was missed since. -/
def captures (known : Bool) (rest : Text) : List Segment → List Capture
  | [] => []
  | [.slot path] => [⟨path, textAt known rest⟩]
  | .slot path :: .slot next :: segments =>
    ⟨path, none⟩ :: captures known rest (.slot next :: segments)
  | .slot path :: .literal literal :: segments =>
    match Anchor.cutAt? (Anchor.ofLiteral literal) rest with
    | some (before, after) => ⟨path, textAt known before⟩ :: captures true after segments
    | none => ⟨path, none⟩ :: captures false rest segments
  | .literal literal :: segments =>
    match Anchor.cutAt? (Anchor.ofLiteral literal) rest with
    | some (_, after) => captures true after segments
    | none => captures false rest segments

/-- The segments without a blank literal at their end. -/
def dropBlankEnd (segments : List Segment) : List Segment :=
  match segments.getLast? with
  | some (.literal literal) =>
    if Text.isAllBlank literal then segments.dropLast else segments
  | _ => segments

/-- The data with a value under nested names. A value that is there stays, and what stands
in the way of a nested name gives way. -/
def assign (value : Text) : List Text → Entries Value → Entries Value
  | [], data => data
  | [name], data => if data.has name then data else data.put name (.text value)
  | name :: next :: names, data =>
    let inner := ((data.get? name).map Value.fields).getD []
    data.put name (.record (assign value (next :: names) inner))

/-- The data with what a capture found. -/
def record (data : Entries Value) (capture : Capture) : Entries Value :=
  match capture.found with
  | some value => assign value (Text.splitOn '.' capture.path) data
  | none => data

/-- The sum of captures. -/
def ofCaptures (captures : List Capture) : Extraction where
  data := captures.foldl record []
  confidence :=
    if captures.isEmpty then Binary64.one
    else
      Binary64.ofRatio false (captures.countP fun capture => capture.found.isSome)
        captures.length
  unmatched := (captures.filter fun capture => capture.found.isNone).map Capture.path

/-- What a document says about the slots of a template. -/
def ofDocument (template document : Text) : Extraction :=
  ofCaptures <|
    captures true document
      (dropBlankEnd (Segment.ofTemplate (Template.withoutDirectives template)))

end Extraction

end Issuebook
