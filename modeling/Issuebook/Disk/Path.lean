import Issuebook.Text.Basic

/-!
# Paths

A written path: its leading slashes and its segments. Empty segments and single dots
vanish when a path is read; double dots stay, because only a disk can tell where they
lead.
-/

namespace Issuebook

/-- How a path begins. -/
inductive Path.Anchor where
  /-- With a segment: the path is relative. -/
  | none
  /-- With one slash, or with three and more. -/
  | root
  /-- With two slashes. -/
  | doubleRoot
  deriving Repr, DecidableEq, Inhabited

/-- A written path. -/
structure Path where
  /-- How it begins. -/
  anchor : Path.Anchor
  /-- Its segments, none empty and none a single dot. -/
  segments : List Text
  deriving Repr, DecidableEq, Inhabited

namespace Path

/-- The segment that leads to the directory above. -/
def up : Text := ".."

/-- Whether a piece between slashes is a segment. -/
def isSegment (piece : Text) : Bool :=
  piece ≠ [] ∧ piece ≠ ['.']

/-- The anchor that a text begins with. -/
def anchorOf (text : Text) : Anchor :=
  match Text.countLeading '/' text with
  | 0 => .none
  | 2 => .doubleRoot
  | _ => .root

/-- The path that a text writes. -/
def ofText (text : Text) : Path where
  anchor := anchorOf text
  segments := (Text.splitOn '/' text).filter isSegment

/-- The slashes of an anchor. -/
def anchorText : Anchor → Text
  | .none => []
  | .root => ['/']
  | .doubleRoot => ['/', '/']

/-- The text of a path; the empty path is a dot. -/
def toText (path : Path) : Text :=
  match path.anchor, path.segments with
  | .none, [] => ['.']
  | anchor, segments => anchorText anchor ++ Text.join ['/'] segments

/-- Whether a path begins at the root. -/
def isAbsolute (path : Path) : Bool :=
  path.anchor ≠ .none

/-- The path `inner` as seen from `outer`: an absolute one stands for itself. -/
def append (outer inner : Path) : Path :=
  if inner.isAbsolute then inner else ⟨outer.anchor, outer.segments ++ inner.segments⟩

/-- A path extended by a written one. -/
def join (outer : Path) (inner : Text) : Path :=
  append outer (ofText inner)

/-- A path extended by one segment. -/
def child (path : Path) (segment : Text) : Path :=
  ⟨path.anchor, path.segments ++ [segment]⟩

/-- The path without its last segment. -/
def parent (path : Path) : Path :=
  ⟨path.anchor, path.segments.dropLast⟩

/-- The last segment, empty at the root. -/
def name (path : Path) : Text :=
  path.segments.getLastD []

/-- The segments of `segments` after `front`, when they begin with it. -/
def dropFront? : (front segments : List Text) → Option (List Text)
  | [], segments => some segments
  | _ :: _, [] => none
  | expected :: front, found :: segments =>
    if expected = found then dropFront? front segments else none

/-- The path seen from `base`, when it lies at or below it as written. -/
def relativeTo? (base path : Path) : Option Path :=
  if base.anchor = path.anchor then
    (dropFront? base.segments path.segments).map fun segments => ⟨.none, segments⟩
  else none

/-- The segments that remain when double dots are taken as written: each removes the
segment before it, and at the root it does nothing. -/
def tidy (kept : List Text) : List Text → List Text
  | [] => kept
  | segment :: rest =>
    if segment = up then tidy kept.dropLast rest
    else if isSegment segment then tidy (kept ++ [segment]) rest
    else tidy kept rest

/-- Lists of segments compare segment by segment, a shorter one before its extensions. -/
def segmentsLe : (left right : List Text) → Bool
  | [], _ => true
  | _ :: _, [] => false
  | first :: left, second :: right =>
    if first = second then segmentsLe left right else Text.le first second

end Path

end Issuebook
