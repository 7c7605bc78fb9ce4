import Issuebook.Text.Basic

/-!
# Tables of code points

Character properties are tables beyond ASCII. A table is kept as rows of hexadecimal
numbers and decoded once: ranges as pairs of a gap and a size, runs of a
character map as quadruples, single entries as the character and what it becomes.
-/

namespace Issuebook.Text

/-- The value of a lower-case hexadecimal digit. -/
def hexValue (char : Char) : Nat :=
  if char.isDigit then char.val.toNat - 48 else char.val.toNat - 87

/-- The hexadecimal number a text writes. -/
def hexNumber (text : Text) : Nat :=
  text.foldl (fun number char => number * 16 + hexValue char) 0

/-- The hexadecimal numbers between spaces. -/
def hexNumbers (text : Text) : List Nat :=
  if text.isEmpty then [] else (splitOn ' ' text).map hexNumber

/-- A run of code points, both ends included. -/
structure CodeRange where
  /-- The first code point. -/
  first : Nat
  /-- The last code point. -/
  last : Nat
  deriving Repr, DecidableEq

/-- The ranges written as pairs of a gap since the previous range and a size. -/
def rangesFrom (start : Nat) : List Nat → List CodeRange
  | gap :: size :: rest =>
    ⟨start + gap, start + gap + size - 1⟩ :: rangesFrom (start + gap + size) rest
  | _ => []

/-- The ranges beyond ASCII that the rows of a table write. -/
def readRanges (rows : List String) : List CodeRange :=
  rangesFrom 128 (rows.flatMap fun row => hexNumbers row.toList)

/-- Whether a code point lies in one of the ranges. -/
def inRanges (ranges : List CodeRange) (code : Nat) : Bool :=
  ranges.any fun range => range.first ≤ code && code ≤ range.last

/-- A run of characters that map to characters at the same distances. -/
structure MapRun where
  /-- The first character of the run. -/
  first : Nat
  /-- The number of characters in the run. -/
  count : Nat
  /-- The distance between neighbours of the run. -/
  stride : Nat
  /-- What the first character maps to. -/
  target : Nat
  deriving Repr, DecidableEq

/-- A character map beyond ASCII: runs, and single characters with their expansions. -/
structure CharMap where
  /-- Runs of characters that map to one character each. -/
  runs : List MapRun
  /-- Characters that map to any number of characters. -/
  singles : List (Nat × List Nat)

/-- The runs written as quadruples of first, count, stride and target. -/
def runsFrom : List Nat → List MapRun
  | first :: count :: stride :: target :: rest => ⟨first, count, stride, target⟩ :: runsFrom rest
  | _ => []

/-- The map that the rows of two tables write: its runs, and its single entries between
semicolons. -/
def readMap (runRows singleRows : List String) : CharMap where
  runs := runsFrom (runRows.flatMap fun row => hexNumbers row.toList)
  singles := (singleRows.flatMap fun row => splitOn ';' row.toList).filterMap fun entry =>
    match hexNumbers entry with
    | [] => none
    | code :: targets => some (code, targets)

/-- What a run maps a code point to, when the code point is in the run. -/
def MapRun.apply? (run : MapRun) (code : Nat) : Option Nat :=
  if run.first ≤ code && (code - run.first) % run.stride = 0 &&
      (code - run.first) / run.stride < run.count then
    some (run.target + (code - run.first))
  else none

/-- What a map makes of a character; a character it does not name stays. -/
def CharMap.apply (map : CharMap) (char : Char) : Text :=
  let code := char.val.toNat
  match map.runs.findSome? fun run => run.apply? code with
  | some target => [Char.ofNat target]
  | none =>
    match map.singles.lookup code with
    | some targets => targets.map Char.ofNat
    | none => [char]

end Issuebook.Text

/-!
## Decimal digits

A decimal digit is a character of category Nd. The digits of one script stand together
from zero to nine, so a script is known by its zero.
-/

namespace Issuebook.Text

/-- The zeros of all scripts. -/
def digitZeros : List Nat :=
  [0x30, 0x660, 0x6F0, 0x7C0, 0x966, 0x9E6, 0xA66, 0xAE6, 0xB66, 0xBE6, 0xC66, 0xCE6, 0xD66,
   0xDE6, 0xE50, 0xED0, 0xF20, 0x1040, 0x1090, 0x17E0, 0x1810, 0x1946, 0x19D0, 0x1A80,
   0x1A90, 0x1B50, 0x1BB0, 0x1C40, 0x1C50, 0xA620, 0xA8D0, 0xA900, 0xA9D0, 0xA9F0, 0xAA50,
   0xABF0, 0xFF10, 0x104A0, 0x10D30, 0x11066, 0x110F0, 0x11136, 0x111D0, 0x112F0, 0x11450,
   0x114D0, 0x11650, 0x116C0, 0x11730, 0x118E0, 0x11950, 0x11C50, 0x11D50, 0x11DA0, 0x16A60,
   0x16AC0, 0x16B50, 0x1D7CE, 0x1D7D8, 0x1D7E2, 0x1D7EC, 0x1D7F6, 0x1E140, 0x1E2F0, 0x1E950,
   0x1FBF0]

/-- The value of a decimal digit of any script. -/
def digitValue? (char : Char) : Option Nat :=
  (digitZeros.find? fun start => start ≤ char.val.toNat && char.val.toNat ≤ start + 9).map
    fun start => char.val.toNat - start

/-- Whether a character is a decimal digit of any script. -/
def isDecimalDigit (char : Char) : Bool :=
  (digitValue? char).isSome

/-- The digits that are not decimal: superscripts, subscripts and enclosed digits. -/
def nonDecimalDigitTable : List CodeRange := readRanges
  ["32 2 5 1 12af 9 668 1 695 1 3 6 6 a 3d6 9 b 9 b 9 59 1 a 9 1 1 276 9 1 9 1 9 e2ad 4 41c 9",
   "1e9 9 e0a5 b"]

/-- Decimal digits and the digits that stand in no decimal number. -/
def isAnyDigit (char : Char) : Bool :=
  isDecimalDigit char || inRanges nonDecimalDigitTable char.val.toNat

/-- The number a text of decimal digits writes, when it is one. -/
def decimalNumber? (text : Text) : Option Nat :=
  if text.isEmpty then none
  else (text.mapM digitValue?).map fun digits =>
    digits.foldl (fun number digit => number * 10 + digit) 0

end Issuebook.Text
