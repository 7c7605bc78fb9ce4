import Issuebook.Number.Binary64
import Issuebook.Text.Basic
import Issuebook.Text.Table

/-!
# Reading numbers

The grammar of a written number: digits of any script with an optional sign, point and
exponent, or the names of infinity and of the number without a value. Single underscores
may stand between digits.
-/

namespace Issuebook

namespace Text

/-- A sign, when the text begins with one, and the rest. -/
def takeSign : Text → Bool × Text
  | '-' :: rest => (true, rest)
  | '+' :: rest => (false, rest)
  | text => (false, text)

/-- Digits of any script become ASCII digits. -/
def withPlainDigits (text : Text) : Text :=
  text.map fun char =>
    match digitValue? char with
    | some value => Char.ofNat (48 + value)
    | none => char

/-- The text without its underscores, when each stands between two digits; `afterDigit`
tells whether a digit came just before. -/
def dropUnderscores? (afterDigit : Bool) : Text → Option Text
  | [] => some []
  | '_' :: next :: rest =>
    if afterDigit && next.isDigit then dropUnderscores? false (next :: rest) else none
  | ['_'] => none
  | char :: rest => (dropUnderscores? char.isDigit rest).map (char :: ·)

/-- The ASCII digits at the front and the rest. -/
def takeDigits (text : Text) : Text × Text :=
  (text.takeWhile Char.isDigit, text.dropWhile Char.isDigit)

/-- The number that ASCII digits write; no digits write zero. -/
def digitsNumber (digits : Text) : Nat :=
  digits.foldl (fun number digit => number * 10 + (digit.val.toNat - 48)) 0

/-- The exponent after its mark, when the whole of `text` is one; no mark means zero. -/
def exponent? : Text → Option Int
  | [] => some 0
  | mark :: rest =>
    if mark = 'e' ∨ mark = 'E' then
      let (negative, digits) := takeSign rest
      if digits ≠ [] ∧ digits.all Char.isDigit then
        some (if negative then -(digitsNumber digits : Int) else digitsNumber digits)
      else none
    else none

end Text

namespace Binary64

open Text

/-- The number that unsigned ASCII text writes: digits with an optional point and exponent. -/
def ofDigits? (negative : Bool) (text : Text) : Option Binary64 :=
  let (whole, rest) := takeDigits text
  let (fraction, rest) :=
    match rest with
    | '.' :: rest => takeDigits rest
    | rest => ([], rest)
  let digits := whole ++ fraction
  if digits.isEmpty then none
  else
    (exponent? rest).map fun power =>
      let significant := digits.dropWhile (· = '0')
      ofDecimal negative (digitsNumber significant) significant.length
        (power - fraction.length)

/-- The number that unsigned ASCII text names or writes. -/
def ofUnsigned? (negative : Bool) (text : Text) : Option Binary64 :=
  let name := text.map Char.toLower
  if name = ("inf" : Text) ∨ name = ("infinity" : Text) then some (.infinite negative)
  else if name = ("nan" : Text) then some .nan
  else ofDigits? negative text

/-- The number a text writes, between white space. -/
def ofText? (text : Text) : Option Binary64 := do
  let plain ← dropUnderscores? false (withPlainDigits (trim text))
  let (negative, rest) := takeSign plain
  ofUnsigned? negative rest

end Binary64

end Issuebook

/-!
## Whole numbers in settings

How a whole number may be written where a person sets one: between white space, with a sign
or zeros in front, with single underscores among its digits and with a fraction of zeros. A
minus sign may come before the zeros or, with no zeros behind it, after them.
-/

namespace Issuebook.Number

/-- White space around a written number: blank characters but the separators U+001C to
U+001F. -/
def isMargin (char : Char) : Bool :=
  Text.isBlank char && !(28 ≤ char.val && char.val ≤ 31)

/-- The text behind a plus sign, unless a minus sign follows it. -/
def withoutPlus? : Text → Option Text
  | '+' :: '-' :: _ => none
  | '+' :: rest => some rest
  | text => some text

/-- The number behind a zero or an underscore, `last`, without the zeros and underscores at
its front; before a fraction and at the end `last` stays. A minus sign ends the zeros. -/
def withoutZerosFrom (last : Char) : Text → Option Text
  | [] => some [last]
  | '.' :: rest => some (last :: '.' :: rest)
  | char :: rest =>
    if char = '0' ∨ char = '_' then withoutZerosFrom char rest
    else if char.isDigit ∨ char = '-' then some (char :: rest)
    else none

/-- The number that begins with a digit, without the zeros at its front. -/
def withoutZeros? : Text → Option Text
  | '0' :: rest => withoutZerosFrom '0' rest
  | char :: rest => if char.isDigit then some (char :: rest) else none
  | [] => none

/-- The number without the zeros at its front or behind the minus sign at its front. -/
def withoutSignedZeros? : Text → Option Text
  | '-' :: rest => (withoutZeros? rest).map ('-' :: ·)
  | text => withoutZeros? text

/-- The number without a fraction that consists of zeros. -/
def withoutFraction (text : Text) : Text :=
  match Text.cutAtChar? '.' text with
  | some (whole, fraction) =>
    if fraction ≠ [] ∧ fraction.all (· = '0') then whole else text
  | none => text

/-- The number without its underscores, where none stands at an end or beside another. -/
def withoutUnderscores (text : Text) : Text :=
  if text.head? = some '_' ∨ text.getLast? = some '_' ∨ (Text.cutAt? ['_', '_'] text).isSome
  then text
  else text.filter (· ≠ '_')

/-- The number of ASCII digits that begin with no zero, unless zero is all they write. -/
def ofPlainDigits? (digits : Text) : Option Nat :=
  if digits ≠ [] ∧ digits.all Char.isDigit ∧ (digits.head? ≠ some '0' ∨ digits = ['0']) then
    some (Text.digitsNumber digits)
  else none

/-- The whole number of plain digits behind its minus sign, if it has one. -/
def ofPlain? : Text → Option Int
  | '-' :: digits => (ofPlainDigits? digits).map fun size => -(size : Int)
  | digits => (ofPlainDigits? digits).map fun size => (size : Int)

/-- The whole number that a text writes. -/
def ofWritten? (text : Text) : Option Int := do
  let unsigned ← withoutPlus? (Text.trimBy isMargin text)
  let significant ← withoutSignedZeros? unsigned
  ofPlain? (withoutUnderscores (withoutFraction significant))

/-- Two to the 63rd, the bound of the whole numbers of 64 bits with a sign. -/
def wordBound : Int := (Power.two 63 : Nat)

/-- Whether 64 bits with a sign hold a whole number. -/
def fitsWord (number : Int) : Bool :=
  -wordBound ≤ number && number < wordBound

/-- Whether a whole number can come from a floating-point setting: both bounds of the 64 bits
are out of reach. -/
def isWithinFloats (number : Int) : Bool :=
  -wordBound < number && number < wordBound

end Issuebook.Number
