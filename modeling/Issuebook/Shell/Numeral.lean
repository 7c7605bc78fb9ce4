import Issuebook.Number.Reading
import Issuebook.Number.Shortest
import Issuebook.Shell.Arithmetic

/-!
# Numerals

How programs read the number at the front of a text, and how they write numbers with a count
of places that is asked for. What is left of a text tells whether all of it was read.
-/

namespace Issuebook.Shell.Numeral

/-- What is read at the front of a text. -/
structure Front (α : Type) where
  /-- The number, if there is one. -/
  value : Option α
  /-- Whether it is below zero. -/
  isNegative : Bool
  /-- The text behind it. -/
  rest : Text

/-- Whether a character is blank in front of a number. -/
def isSpace (char : Char) : Bool :=
  char = ' ' || ('\t' ≤ char && char ≤ '\x0d')

/-- The whole number at the front of a text in base sixteen, eight or ten. -/
def whole (text : Text) : Front Nat :=
  let (isNegative, unsigned) := Text.takeSign (text.dropWhile isSpace)
  let digits (base : Nat) (text : Text) : Front Nat :=
    let (value, rest) := Arithmetic.takeDigits base text
    ⟨some value, isNegative, rest⟩
  match unsigned with
  | '0' :: mark :: digit :: rest =>
    if (mark = 'x' ∨ mark = 'X') ∧ (Arithmetic.digit? 16 digit).isSome then
      digits 16 (digit :: rest)
    else digits 8 unsigned
  | '0' :: _ => digits 8 unsigned
  | char :: _ => if char.isDigit then digits 10 unsigned else ⟨none, false, text⟩
  | [] => ⟨none, false, text⟩

/-- A number that is not negative, as a quotient. -/
structure Ratio where
  /-- The dividend. -/
  numerator : Nat
  /-- The divisor. -/
  denominator : Nat
  deriving Repr, DecidableEq, Inhabited

/-- The power of ten beyond which a number is as good as infinite, or as zero. -/
def powerLimit : Int := 5000

/-- A power of ten within the limit. -/
def bounded (power : Int) : Int :=
  if powerLimit < power then powerLimit else if power < -powerLimit then -powerLimit else power

/-- The real number at the front of a text, written with decimal digits. -/
def real (text : Text) : Front Ratio :=
  let (isNegative, unsigned) := Text.takeSign (text.dropWhile isSpace)
  let (before, rest) := Text.takeDigits unsigned
  let (behind, rest) :=
    match rest with
    | '.' :: rest => Text.takeDigits rest
    | rest => ([], rest)
  if before.isEmpty ∧ behind.isEmpty then ⟨none, false, text⟩
  else
    let (power, rest) : Int × Text :=
      match rest with
      | mark :: exponent =>
        let (isBelow, unsigned) := Text.takeSign exponent
        let (digits, left) := Text.takeDigits unsigned
        if (mark = 'e' ∨ mark = 'E') ∧ !digits.isEmpty then
          let size : Int := Text.digitsNumber digits
          (if isBelow then -size else size, left)
        else (0, rest)
      | [] => (0, rest)
    let digits := Text.digitsNumber (before ++ behind)
    let power := bounded (power - behind.length)
    let (numerator, denominator) := Binary64.timesTen power digits 1
    ⟨some ⟨numerator, denominator⟩, isNegative, rest⟩

namespace Ratio

/-- The nearest number whose mantissa has so many bits. -/
def withBits (bits : Nat) (ratio : Ratio) : Ratio :=
  if ratio.numerator = 0 then ratio
  else
    let estimate : Int := (ratio.numerator.log2 : Int) - ratio.denominator.log2 - bits
    let exponent : Int :=
      if Power.two bits ≤ Binary64.scaleToEven ratio.numerator ratio.denominator estimate then
        estimate + 1
      else estimate
    let mantissa := Binary64.scaleToEven ratio.numerator ratio.denominator exponent
    if 0 ≤ exponent then ⟨mantissa * Power.two exponent.toNat, 1⟩
    else ⟨mantissa, Power.two (-exponent).toNat⟩

/-- The number with a count of decimal places. -/
def fixed (places : Nat) (ratio : Ratio) : Text :=
  let units := Binary64.divideToEven (ratio.numerator * Power.ten places) ratio.denominator
  let digits := Text.padded (places + 1) units
  let cut := digits.length - places
  if places = 0 then digits else digits.take cut ++ '.' :: digits.drop cut

/-- The digits of a number, one in front of the point and so many behind it, and the power of
ten that goes with them. -/
def scientificDigits (places : Nat) (ratio : Ratio) : Nat × Int :=
  if ratio.numerator = 0 then (0, 0)
  else
    let power := Binary64.pointOf ratio.numerator ratio.denominator - 1
    let (numerator, denominator) :=
      Binary64.timesTen (places - power) ratio.numerator ratio.denominator
    let digits := Binary64.divideToEven numerator denominator
    if digits = Power.ten (places + 1) then (digits / 10, power + 1) else (digits, power)

/-- The exponent behind its letter, with its sign and at least two digits. -/
def exponentText (power : Int) : Text :=
  'e' :: (if power < 0 then '-' else '+') :: Text.padded 2 power.natAbs

/-- The number with one digit in front of the point and a power of ten. -/
def scientific (places : Nat) (ratio : Ratio) : Text :=
  let (digits, power) := scientificDigits places ratio
  let written := Text.padded (places + 1) digits
  let mantissa := if places = 0 then written else written.take 1 ++ '.' :: written.drop 1
  mantissa ++ exponentText power

/-- The text without the zeros at the end of its decimal places. -/
def dropZeros (text : Text) : Text :=
  if text.contains '.' then
    match Text.trimEndBy (· = '0') text |>.reverse with
    | '.' :: reversed => reversed.reverse
    | reversed => reversed.reverse
  else text

/-- The number with a count of digits that matter, in the shorter of two forms. -/
def general (keepsZeros : Bool) (count : Nat) (ratio : Ratio) : Text :=
  let count := if count = 0 then 1 else count
  let power := (scientificDigits (count - 1) ratio).2
  let drop (text : Text) : Text := if keepsZeros then text else dropZeros text
  if power < -4 ∨ (count : Int) ≤ power then
    let written := scientific (count - 1) ratio
    drop (written.takeWhile (· ≠ 'e')) ++ written.dropWhile (· ≠ 'e')
  else drop (fixed ((count : Int) - 1 - power).toNat ratio)

end Ratio

end Issuebook.Shell.Numeral
