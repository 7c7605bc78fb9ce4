import Issuebook.Number.Binary64
import Issuebook.Text.Basic

/-!
# Shortest decimals

The decimal with the fewest digits that rounds to a given positive number, and of those
the nearest to it. The reals that round to a number form an interval, which holds its
ends when the mantissa is even; the grids of one, two, … digits are tried in turn, and on
a grid the two neighbours of the number suffice.
-/

namespace Issuebook.Binary64

/-- A positive decimal: its digits as a number, and the place of the point, so that the
value is `0.digits` times ten to `point`. -/
structure Decimal where
  /-- The digits, as one number. -/
  digits : Nat
  /-- How many digits stand before the decimal point. -/
  point : Int
  deriving Repr, DecidableEq

/-- The number of decimal digits of a positive number. -/
def digitCount (number : Nat) : Nat :=
  (Nat.toDigits 10 number).length

/-- A fraction of natural numbers, multiplied by ten to `power`. -/
def timesTen (power : Int) (numerator denominator : Nat) : Nat × Nat :=
  if 0 ≤ power then (numerator * Power.ten power.toNat, denominator)
  else (numerator, denominator * Power.ten (-power).toNat)

/-- The interval of reals that round to a number, with the number itself: three numerators
over one denominator. -/
structure Neighbourhood where
  /-- The lower end. -/
  low : Nat
  /-- The number. -/
  value : Nat
  /-- The upper end. -/
  high : Nat
  /-- The common denominator. -/
  denominator : Nat
  /-- Whether the ends belong to the interval. -/
  closed : Bool

/-- The interval around a positive finite number. Below a power of two the numbers lie
twice as close. -/
def neighbourhood (mantissa : Nat) (exponent : Int) : Neighbourhood :=
  let quarter := exponent - 2
  let lowGap := if mantissa = Power.two 52 ∧ leastExponent < exponent then 1 else 2
  let scale (units : Nat) : Nat := if 0 ≤ quarter then units * Power.two quarter.toNat else units
  { low := scale (4 * mantissa - lowGap)
    value := scale (4 * mantissa)
    high := scale (4 * mantissa + 2)
    denominator := if 0 ≤ quarter then 1 else Power.two (-quarter).toNat
    closed := mantissa % 2 = 0 }

/-- The place of the point of a fraction: ten to `point` is the least power above it. -/
def pointOf (numerator denominator : Nat) : Int :=
  let estimate : Int := (digitCount numerator : Int) - (digitCount denominator : Int)
  let (scaledNumerator, scaledDenominator) := timesTen (-estimate) numerator denominator
  if scaledNumerator < scaledDenominator then estimate else estimate + 1

/-- The point of the grid with `count` digits that rounds to the number, when there is one:
the nearer of the two neighbours, a tie to the even digit. -/
def onGrid? (around : Neighbourhood) (point : Int) (count : Nat) : Option Nat :=
  let power : Int := (count : Int) - point
  let (low, denominator) := timesTen power around.low around.denominator
  let (value, _) := timesTen power around.value around.denominator
  let (high, _) := timesTen power around.high around.denominator
  let below := value / denominator
  let above := below + 1
  let holds (digits : Nat) : Bool :=
    let place := digits * denominator
    if around.closed then low ≤ place && place ≤ high else low < place && place < high
  let distance := 2 * (value % denominator)
  let belowIsNearer :=
    distance < denominator || (distance == denominator && below % 2 == 0)
  if holds below && (belowIsNearer || !holds above) then some below
  else if holds above then some above
  else none

/-- The shortest decimal found with at least `count` digits; `budget` bounds the search. -/
def shortestFrom (around : Neighbourhood) (point : Int) (count : Nat) : (budget : Nat) → Decimal
  | 0 => ⟨0, point⟩
  | budget + 1 =>
    match onGrid? around point count with
    | some digits =>
      if digits = Power.ten count then ⟨1, point + 1⟩ else ⟨digits, point⟩
    | none => shortestFrom around point (count + 1) budget

/-- The shortest decimal of a positive finite number; seventeen digits always suffice. -/
def shortest (mantissa : Nat) (exponent : Int) : Decimal :=
  let around := neighbourhood mantissa exponent
  shortestFrom around (pointOf around.value around.denominator) 1 17

end Issuebook.Binary64

/-!
## Written numbers

How a floating-point number is written: the shortest digits that read back, in positional
or scientific form by the place of the point.
-/

namespace Issuebook.Binary64

/-- The decisions of a way to write floating-point numbers. -/
structure Style where
  /-- The least place of the point for positional form. -/
  leastPoint : Int
  /-- The greatest place of the point for positional form. -/
  greatestPoint : Int
  /-- The least number of digits of an exponent. -/
  exponentWidth : Nat
  /-- The text of a number without a value. -/
  nanText : Text
  /-- The text of positive infinity. -/
  infinityText : Text

/-- Positional from 0.0001 up to 16 digits before the point; exponents have a sign and two
digits at least. -/
def plainStyle : Style where
  leastPoint := -3
  greatestPoint := 16
  exponentWidth := 2
  nanText := "nan"
  infinityText := "inf"

/-- Positional form: whole numbers keep a fraction of one zero. -/
def positional (digits : Text) (point : Int) : Text :=
  if point ≤ 0 then "0." ++ List.replicate (-point).toNat '0' ++ digits
  else
    let whole := point.toNat
    if digits.length ≤ whole then
      digits ++ List.replicate (whole - digits.length) '0' ++ ".0"
    else digits.take whole ++ '.' :: digits.drop whole

/-- Scientific form: one digit before the point, and no point without a fraction. -/
def scientific (style : Style) (digits : Text) (point : Int) : Text :=
  let power := point - 1
  let mantissa :=
    match digits with
    | [] => []
    | [digit] => [digit]
    | digit :: fraction => digit :: '.' :: fraction
  mantissa ++ 'e' :: (if power < 0 then '-' else '+') ::
    Text.padded style.exponentWidth power.natAbs

/-- The digits of a decimal without the zeros at their end. -/
def significant (digits : Nat) : Text :=
  Text.trimEndBy (· = '0') (Text.ofNat digits)

/-- The text of a number in a style. -/
def write (style : Style) : Binary64 → Text
  | .nan => style.nanText
  | .infinite negative => (if negative then ['-'] else []) ++ style.infinityText
  | .finite negative mantissa exponent =>
    (if negative then ['-'] else []) ++
      if mantissa = 0 then ("0.0" : Text)
      else
        let decimal := shortest mantissa exponent
        let digits := significant decimal.digits
        if style.leastPoint ≤ decimal.point ∧ decimal.point ≤ style.greatestPoint then
          positional digits decimal.point
        else scientific style digits decimal.point

/-- The text of a number in plain style. -/
def toText (number : Binary64) : Text :=
  write plainStyle number

end Issuebook.Binary64
