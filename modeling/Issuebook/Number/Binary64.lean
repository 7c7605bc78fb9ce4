/-!
# Binary floating point

The numbers of the 64-bit binary format as exact values: a sign, a mantissa below two to
the 53rd and a power of two. Rounding takes an exact quotient to the nearest number, and
of two equally near ones to the one with the even mantissa.
-/

/-!
## Powers

Powers of two and of ten as natural numbers.
-/

namespace Issuebook.Power

/-- Two to a power. -/
def two (exponent : Nat) : Nat :=
  Nat.pow 2 exponent

/-- Ten to a power. -/
def ten (exponent : Nat) : Nat :=
  Nat.pow 10 exponent

end Issuebook.Power

namespace Issuebook

/-- A 64-bit binary floating-point number. A finite one is the mantissa times two to the
exponent; its mantissa has 53 bits unless the exponent is -1074. -/
inductive Binary64 where
  /-- The result of an operation without a value. -/
  | nan
  /-- Beyond every finite number. -/
  | infinite (negative : Bool)
  /-- The mantissa times two to the exponent, negated when asked. -/
  | finite (negative : Bool) (mantissa : Nat) (exponent : Int)
  deriving Repr, DecidableEq, Inhabited

namespace Binary64

/-- The exponent of the smallest numbers. -/
def leastExponent : Int := -1074

/-- The exponent of the largest numbers. -/
def greatestExponent : Int := 971

/-- Zero. -/
def zero : Binary64 := .finite false 0 leastExponent

/-- One. -/
def one : Binary64 := .finite false (Power.two 52) (-52)

/-- The quotient rounded to the nearest integer, a half to the even one. -/
def divideToEven (numerator denominator : Nat) : Nat :=
  let quotient := numerator / denominator
  let twice := 2 * (numerator % denominator)
  if twice < denominator then quotient
  else if denominator < twice then quotient + 1
  else if quotient % 2 = 0 then quotient else quotient + 1

/-- The quotient divided by two to `exponent`, rounded to the nearest integer. -/
def scaleToEven (numerator denominator : Nat) (exponent : Int) : Nat :=
  if 0 ≤ exponent then divideToEven numerator (denominator * Power.two exponent.toNat)
  else divideToEven (numerator * Power.two (-exponent).toNat) denominator

/-- The number with a mantissa of at most 53 bits or the carry out of them. -/
def ofParts (negative : Bool) (mantissa : Nat) (exponent : Int) : Binary64 :=
  if mantissa = Power.two 53 then
    if greatestExponent < exponent + 1 then .infinite negative
    else .finite negative (Power.two 52) (exponent + 1)
  else if greatestExponent < exponent then .infinite negative
  else .finite negative mantissa exponent

/-- The exponent that gives a positive quotient a mantissa of 53 bits, or the least one. -/
def exponentOf (numerator denominator : Nat) : Int :=
  let estimate : Int := (numerator.log2 : Int) - (denominator.log2 : Int) - 52
  let enough : Bool :=
    if 0 ≤ estimate then denominator * Power.two 52 * Power.two estimate.toNat ≤ numerator
    else denominator * Power.two 52 ≤ numerator * Power.two (-estimate).toNat
  let exponent := if enough then estimate else estimate - 1
  if exponent < leastExponent then leastExponent else exponent

/-- The number nearest to a quotient of natural numbers. -/
def ofRatio (negative : Bool) (numerator denominator : Nat) : Binary64 :=
  if numerator = 0 then .finite negative 0 leastExponent
  else
    let exponent := exponentOf numerator denominator
    ofParts negative (scaleToEven numerator denominator exponent) exponent

/-- The number nearest to an integer; an integer too large for every finite number has none. -/
def ofInt? (number : Int) : Option Binary64 :=
  match ofRatio (number < 0) number.natAbs 1 with
  | .infinite _ => none
  | rounded => some rounded

/-- The number nearest to `digits` times ten to `power`. Powers far out of range need no
arithmetic: `length` is the number of digits. -/
def ofDecimal (negative : Bool) (digits length : Nat) (power : Int) : Binary64 :=
  if digits = 0 then .finite negative 0 leastExponent
  else if 400 < (length : Int) + power then .infinite negative
  else if (length : Int) + power < -400 then .finite negative 0 leastExponent
  else if 0 ≤ power then ofRatio negative (digits * Power.ten power.toNat) 1
  else ofRatio negative digits (Power.ten (-power).toNat)

/-- The greatest integer not above a finite number. -/
def floor? : Binary64 → Option Int
  | .finite negative mantissa exponent =>
    let signed : Int := if negative then -(mantissa : Int) else mantissa
    if 0 ≤ exponent then some (signed * (Power.two exponent.toNat : Nat))
    else some (signed.fdiv (Power.two (-exponent).toNat : Nat))
  | _ => none

/-- The integer that a finite number is, when it is one. -/
def toInt? (number : Binary64) : Option Int :=
  match number with
  | .finite negative mantissa exponent =>
    let signed : Int := if negative then -(mantissa : Int) else mantissa
    if 0 ≤ exponent then some (signed * (Power.two exponent.toNat : Nat))
    else if mantissa % Power.two (-exponent).toNat = 0 then
      some (signed.fdiv (Power.two (-exponent).toNat : Nat))
    else none
  | _ => none

/-- Equality of values: no number equals `nan`, and the two zeros are equal. -/
def sameValue : (left right : Binary64) → Bool
  | .nan, _ => false
  | _, .nan => false
  | .infinite left, .infinite right => left == right
  | .finite left mantissa exponent, .finite right mantissa' exponent' =>
    mantissa == mantissa' && exponent == exponent' && (left == right || mantissa == 0)
  | _, _ => false

/-- The exact value of a finite number times two to the 1074th. -/
def scaled : Binary64 → Int
  | .finite negative mantissa exponent =>
    let size : Int := (mantissa * Power.two (exponent - leastExponent).toNat : Nat)
    if negative then -size else size
  | _ => 0

/-- Whether a finite number is below another. -/
def lessThan (left right : Binary64) : Bool :=
  left.scaled < right.scaled

end Binary64

end Issuebook
