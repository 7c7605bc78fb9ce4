import Issuebook.Number.Binary64
import Mathlib.Tactic.Ring
import Mathlib.Tactic.Linarith

/-!
# The range of floating-point numbers

Where rounding reaches a bound. The whole numbers that have a floating-point number near them are
those that are less than half a step beyond the greatest one (`ofInt?_eq_none`), and a share of a
whole is rounded to one when the rest is no more than half a step (`ofRatio_eq_one`).
-/

namespace Issuebook.Binary64

/-- The least size of the whole numbers that no floating-point number is near: half a step beyond
the greatest one, which is odd. -/
def sizeLimit : Nat := (2 ^ 54 - 1) * 2 ^ 970

variable {number denominator mantissa : Nat} {exponent : Int} {negative : Bool}

/-- A quotient below an even number is rounded up to it from the half on. -/
theorem divideToEven_eq_even {half : Nat} (below : number < (2 * half + 2) * denominator) :
    divideToEven number denominator = 2 * half + 2 ↔
      (4 * half + 3) * denominator ≤ 2 * number := by
  have positive : 0 < denominator := Nat.pos_of_ne_zero fun zero => by simp [zero] at below
  have whole := Nat.div_add_mod number denominator
  have rest := Nat.mod_lt number positive
  have quotient : number / denominator < 2 * half + 2 := (Nat.div_lt_iff_lt_mul positive).mpr below
  unfold divideToEven
  dsimp only
  rcases Nat.lt_or_ge (number / denominator) (2 * half + 1) with less | more
  · have product : denominator * (number / denominator) ≤ denominator * (2 * half) :=
      Nat.mul_le_mul_left denominator (Nat.le_of_lt_succ less)
    have beyond : 2 * number < (4 * half + 3) * denominator := by linarith
    refine iff_of_false ?_ (Nat.not_le.mpr beyond)
    split_ifs <;> omega
  · obtain same : number / denominator = 2 * half + 1 := by omega
    rw [same] at whole ⊢
    have doubled : 2 * number = (4 * half + 2) * denominator + 2 * (number % denominator) := by
      linarith
    have split : (4 * half + 3) * denominator = (4 * half + 2) * denominator + denominator := by
      ring
    rw [doubled, split]
    split_ifs <;> omega

/-- The exponent of a whole number gives it a mantissa of 53 bits. -/
theorem exponentOf_one (present : number ≠ 0) :
    exponentOf number 1 = (number.log2 : Int) - 52 := by
  have size := Nat.log2_self_le present
  have enough {estimate : Int} (same : estimate = (number.log2 : Int) - 52) :
      (if 0 ≤ estimate then
        decide (1 * Power.two 52 * Power.two estimate.toNat ≤ number)
      else decide (1 * Power.two 52 ≤ number * Power.two (-estimate).toNat)) = true := by
    unfold Power.two
    split_ifs with large <;> rw [decide_eq_true_iff]
    · have exponent : estimate.toNat + 52 = number.log2 := by omega
      calc 1 * 2 ^ 52 * 2 ^ estimate.toNat = 2 ^ (estimate.toNat + 52) := by ring
        _ ≤ number := exponent ▸ size
    · have exponent : number.log2 + (-estimate).toNat = 52 := by omega
      calc 1 * 2 ^ 52 = 2 ^ number.log2 * 2 ^ (-estimate).toNat := by
            rw [← pow_add, exponent, one_mul]
        _ ≤ number * 2 ^ (-estimate).toNat := Nat.mul_le_mul_right _ size
  have none : (1 : Nat).log2 = 0 := by decide
  unfold exponentOf
  dsimp only
  rw [none, enough (by omega), if_pos rfl, if_neg (by unfold leastExponent; omega)]
  omega

/-- A mantissa of 53 bits, or the carry out of them, is beyond every number from an exponent on. -/
theorem ofParts_eq_infinite : ofParts negative mantissa exponent = .infinite negative ↔
    greatestExponent < exponent ∨ mantissa = Power.two 53 ∧ exponent = greatestExponent := by
  unfold ofParts
  split_ifs with carry large large
  · simp only [true_iff]
    omega
  · simp only [false_iff]
    omega
  · simp [large]
  · simp [large, carry]

/-- A whole number is carried out of the mantissa from half a step below the carry on. -/
theorem scaleToEven_eq_carry {power : Nat} (same : number.log2 = power + 53) :
    scaleToEven number 1 (power + 1 : Nat) = Power.two 53 ↔ (2 ^ 54 - 1) * 2 ^ power ≤ number := by
  have scaled : scaleToEven number 1 (power + 1 : Nat) = divideToEven number (2 * 2 ^ power) := by
    unfold scaleToEven Power.two
    rw [if_pos (Int.natCast_nonneg _), Int.toNat_natCast, one_mul]
    exact congrArg (divideToEven number) (pow_succ' 2 power)
  have even : Power.two 53 = 2 * (2 ^ 52 - 1) + 2 := by decide
  have below : number < (2 * (2 ^ 52 - 1) + 2) * (2 * 2 ^ power) := by
    calc number < 2 ^ (number.log2 + 1) := Nat.lt_log2_self
      _ = (2 * (2 ^ 52 - 1) + 2) * (2 * 2 ^ power) := by rw [same, pow_succ, pow_add]; ring
  rw [scaled, even, divideToEven_eq_even below]
  have doubled : (4 * (2 ^ 52 - 1) + 3) * (2 * 2 ^ power) = 2 * ((2 ^ 54 - 1) * 2 ^ power) := by
    ring
  rw [doubled]
  exact Nat.mul_le_mul_left_iff (by decide)

/-- A number with few binary digits is below the carry. -/
theorem lt_carry_of_log2 {power : Nat} (small : number.log2 < power + 53) :
    number < (2 ^ 54 - 1) * 2 ^ power :=
  calc number < 2 ^ (number.log2 + 1) := Nat.lt_log2_self
    _ ≤ 2 ^ (power + 53) := Nat.pow_le_pow_right (by decide) small
    _ = 2 ^ 53 * 2 ^ power := by rw [pow_add, mul_comm]
    _ ≤ (2 ^ 54 - 1) * 2 ^ power := Nat.mul_le_mul_right _ (by decide)

/-- A number with many is not. -/
theorem carry_le_of_log2 {power : Nat} (present : number ≠ 0) (large : power + 53 < number.log2) :
    (2 ^ 54 - 1) * 2 ^ power ≤ number :=
  calc (2 ^ 54 - 1) * 2 ^ power ≤ 2 ^ 54 * 2 ^ power := Nat.mul_le_mul_right _ (Nat.sub_le _ _)
    _ = 2 ^ (power + 54) := by rw [pow_add, mul_comm]
    _ ≤ 2 ^ number.log2 := Nat.pow_le_pow_right (by decide) large
    _ ≤ number := Nat.log2_self_le present

/-- The number near a whole number is infinite from half a step beyond the greatest one on. -/
theorem ofRatio_eq_infinite (negative : Bool) :
    ofRatio negative number 1 = .infinite negative ↔ sizeLimit ≤ number := by
  unfold ofRatio sizeLimit
  by_cases absent : number = 0
  · have below : number < (2 ^ 54 - 1) * 2 ^ 970 := lt_carry_of_log2 (by rw [absent]; decide)
    rw [if_pos absent]
    exact iff_of_false (nomatch ·) (Nat.not_le.mpr below)
  · rw [if_neg absent]
    dsimp only
    rw [exponentOf_one absent, ofParts_eq_infinite, greatestExponent]
    rcases Nat.lt_trichotomy number.log2 (970 + 53) with small | same | large
    · exact iff_of_false (by omega) (Nat.not_le.mpr (lt_carry_of_log2 small))
    · -- The exponent is the greatest one, so all depends on the carry.
      have exponent : (number.log2 : Int) - 52 = (970 + 1 : Nat) := by omega
      rw [exponent, scaleToEven_eq_carry same]
      exact ⟨fun either => (either.resolve_left (by decide)).1, fun carry => .inr ⟨carry, rfl⟩⟩
    · exact iff_of_true (.inl (by omega)) (carry_le_of_log2 absent large)

/-- An infinite ratio has its sign. -/
theorem sign_of_ofRatio {other : Bool}
    (same : ofRatio negative number denominator = .infinite other) :
    other = negative := by
  unfold ofRatio ofParts at same
  dsimp only at same
  split_ifs at same <;> cases same <;> rfl

/-- A whole number has no floating-point number near it exactly from there on. -/
theorem ofInt?_eq_none {whole : Int} : ofInt? whole = none ↔ sizeLimit ≤ whole.natAbs := by
  rw [← ofRatio_eq_infinite (decide (whole < 0)), ofInt?]
  split
  · next negative same =>
      obtain rfl := sign_of_ofRatio same
      exact iff_of_true rfl same
  · next finite => exact iff_of_false (nomatch ·) (finite _)

/-! ## Shares -/

/-- A number is once itself. -/
theorem ofRatio_self {size : Nat} (present : 0 < size) : ofRatio false size size = one := by
  have exponent : exponentOf size size = -52 := by
    simp [exponentOf, leastExponent]
  have mantissa : scaleToEven size size (-52) = Power.two 52 := by
    simp only [scaleToEven, divideToEven]
    simp [present]
  rw [ofRatio, if_neg (Nat.ne_of_gt present), exponent]
  dsimp only
  rw [mantissa]
  rfl

/-- One has two forms of parts. -/
theorem ofParts_eq_one : ofParts false mantissa exponent = one ↔
    mantissa = Power.two 53 ∧ exponent = -53 ∨ mantissa = Power.two 52 ∧ exponent = -52 := by
  have apart : Power.two 52 ≠ Power.two 53 := by decide
  unfold ofParts one greatestExponent
  split_ifs with carry large large
  · simp only [false_iff]
    omega
  · simp only [finite.injEq, true_and, carry, apart.symm, false_and, or_false]
    omega
  · simp only [false_iff]
    omega
  · simp [carry]

/-- A smaller number has no more binary digits. -/
theorem log2_le_log2 (present : number ≠ 0) (less : number ≤ denominator) :
    number.log2 ≤ denominator.log2 :=
  (Nat.le_log2 (by omega)).mpr ((Nat.log2_self_le present).trans less)

/-- The exponent of a share tells how many powers of two it is below one. -/
theorem exponentOf_share {gap : Nat} (apart : denominator.log2 = number.log2 + gap) :
    exponentOf number denominator = max leastExponent
      (if denominator ≤ number * 2 ^ gap then -52 - (gap : Int) else -53 - (gap : Int)) := by
  have estimate : (number.log2 : Int) - (denominator.log2 : Int) - 52 = -52 - (gap : Int) := by
    omega
  have shift : (-(-52 - (gap : Int))).toNat = gap + 52 := by omega
  have enough : denominator * Power.two 52 ≤ number * Power.two (gap + 52) ↔
      denominator ≤ number * 2 ^ gap := by
    change denominator * 2 ^ 52 ≤ number * 2 ^ (gap + 52) ↔ _
    rw [pow_add, ← mul_assoc]
    exact Nat.mul_le_mul_right_iff (by decide)
  have below : ¬ (0 : Int) ≤ -52 - (gap : Int) := by omega
  unfold exponentOf
  rw [estimate]
  dsimp only
  rw [shift, if_neg below]
  simp only [decide_eq_true_eq, enough]
  split_ifs <;> omega

/-- From one half on, a share has the exponent below that of one. -/
theorem exponentOf_eq_iff (present : number ≠ 0) (less : number < denominator) :
    exponentOf number denominator ≠ -52 ∧
      (exponentOf number denominator = -53 ↔ denominator ≤ 2 * number) := by
  obtain ⟨gap, apart⟩ := Nat.exists_eq_add_of_le (log2_le_log2 present less.le)
  have own := Nat.log2_self_le present
  have above : number < 2 ^ (number.log2 + 1) := Nat.lt_log2_self
  have whole := Nat.log2_self_le (Nat.ne_of_gt (Nat.zero_lt_of_lt less))
  have beyond : denominator < 2 ^ (denominator.log2 + 1) := Nat.lt_log2_self
  rw [exponentOf_share apart, leastExponent]
  rw [apart] at whole beyond
  match gap with
  | 0 =>
      have near : denominator ≤ 2 * number := by
        rw [Nat.add_zero, pow_succ] at beyond
        omega
      have far : ¬ denominator ≤ number * 2 ^ 0 := by omega
      rw [if_neg far]
      omega
  | 1 =>
      rw [pow_one, mul_comm number]
      split_ifs <;> omega
  | gap + 2 =>
      have far : ¬ denominator ≤ 2 * number := by
        have grown : 2 ^ (number.log2 + 2) ≤ 2 ^ (number.log2 + (gap + 2)) :=
          Nat.pow_le_pow_right (by decide) (by omega)
        rw [pow_succ] at above grown
        omega
      split_ifs <;> omega

/-- The share of a part in a whole is rounded to one when the rest is at most one part in
`2 ^ 54` of the whole. -/
theorem ofRatio_eq_one (present : 0 < denominator) (part : number ≤ denominator) :
    ofRatio false number denominator = one ↔ 2 ^ 54 * (denominator - number) ≤ denominator := by
  rcases Nat.eq_or_lt_of_le part with rfl | less
  · simpa using ofRatio_self present
  by_cases absent : number = 0
  · rw [ofRatio, if_pos absent, absent]
    exact iff_of_false (by decide) (by omega)
  obtain ⟨below, half⟩ := exponentOf_eq_iff absent less
  rw [ofRatio, if_neg absent]
  dsimp only
  rw [ofParts_eq_one, half]
  by_cases large : denominator ≤ 2 * number
  · -- Then all depends on the carry out of the mantissa.
    have even : Power.two 53 = 2 * (2 ^ 52 - 1) + 2 := by decide
    have doubled : 2 * (number * Power.two 53) = 2 ^ 54 * number := by
      have power : 2 * Power.two 53 = 2 ^ 54 := by decide
      rw [mul_left_comm, power, mul_comm]
    have scaled : scaleToEven number denominator (-53) =
        divideToEven (number * Power.two 53) denominator := by
      have shift : (-(-53 : Int)).toNat = 53 := by decide
      rw [scaleToEven, if_neg (by decide), shift]
    have size : number * Power.two 53 < (2 * (2 ^ 52 - 1) + 2) * denominator := by
      rw [← even, mul_comm]
      exact Nat.mul_lt_mul_of_pos_left less (by decide)
    rw [half.mpr large, scaled]
    have carry := divideToEven_eq_even size
    rw [← even] at carry
    rw [carry, doubled]
    omega
  · omega

end Issuebook.Binary64
