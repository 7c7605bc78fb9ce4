import Issuebook.Shell.Arithmetic
import Mathlib.Tactic.SplitIfs

/-!
# Calculations within 64 bits

Whatever is calculated has no more than 64 bits, whatever variables hold: numbers are cut when they
are read, and operators wrap around: `result_inRange`. Sums, differences and products are right up
to a multiple of the size of that range, and so they are right whenever they fit: `combine?_exact`.
-/

namespace Issuebook.Shell.Arithmetic

/-- Whether a number has no more than 64 bits. -/
def InRange (number : Int) : Prop :=
  -9223372036854775808 ≤ number ∧ number ≤ 9223372036854775807

instance (number : Int) : Decidable (InRange number) :=
  inferInstanceAs (Decidable (_ ∧ _))

variable {left right number result : Int} {operator : Operator}

/-- A number that is wrapped around is in the range. -/
theorem wrap_inRange (number : Int) : InRange (wrap number) := by
  have size : 0 < 18446744073709551616 := by decide
  have least := @Int.le_bmod number _ size
  have most := @Int.bmod_lt number _ size
  unfold InRange wrap
  omega

/-- A number in the range is not changed. -/
theorem wrap_of_inRange (fits : InRange number) : wrap number = number := by
  unfold InRange at fits
  rw [wrap, Int.bmod_eq_of_le] <;> omega

/-- A truth value is in range. -/
theorem ofBool_inRange (truth : Bool) : InRange (ofBool truth) := by
  cases truth <;> decide

/-- Moving bits to the right brings a number nearer to zero, or to minus one. -/
theorem shiftRight_inRange (fits : InRange number) (count : Nat) : InRange (number >>> count) := by
  obtain ⟨least, most⟩ := fits
  rcases Int.le_total 0 number with above | below
  · have near := Int.shiftRight_le_of_nonneg (s := count) above
    have positive := Int.le_shiftRight_of_nonneg (s := count) above
    unfold InRange
    omega
  · have near := Int.le_shiftRight_of_nonpos (s := count) below
    have negative := Int.shiftRight_le_of_nonpos (s := count) below
    unfold InRange
    omega

/-- An operator between numbers in the range gives one in the range. -/
theorem combine?_inRange (leftFits : InRange left)
    (combined : combine? operator left right = some result) : InRange result := by
  cases operator <;> dsimp only [combine?] at combined
  case divided | remainder =>
    split_ifs at combined
    exact Option.some.inj combined ▸ wrap_inRange _
  case shiftRight => exact Option.some.inj combined ▸ shiftRight_inRange leftFits _
  case times | plus | minus | shiftLeft | bitAnd | bitXor | bitOr =>
    exact Option.some.inj combined ▸ wrap_inRange _
  all_goals exact Option.some.inj combined ▸ ofBool_inRange _

/-- So is what an operator in front makes of a number. -/
theorem applyPrefix_inRange (operator : Prefix) (fits : InRange number) :
    InRange (applyPrefix operator number) := by
  cases operator with
  | positive => exact fits
  | negative => exact wrap_inRange _
  | opposite => exact ofBool_inRange _
  | bitNot => exact wrap_inRange _

/-- What the sum, the difference or the product would be without a bound. -/
def unbounded? (operator : Operator) (left right : Int) : Option Int :=
  match operator with
  | .times => some (left * right)
  | .plus => some (left + right)
  | .minus => some (left - right)
  | _ => none

/-- Sums, differences and products are right up to a multiple of two to the power of 64, and right
when they fit. -/
theorem combine?_exact {exact : Int} (known : unbounded? operator left right = some exact) :
    ∃ result, combine? operator left right = some result ∧
      (result - exact) % 18446744073709551616 = 0 ∧ (InRange exact → result = exact) := by
  have wrapped : combine? operator left right = some (wrap exact) := by
    cases operator <;> cases known <;> rfl
  refine ⟨wrap exact, wrapped, ?_, wrap_of_inRange⟩
  have same : wrap exact % 18446744073709551616 = exact % 18446744073709551616 := Int.bmod_emod
  omega

/-! ## Reading -/

/-- All numbers in an expression are in the range. -/
def IsBounded : Expression → Prop
  | .number value => InRange value
  | .named _ => True
  | .applied _ operand => IsBounded operand
  | .combined _ left right => IsBounded left ∧ IsBounded right
  | .either condition first second => IsBounded condition ∧ IsBounded first ∧ IsBounded second
  | .assigned _ _ value => IsBounded value

/-- A number that is read is cut to what fits. -/
theorem takeNumber_bounds (text : Text) :
    0 ≤ (takeNumber text).1 ∧ (takeNumber text).1 ≤ 9223372036854775807 := by
  unfold takeNumber bounded greatest
  dsimp only
  split <;> omega

/-- So it is in range. -/
theorem takeNumber_inRange (text : Text) : InRange (takeNumber text).1 := by
  obtain ⟨least, most⟩ := takeNumber_bounds text
  unfold InRange
  omega

/-- What a part of a calculation gives has a property, if it gives anything. -/
def Gives {α : Type} (holds : α → Prop) : Except CalculationFault α → Prop
  | .ok value => holds value
  | .error _ => True

/-- What comes after a part may rest on what the part gives. -/
theorem Gives.bind {α β : Type} {holds : α → Prop} {later : β → Prop}
    {first : Except CalculationFault α} {next : α → Except CalculationFault β}
    (begun : Gives holds first) (rest : ∀ value, holds value → Gives later (next value)) :
    Gives later (first >>= next) := by
  cases first with
  | error fault => trivial
  | ok value => exact rest value begun

/-- What is read at the front of a text, if anything is, is bounded. -/
def ReadsBounded (read : Read) : Prop :=
  Gives (fun found => IsBounded found.1) read

/-- The four readers of expressions with some fuel read nothing that is not bounded. -/
structure ReadersBounded (fuel : Nat) : Prop where
  /-- Whole calculations. -/
  all : ∀ text, ReadsBounded (readAll fuel text)
  /-- Numbers with operators between them. -/
  binary : ∀ least text, ReadsBounded (readBinary fuel least text)
  /-- Operators behind a number. -/
  binaryFrom : ∀ least left text,
    IsBounded left → ReadsBounded (readBinaryFrom fuel least left text)
  /-- Single numbers. -/
  primary : ∀ text, ReadsBounded (readPrimary fuel text)

/-- All readers give terms whose numbers are in range. -/
theorem readersBounded (fuel : Nat) : ReadersBounded fuel := by
  induction fuel with
  | zero =>
      exact ⟨fun _ => trivial, fun _ _ => trivial, fun _ _ _ bounded => bounded,
        fun _ => trivial⟩
  -- Each reader calls others with less fuel; all four are bounded together.
  | succ fuel readers =>
      constructor
      case all =>
        intro text
        rw [readAll]
        dsimp only
        split
        · exact (readers.all _).bind fun value bounded => bounded
        · refine (readers.binary 1 _).bind fun condition conditionBounded => ?_
          split
          · refine (readers.all _).bind fun first firstBounded => ?_
            split
            · exact (readers.all _).bind fun second secondBounded =>
                ⟨conditionBounded, firstBounded, secondBounded⟩
            · trivial
          · exact conditionBounded
      case binary =>
        intro least text
        rw [readBinary]
        exact (readers.primary text).bind fun left bounded =>
          readers.binaryFrom least left.1 left.2 bounded
      case binaryFrom =>
        intro least left text bounded
        rw [readBinaryFrom]
        split
        · exact bounded
        · exact (readers.binary _ _).bind fun right rightBounded =>
            readers.binaryFrom least _ right.2 ⟨bounded, rightBounded⟩
      case primary =>
        intro text
        rw [readPrimary]
        split
        · trivial
        · refine (readers.all _).bind fun inner bounded => ?_
          dsimp only
          split
          · exact bounded
          · trivial
        · split
          · exact (readers.primary _).bind fun operand bounded => bounded
          · split_ifs
            · exact takeNumber_inRange _
            · trivial
            · trivial

/-- An expression that is read from a text has numbers in the range alone. -/
theorem isBounded_of_read {text : Text} {expression : Expression}
    (known : read text = .ok expression) : IsBounded expression := by
  unfold read at known
  cases whole : readAll (4 * text.length + 8) text with
  | error fault =>
      rw [whole] at known
      cases known
  | ok found =>
      rw [whole] at known
      dsimp only [Except.bind] at known
      split_ifs at known
      obtain rfl := Except.ok.inj known
      have bounded := (readersBounded (4 * text.length + 8)).all text
      rw [whole] at bounded
      exact bounded

/-- The value of a variable is in the range, if it is a number. -/
theorem numberOf?_inRange {written : Text} (known : numberOf? written = some number) :
    InRange number := by
  obtain ⟨text, same⟩ : ∃ text, number = (takeNumber text).1 ∨ number = -(takeNumber text).1 := by
    unfold numberOf? at known
    dsimp only at known
    split_ifs at known with whole negative
    · exact ⟨_, .inr (Option.some.inj known).symm⟩
    · exact ⟨_, .inl (Option.some.inj known).symm⟩
  have bounds := takeNumber_bounds text
  unfold InRange
  omega

section Evaluation

variable {Store : Type} {expression : Expression}

/-- A number becomes the value of a variable, if that can be written. -/
def put (set? : Store → Text → Text → Option Store) (store : Store) (name : Text)
    (result : Int) : Except CalculationFault (Int × Store) :=
  match set? store name (Text.ofInt result) with
  | some store => .ok (result, store)
  | none => .error (.fixedVariable name)

/-- What is assigned is in range when the value is. -/
theorem put_inRange (set? : Store → Text → Text → Option Store) (store : Store) (name : Text)
    (fits : InRange result) :
    Gives (fun result => InRange result.1) (put set? store name result) := by
  unfold put
  split
  · exact fits
  · trivial

/-- The result of an expression with bounded numbers is in the range, whatever variables hold. -/
theorem evaluate_inRange (get? : Store → Text → Option Text)
    (set? : Store → Text → Text → Option Store) (bounded : IsBounded expression) (store : Store) :
    Gives (fun result => InRange result.1) (evaluate get? set? expression store) := by
  have zero : InRange 0 := by decide
  have one : InRange 1 := by decide
  -- The store changes from part to part, so every part is taken with any store.
  induction expression generalizing store with
  | number value => exact bounded
  | named name =>
      rw [evaluate]
      split
      · exact zero
      · split_ifs
        · exact zero
        · split
          · next known => exact numberOf?_inRange known
          · trivial
  | applied operator operand inductionHypothesis =>
      rw [evaluate]
      exact (inductionHypothesis bounded store).bind fun found fits =>
        applyPrefix_inRange operator fits
  | combined operator first second firstHypothesis secondHypothesis =>
      obtain ⟨firstBounded, secondBounded⟩ := bounded
      rw [evaluate]
      refine (firstHypothesis firstBounded store).bind fun left leftFits => ?_
      dsimp only
      split_ifs
      · exact zero
      · exact one
      · refine (secondHypothesis secondBounded left.2).bind fun right _ => ?_
        split
        · next combined => exact combine?_inRange leftFits combined
        · trivial
  | either condition first second conditionHypothesis firstHypothesis secondHypothesis =>
      obtain ⟨conditionBounded, firstBounded, secondBounded⟩ := bounded
      rw [evaluate]
      refine (conditionHypothesis conditionBounded store).bind fun decided _ => ?_
      dsimp only
      split_ifs
      · exact firstHypothesis firstBounded decided.2
      · exact secondHypothesis secondBounded decided.2
  | assigned name operator value inductionHypothesis =>
      rw [evaluate]
      refine (inductionHypothesis bounded store).bind fun given fits => ?_
      obtain ⟨number, store⟩ := given
      cases operator with
      | none => exact put_inRange set? store name fits
      | some operator =>
          have changed {before result : Int} (beforeFits : InRange before)
              (combined : combine? operator before number = some result) :
              Gives (fun result => InRange result.1) (put set? store name result) :=
            put_inRange set? store name (combine?_inRange beforeFits combined)
          dsimp only
          split
          · rw [pure_bind]
            split
            · next combined => exact changed zero combined
            · trivial
          · split
            · next known =>
                rw [pure_bind]
                split
                · next combined => exact changed (numberOf?_inRange known) combined
                · trivial
            · trivial

/-- Whatever is calculated has no more than 64 bits, whatever variables hold. -/
theorem result_inRange (get? : Store → Text → Option Text)
    (set? : Store → Text → Text → Option Store) (written : Text) (store : Store) :
    Gives (fun result => InRange result.1)
      ((read written).bind fun expression => evaluate get? set? expression store) := by
  cases known : read written with
  | error fault => trivial
  | ok expression => exact evaluate_inRange get? set? (isBounded_of_read known) store

end Evaluation

end Issuebook.Shell.Arithmetic
