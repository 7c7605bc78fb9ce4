import Issuebook.Fault

/-!
# Results and their faults

What a result that is mapped, or handed on, says about the result it came from; and results whose
faults are all of one kind, `Yields`.
-/

namespace Issuebook.Fault

variable {α β Error : Type}

/-- A mapped result has a value when the result has one. -/
theorem map_eq_ok {change : α → β} {result : Except Error α} {value : β} :
    result.map change = .ok value ↔ ∃ before, result = .ok before ∧ change before = value := by
  cases result with
  | error fault => simp [Except.map]
  | ok before => simp [Except.map]

/-- A result has a value as an option when it has one. -/
theorem toOption_eq_some {result : Except Fault α} {value : α} :
    result.toOption = some value ↔ result = .ok value := by
  cases result with
  | error fault => simp [Except.toOption]
  | ok before => simp [Except.toOption]

/-- A mapped result has the fault of the result. -/
theorem map_eq_error {change : α → β} {result : Except Error α} {fault : Error} :
    result.map change = .error fault ↔ result = .error fault := by
  cases result with
  | error other => simp [Except.map]
  | ok before => simp [Except.map]

/-- A result that is handed on has a value when both parts have. -/
theorem bind_eq_ok {next : α → Except Error β} {result : Except Error α} {value : β} :
    result >>= next = .ok value ↔ ∃ before, result = .ok before ∧ next before = .ok value := by
  cases result with
  | error fault => simp [bind, Except.bind]
  | ok before => simp [bind, Except.bind]

/-- A fault from outside is not expected. -/
theorem isExpected_of_isOutside {fault : Fault} (outside : fault.isOutside = true) :
    fault.isExpected = false := by
  cases fault <;> first | rfl | cases outside

/-- A result has a property, or it is a fault of some kind. -/
def Yields (kind : Fault → Bool) (holds : α → Prop) : Except Fault α → Prop
  | .ok value => holds value
  | .error fault => kind fault = true

namespace Yields

variable {kind wider : Fault → Bool} {holds : α → Prop} {later : β → Prop}
  {result : Except Fault α}

/-- A result that yields has no fault of another kind. -/
theorem of_error (yields : Yields kind holds result) {fault : Fault}
    (failed : result = .error fault) : kind fault = true := by
  rw [failed] at yields
  exact yields

/-- A result that is handed on yields when both parts do. -/
theorem bind {next : α → Except Fault β} (first : Yields kind holds result)
    (rest : ∀ value, holds value → Yields kind later (next value)) :
    Yields kind later (result >>= next) := by
  cases result with
  | error fault => exact first
  | ok value => exact rest value first

/-- What yields does so with more kinds of faults and a weaker property. -/
theorem imp {weaker : α → Prop} (yields : Yields kind holds result)
    (kinds : ∀ fault, kind fault = true → wider fault = true)
    (weakens : ∀ value, holds value → weaker value) : Yields wider weaker result := by
  cases result with
  | error fault => exact kinds fault yields
  | ok value => exact weakens value yields

end Yields

end Issuebook.Fault
