import Issuebook.Disk.Path
import Mathlib.Tactic.SplitIfs

/-!
# Order

Texts compare character by character, and paths segment by segment, by one scheme: the first place
where they differ decides, and a beginning comes before its continuation. The scheme makes a linear
order of a linear order.
-/

namespace Issuebook

/-- A linear order on what differs: equal things need not be related. -/
structure IsOrder {α : Type} (le : α → α → Bool) : Prop where
  /-- What is before a thing is before all that is behind it. -/
  trans : ∀ {one other third}, le one other → le other third → le one third
  /-- Two things are not before each other. -/
  antisymm : ∀ {one other}, le one other → le other one → one = other
  /-- Of different things one is before the other. -/
  total : ∀ {one other}, one ≠ other → le one other ∨ le other one

/-- Whether a list is before another, by the first place where they differ. -/
def lexLe {α : Type} [DecidableEq α] (le : α → α → Bool) : (left right : List α) → Bool
  | [], _ => true
  | _ :: _, [] => false
  | first :: left, second :: right =>
    if first = second then lexLe le left right else le first second

section Lists

variable {α : Type} [DecidableEq α] {le : α → α → Bool}

/-- A common front makes no difference. -/
theorem lexLe_append (front left right : List α) :
    lexLe le (front ++ left) (front ++ right) = lexLe le left right := by
  induction front with
  | nil => rfl
  | cons first front inductionHypothesis =>
      rw [List.cons_append, List.cons_append, lexLe, if_pos rfl, inductionHypothesis]

/-- The order of lists is transitive. -/
theorem lexLe_trans (order : IsOrder le) {one other third : List α}
    (before : lexLe le one other) (behind : lexLe le other third) : lexLe le one third := by
  induction one generalizing other third with
  | nil => rfl
  | cons first one inductionHypothesis =>
      obtain - | ⟨second, other⟩ := other
      · cases before
      · obtain - | ⟨last, third⟩ := third
        · cases behind
        · rw [lexLe] at before behind ⊢
          by_cases same : first = second
          · subst same
            rw [if_pos rfl] at before
            split_ifs at behind ⊢ with equal
            · exact inductionHypothesis before behind
            · exact behind
          · rw [if_neg same] at before
            split_ifs at behind with equal
            · subst equal
              rw [if_neg same]
              exact before
            · have apart : first ≠ last := by
                rintro rfl
                exact same (order.antisymm before behind)
              rw [if_neg apart]
              exact order.trans before behind

/-- It is antisymmetric. -/
theorem lexLe_antisymm (order : IsOrder le) {one other : List α}
    (before : lexLe le one other) (behind : lexLe le other one) : one = other := by
  induction one generalizing other with
  | nil =>
      cases other with
      | nil => rfl
      | cons second other => cases behind
  | cons first one inductionHypothesis =>
      cases other with
      | nil => cases before
      | cons second other =>
          rw [lexLe] at before behind
          by_cases same : first = second
          · rw [if_pos same] at before
            rw [if_pos same.symm] at behind
            rw [same, inductionHypothesis before behind]
          · rw [if_neg same] at before
            rw [if_neg (Ne.symm same)] at behind
            exact absurd (order.antisymm before behind) same

/-- It is total. -/
theorem lexLe_total (order : IsOrder le) (one other : List α) :
    lexLe le one other ∨ lexLe le other one := by
  induction one generalizing other with
  | nil => exact .inl rfl
  | cons first one inductionHypothesis =>
      cases other with
      | nil => exact .inr rfl
      | cons second other =>
          rw [lexLe, lexLe]
          by_cases same : first = second
          · rw [if_pos same, if_pos same.symm]
            exact inductionHypothesis other
          · rw [if_neg same, if_neg (Ne.symm same)]
            exact order.total same

/-- Lists of what is in order are in order. -/
theorem IsOrder.lexLe (order : IsOrder le) : IsOrder (lexLe le) where
  trans := lexLe_trans order
  antisymm := lexLe_antisymm order
  total _ := lexLe_total order _ _

end Lists

/-- Characters are in order by their numbers. -/
theorem isOrder_char : IsOrder fun one other : Char => decide (one.val < other.val) where
  trans before behind := by
    rw [decide_eq_true_iff] at before behind ⊢
    exact UInt32.lt_trans before behind
  antisymm before behind := by
    rw [decide_eq_true_iff] at before behind
    exact absurd behind (UInt32.lt_asymm before)
  total {one other} apart := by
    simp only [decide_eq_true_iff]
    exact UInt32.lt_or_lt_of_ne fun same => apart (Char.ext same)

/-- Numbers are in order by size. -/
theorem isOrder_ble : IsOrder Nat.ble where
  trans before behind := by
    rw [Nat.ble_eq] at before behind ⊢
    exact Nat.le_trans before behind
  antisymm before behind := by
    rw [Nat.ble_eq] at before behind
    exact Nat.le_antisymm before behind
  total {one other} _ := by
    rw [Nat.ble_eq, Nat.ble_eq]
    exact Nat.le_total one other

/-- Texts are ordered by their characters. -/
theorem Text.le_eq_lexLe (left right : Text) :
    Text.le left right = lexLe (fun one other => decide (one.val < other.val)) left right := by
  induction left generalizing right with
  | nil => cases right <;> rfl
  | cons first left inductionHypothesis =>
      cases right with
      | nil => rfl
      | cons second right => rw [Text.le, lexLe, inductionHypothesis]

/-- Texts are in order. -/
theorem Text.isOrder_le : IsOrder Text.le := by
  rw [funext fun left => funext (Text.le_eq_lexLe left)]
  exact isOrder_char.lexLe

/-- Paths are ordered by their segments. -/
theorem Path.segmentsLe_eq_lexLe (left right : List Text) :
    segmentsLe left right = lexLe Text.le left right := by
  induction left generalizing right with
  | nil => cases right <;> rfl
  | cons first left inductionHypothesis =>
      cases right with
      | nil => rfl
      | cons second right => rw [segmentsLe, lexLe, inductionHypothesis]

/-- Lists of segments come in order. -/
theorem Path.pairwise_sorted (places : List (List Text)) :
    (places.mergeSort segmentsLe).Pairwise fun one other => segmentsLe one other := by
  refine List.pairwise_mergeSort (fun one other third => ?_) (fun one other => ?_) places
  · rw [segmentsLe_eq_lexLe, segmentsLe_eq_lexLe, segmentsLe_eq_lexLe]
    exact lexLe_trans Text.isOrder_le
  · rw [segmentsLe_eq_lexLe, segmentsLe_eq_lexLe, Bool.or_eq_true]
    exact lexLe_total Text.isOrder_le one other

end Issuebook
