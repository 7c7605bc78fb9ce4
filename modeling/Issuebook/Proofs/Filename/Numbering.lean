import Issuebook.Proofs.Filename.Ending
import Mathlib.Order.Bounds.Basic

/-!
# Numbers of taken names

A name that is free is settled as it is, and any other gets the least number from one on with which
it is free, in front of the extension of its last component. Nothing bounds the search but the
taken names, of which there are finitely many: it stops wherever it begins. So names that are
settled one after the other, each taken from then on, are all different:
`resolveCollision_takes_least`.
-/

namespace Issuebook.Filename

open Text

variable {name base extension component stem : Text} {taken : List Text}

/-! ## Extensions -/

/-- Where a component is cut: at its last dot, or behind it all when no dot but the first character
is there. -/
def IsStem (stem extension : Text) : Prop :=
  extension = [] ∧ '.' ∉ stem.tail ∨
    ∃ ending, extension = '.' :: ending ∧ '.' ∉ ending ∧ stem ≠ []

/-- A name in two parts, cut where its last component is. -/
def IsParted (name base extension : Text) : Prop :=
  ∃ directory stem, name = directory ++ stem ++ extension ∧ base = directory ++ stem ∧
    (directory = [] ∨ directory.getLast? = some '/') ∧ '/' ∉ stem ++ extension ∧
    IsStem stem extension

/-- A name is split into a stem and its extension. -/
theorem splitComponent_eq_iff : splitComponent component = (stem, extension) ↔
    component = stem ++ extension ∧ IsStem stem extension := by
  constructor
  · intro cut
    refine ⟨by rw [← splitComponent_append component, cut], ?_⟩
    unfold splitComponent at cut
    split at cut
    · next before after found =>
        have dotless := not_mem_after_of_cutAtLastChar? found
        split_ifs at cut with empty
        · obtain ⟨rfl, rfl⟩ := Prod.mk.inj cut
          rw [eq_of_cutAtLastChar? found, List.isEmpty_iff.mp empty]
          exact .inl ⟨rfl, dotless⟩
        · obtain ⟨rfl, rfl⟩ := Prod.mk.inj cut
          exact .inr ⟨after, rfl, dotless, by simpa using empty⟩
    · next found =>
        obtain ⟨rfl, rfl⟩ := Prod.mk.inj cut
        exact .inl ⟨rfl, fun dot => not_mem_of_cutAtLastChar? found (List.mem_of_mem_tail dot)⟩
  · rintro ⟨rfl, ⟨rfl, dotless⟩ | ⟨ending, rfl, dotless, present⟩⟩
    · rw [List.append_nil]
      by_cases dot : stem.head? = some '.'
      · obtain ⟨ending, rfl⟩ := List.head?_eq_some_iff.mp dot
        exact splitComponent_append_dot dotless []
      · have absent : '.' ∉ stem := by
          cases stem with
          | nil => exact List.not_mem_nil
          | cons first stem =>
              exact List.not_mem_cons_of_ne_of_not_mem (fun same => dot (same ▸ rfl)) dotless
        rw [splitComponent, cutAtLastChar?_eq_none.mpr absent]
    · rw [splitComponent_append_dot dotless, if_neg present]

/-- A name is cut in one way. -/
theorem splitExtension_eq_iff : splitExtension name = (base, extension) ↔
    IsParted name base extension := by
  constructor
  · intro cut
    unfold splitExtension at cut
    split at cut
    · next directory component found =>
        obtain ⟨rfl, rfl⟩ := Prod.mk.inj cut
        obtain ⟨whole, stem⟩ := splitComponent_eq_iff.mp (Eq.refl (splitComponent component))
        refine ⟨directory ++ ['/'], _, ?_, by simp, .inr (by simp), ?_, stem⟩
        · rw [eq_of_cutAtLastChar? found]
          conv_lhs => rw [whole]
          simp
        · exact whole ▸ not_mem_after_of_cutAtLastChar? found
    · next found =>
        obtain ⟨rfl, stem⟩ := splitComponent_eq_iff.mp cut
        exact ⟨[], base, rfl, rfl, .inl rfl, not_mem_of_cutAtLastChar? found, stem⟩
  · rintro ⟨directory, stem, rfl, rfl, closed, slashless, cut⟩
    have inner := splitComponent_eq_iff.mpr ⟨rfl, cut⟩
    rcases closed with rfl | slash
    · rw [List.nil_append, splitExtension, cutAtLastChar?_eq_none.mpr slashless]
      exact inner
    · obtain ⟨front, rfl⟩ := List.getLast?_eq_some_iff.mp slash
      have whole : front ++ ['/'] ++ stem ++ extension = front ++ '/' :: (stem ++ extension) := by
        simp
      rw [splitExtension, whole, cutAtLastChar?_append slashless]
      dsimp only
      rw [inner, List.append_assoc]
      rfl

/-! ## The search for a number -/

/-- The search for a free name goes on from a number with which the name is taken to the next. -/
def GoesOn (name : Text) (taken : List Text) (later earlier : Nat) : Prop :=
  later = earlier + 1 ∧ numbered name earlier ∈ taken

/-- Wherever the search begins, it stops. -/
theorem wellFounded_goesOn (name : Text) (taken : List Text) : WellFounded (GoesOn name taken) := by
  refine ⟨fun number => ?_⟩
  obtain ⟨passed, -, free⟩ := exists_free name taken number
  -- The induction is on how far ahead a free name is known to be.
  induction passed generalizing number with
  | zero => exact ⟨_, fun later step => absurd step.2 free⟩
  | succ passed inductionHypothesis =>
      refine ⟨_, fun later step => ?_⟩
      rw [step.1]
      refine inductionHypothesis (number + 1) ?_
      rwa [Nat.add_right_comm, Nat.add_assoc]

/-- A taken name gets the least number with which it is free. -/
theorem resolveCollision_of_mem (present : name ∈ taken) : ∃ number,
    IsLeast {number | 1 ≤ number ∧ numbered name number ∉ taken} number ∧
      resolveCollision name taken = numbered name number := by
  obtain ⟨passed, -, found, before, -⟩ := freeFrom_eq name taken 1 taken.length
  have settled : resolveCollision name taken = numbered name (1 + passed) := by
    rw [resolveCollision, if_pos present, found]
  refine ⟨1 + passed, ⟨⟨Nat.le_add_right 1 passed, settled ▸ resolveCollision_not_mem name taken⟩,
    fun other free => ?_⟩, settled⟩
  by_contra less
  obtain ⟨earlier, rfl⟩ := Nat.exists_eq_add_of_le free.1
  exact free.2 (before earlier (by omega))

/-- The names that others get one after the other, each taken from then on. -/
def settleAll (taken : List Text) : List Text → List Text
  | [] => []
  | name :: names =>
    resolveCollision name taken :: settleAll (resolveCollision name taken :: taken) names

/-- Names that are settled one behind the other are distinct, and none was taken. -/
theorem settleAll_free (taken names : List Text) :
    (settleAll taken names).Nodup ∧ ∀ settled ∈ settleAll taken names, settled ∉ taken := by
  induction names generalizing taken with
  | nil => exact ⟨.nil, fun _ impossible => absurd impossible List.not_mem_nil⟩
  | cons name names inductionHypothesis =>
      obtain ⟨distinct, free⟩ := inductionHypothesis (resolveCollision name taken :: taken)
      refine ⟨List.nodup_cons.mpr ⟨fun again => free _ again List.mem_cons_self, distinct⟩,
        List.forall_mem_cons.mpr
          ⟨resolveCollision_not_mem name taken, fun settled listed old => ?_⟩⟩
      exact free settled listed (List.mem_cons_of_mem _ old)

/-- The search for a free name stops wherever it begins. A name is settled as it is exactly when it
is free, and otherwise with the least number from one on with which it is free, in front of the
extension of its last component; and names settled one after the other are all different, and none
was taken. -/
theorem resolveCollision_takes_least (name : Text) (taken : List Text) :
    WellFounded (GoesOn name taken) ∧
    (resolveCollision name taken = name ↔ name ∉ taken) ∧
    (name ∈ taken → ∃ base extension number, IsParted name base extension ∧
      IsLeast {number | 1 ≤ number ∧ base ++ '-' :: ofNat number ++ extension ∉ taken} number ∧
      resolveCollision name taken = base ++ '-' :: ofNat number ++ extension) ∧
    ∀ names, (settleAll taken names).Nodup ∧
      ∀ settled ∈ settleAll taken names, settled ∉ taken := by
  refine ⟨wellFounded_goesOn name taken, ⟨fun same => ?_, fun free => if_neg free⟩,
    fun present => ?_, settleAll_free taken⟩
  · exact same ▸ resolveCollision_not_mem name taken
  · obtain ⟨number, least, settled⟩ := resolveCollision_of_mem present
    exact ⟨_, _, number, splitExtension_eq_iff.mp rfl, least, settled⟩

/-- Numbered names that are taken as well are passed over, and a number stands in front of the
extension of the last component. -/
theorem folderName_numbered :
    ("v1.0/a.md" : Text) ∈ (["v1.0/a.md", "v1.0/a-1.md", "v1.0/a-3.md"] : List Text) ∧
    resolveCollision "v1.0/a.md" ["v1.0/a.md", "v1.0/a-1.md", "v1.0/a-3.md"] = "v1.0/a-2.md" ∧
    ∃ base extension number, IsParted "v1.0/a.md" base extension ∧
      IsLeast {number | 1 ≤ number ∧ base ++ '-' :: ofNat number ++ extension ∉
        (["v1.0/a.md", "v1.0/a-1.md", "v1.0/a-3.md"] : List Text)} number ∧
      resolveCollision "v1.0/a.md" ["v1.0/a.md", "v1.0/a-1.md", "v1.0/a-3.md"] =
        base ++ '-' :: ofNat number ++ extension := by
  have present : ("v1.0/a.md" : Text) ∈
      (["v1.0/a.md", "v1.0/a-1.md", "v1.0/a-3.md"] : List Text) := by
    decide
  exact ⟨present, by decide +kernel, (resolveCollision_takes_least _ _).2.2.1 present⟩

end Issuebook.Filename
