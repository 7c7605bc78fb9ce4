import Issuebook.Filename.Collision
import Mathlib.Data.List.Nodup
import Mathlib.Data.List.Perm.Subperm
import Mathlib.Tactic.SplitIfs

/-!
# Free names

A name that is taken gets the least number with which it is free. Numbered names are all
different, so among one more of them than there are taken names one is free:
`resolveCollision_not_mem`.
-/

namespace Issuebook

/-- The digits of a number tell the number. -/
theorem Text.ofNat_injective : Function.Injective Text.ofNat := by
  intro one other same
  have read := congrArg (fun digits => Nat.ofDigitChars 10 digits 0) same
  simpa [Text.ofNat] using read

namespace Filename

/-- A name is numbered differently by every number. -/
theorem numbered_injective (name : Text) : Function.Injective (numbered name) := by
  intro one other same
  unfold numbered at same
  have digits := List.append_cancel_left (List.append_cancel_right same)
  exact Text.ofNat_injective (List.cons.inj digits).2

/-- The search stops at a number with which the name is free, or at the end of its budget; with
the numbers before the name is taken. -/
theorem freeFrom_eq (name : Text) (taken : List Text) (number budget : Nat) :
    ∃ passed ≤ budget, freeFrom name taken number budget = numbered name (number + passed) ∧
      (∀ earlier < passed, numbered name (number + earlier) ∈ taken) ∧
      (passed = budget ∨ numbered name (number + passed) ∉ taken) := by
  induction budget generalizing number with
  | zero =>
      exact ⟨0, Nat.le_refl _, rfl, fun _ impossible => absurd impossible (Nat.not_lt_zero _),
        .inl rfl⟩
  | succ budget inductionHypothesis =>
      rw [freeFrom]
      split_ifs with present
      · obtain ⟨passed, within, found, before, ends⟩ := inductionHypothesis (number + 1)
        have shift (earlier : Nat) : number + 1 + earlier = number + (earlier + 1) := by omega
        rw [shift] at found ends
        refine ⟨passed + 1, Nat.succ_le_succ within, found, fun earlier less => ?_, ?_⟩
        · cases earlier with
          | zero => exact present
          | succ earlier =>
              rw [← shift]
              exact before earlier (Nat.lt_of_succ_lt_succ less)
        · exact ends.imp_left (congrArg Nat.succ)
      · exact ⟨0, Nat.zero_le _, rfl, fun _ impossible => absurd impossible (Nat.not_lt_zero _),
          .inr present⟩

/-- There are not as many taken names as numbered ones. -/
theorem exists_free (name : Text) (taken : List Text) (number : Nat) :
    ∃ passed ≤ taken.length, numbered name (number + passed) ∉ taken := by
  by_contra allTaken
  push Not at allTaken
  let numbers : List Text :=
    (List.range (taken.length + 1)).map fun passed => numbered name (number + passed)
  have distinct : numbers.Nodup :=
    (List.nodup_map_iff fun one other same =>
      Nat.add_left_cancel (numbered_injective name same)).mpr List.nodup_range
  have within : numbers ⊆ taken := by
    intro candidate present
    obtain ⟨passed, less, rfl⟩ := List.mem_map.mp present
    exact allTaken passed (Nat.le_of_lt_succ (List.mem_range.mp less))
  have count := (distinct.subperm within).length_le
  rw [List.length_map, List.length_range] at count
  exact absurd count (Nat.not_succ_le_self _)

/-- A settled name is free. -/
theorem resolveCollision_not_mem (name : Text) (taken : List Text) :
    resolveCollision name taken ∉ taken := by
  unfold resolveCollision
  split_ifs with present
  · obtain ⟨passed, within, found, before, ends⟩ := freeFrom_eq name taken 1 taken.length
    rw [found]
    rcases ends with exhausted | free
    · obtain ⟨other, otherWithin, free⟩ := exists_free name taken 1
      rcases Nat.lt_or_ge other passed with less | least
      · exact absurd (before other less) free
      · rwa [show passed = other by omega]
    · exact free
  · exact present

end Filename

end Issuebook
