import Issuebook.Text.Shape
import Mathlib.Data.List.DropRight
import Mathlib.Data.List.TakeWhile
import Mathlib.Tactic.Set
import Mathlib.Tactic.SplitIfs

/-!
# Characters of shaped texts

Where the characters of a text come from that was cut, trimmed or shaped. No shape of a title holds
the character zero, which no name of a file can hold: `isZeroFree_tidyTitle`, `isZeroFree_slug`.
-/

namespace Issuebook.Text

variable {char mark : Char} {text before after replacement : Text} {test : Char → Bool}

/-- A text without the character zero. -/
def IsZeroFree (text : Text) : Prop :=
  ∀ char ∈ text, char.val ≠ 0

instance (text : Text) : Decidable (IsZeroFree text) :=
  List.decidableBAll _ _

/-- Two texts are free of the character zero together if each of them is. -/
theorem isZeroFree_append : IsZeroFree (before ++ after) ↔ IsZeroFree before ∧ IsZeroFree after :=
  List.forall_mem_append

/-- So is a character with a text. -/
theorem isZeroFree_cons : IsZeroFree (char :: text) ↔ char.val ≠ 0 ∧ IsZeroFree text :=
  List.forall_mem_cons

/-- A text of some characters of a text without zero has none. -/
theorem IsZeroFree.of_subset (free : IsZeroFree text) (subset : before ⊆ text) :
    IsZeroFree before :=
  fun char present => free char (subset present)

/-- A test that the character zero fails keeps it out. -/
theorem val_ne_zero_of_test (test : Char → Bool) (rejects : test '\x00' = false)
    (passes : test char = true) : char.val ≠ 0 := by
  intro zero
  obtain rfl : char = '\x00' := Char.ext zero
  rw [rejects] at passes
  cases passes

/-! ## Cutting -/

/-- A text that is cut is its parts with the mark between them. -/
theorem eq_of_cutAtChar? (cut : cutAtChar? mark text = some (before, after)) :
    text = before ++ mark :: after := by
  induction text generalizing before with
  | nil => cases cut
  | cons char text inductionHypothesis =>
      rw [cutAtChar?] at cut
      split_ifs at cut with same
      · obtain ⟨rfl, rfl⟩ := Prod.mk.inj (Option.some.inj cut)
        rw [same]
        rfl
      · obtain ⟨⟨front, back⟩, found, whole⟩ := Option.map_eq_some_iff.mp cut
        obtain ⟨rfl, rfl⟩ := Prod.mk.inj whole
        rw [inductionHypothesis found]
        rfl

/-- A text is cut at the first mark. -/
theorem cutAtChar?_append (absent : mark ∉ before) (after : Text) :
    cutAtChar? mark (before ++ mark :: after) = some (before, after) := by
  induction before with
  | nil => simp [cutAtChar?]
  | cons char before inductionHypothesis =>
      have parts : mark ≠ char ∧ mark ∉ before := by
        simpa using absent
      simp [cutAtChar?, Ne.symm parts.1, inductionHypothesis parts.2]

/-- A text is not cut exactly when it has no mark. -/
theorem cutAtChar?_eq_none : cutAtChar? mark text = none ↔ mark ∉ text := by
  constructor
  · intro none present
    obtain ⟨front, back, rfl, first⟩ := List.eq_append_cons_of_mem present
    cases none.symm.trans (cutAtChar?_append first back)
  · intro absent
    cases cut : cutAtChar? mark text with
    | none => rfl
    | some parts =>
        rw [eq_of_cutAtChar? cut] at absent
        exact absurd List.mem_append_cons_self absent

/-- A text is cut at the first mark. -/
theorem notMem_of_cutAtChar? (cut : cutAtChar? mark text = some (before, after)) :
    mark ∉ before := by
  intro present
  obtain ⟨front, back, rfl, first⟩ := List.eq_append_cons_of_mem present
  rw [eq_of_cutAtChar? cut, List.append_assoc, List.cons_append, cutAtChar?_append first] at cut
  have same : front = front ++ mark :: back := congrArg Prod.fst (Option.some.inj cut)
  exact List.cons_ne_nil mark back (List.append_right_eq_self.mp same.symm)

/-- A text that is cut at the last mark is its parts with the mark between them. -/
theorem eq_of_cutAtLastChar? (cut : cutAtLastChar? mark text = some (before, after)) :
    text = before ++ mark :: after := by
  induction text generalizing before after with
  | nil => cases cut
  | cons first text inductionHypothesis =>
      rw [cutAtLastChar?] at cut
      split at cut
      · next front back found =>
          obtain ⟨rfl, rfl⟩ := Prod.mk.inj (Option.some.inj cut)
          rw [inductionHypothesis found]
          rfl
      · split_ifs at cut with same
        obtain ⟨rfl, rfl⟩ := Prod.mk.inj (Option.some.inj cut)
        rw [same]
        rfl

/-- A text that is not cut at the last mark has none. -/
theorem not_mem_of_cutAtLastChar? (cut : cutAtLastChar? mark text = none) : mark ∉ text := by
  induction text with
  | nil => exact List.not_mem_nil
  | cons first text inductionHypothesis =>
      rw [cutAtLastChar?] at cut
      split at cut
      · cases cut
      · next found =>
          split_ifs at cut with same
          exact List.not_mem_cons_of_ne_of_not_mem (Ne.symm same) (inductionHypothesis found)

/-- A text is not cut at the last mark exactly when it has none. -/
theorem cutAtLastChar?_eq_none : cutAtLastChar? mark text = none ↔ mark ∉ text := by
  refine ⟨not_mem_of_cutAtLastChar?, fun absent => ?_⟩
  cases cut : cutAtLastChar? mark text with
  | none => rfl
  | some parts =>
      refine absurd ?_ absent
      rw [eq_of_cutAtLastChar? cut]
      exact List.mem_append_right _ List.mem_cons_self

/-- A text is cut at the last mark. -/
theorem cutAtLastChar?_append (absent : mark ∉ after) (before : Text) :
    cutAtLastChar? mark (before ++ mark :: after) = some (before, after) := by
  induction before with
  | nil => rw [List.nil_append, cutAtLastChar?, cutAtLastChar?_eq_none.mpr absent, if_pos rfl]
  | cons first before inductionHypothesis =>
      rw [List.cons_append, cutAtLastChar?, inductionHypothesis]

/-- Behind the last mark there is no mark. -/
theorem not_mem_after_of_cutAtLastChar? (cut : cutAtLastChar? mark text = some (before, after)) :
    mark ∉ after := by
  induction text generalizing before with
  | nil => cases cut
  | cons first text inductionHypothesis =>
      rw [cutAtLastChar?] at cut
      split at cut
      · next found =>
          obtain ⟨rfl, rfl⟩ := Prod.mk.inj (Option.some.inj cut)
          exact inductionHypothesis found
      · next found =>
          split_ifs at cut
          obtain ⟨-, rfl⟩ := Prod.mk.inj (Option.some.inj cut)
          exact not_mem_of_cutAtLastChar? found

/-- An ending without the mark is the ending of the last piece. -/
theorem suffix_of_cutAtLastChar? {ending : Text}
    (cut : cutAtLastChar? mark text = some (before, after)) (ends : ending <:+ text)
    (absent : mark ∉ ending) : ending <:+ after := by
  obtain rfl := eq_of_cutAtLastChar? cut
  rcases List.suffix_or_suffix_of_suffix ends (List.suffix_append before _) with inside | outside
  · rcases List.suffix_cons_iff.mp inside with rfl | inside
    · exact absurd List.mem_cons_self absent
    · exact inside
  · exact absurd (outside.subset List.mem_cons_self) absent

/-- What remains behind a head is what the head is continued by. -/
theorem dropHead?_eq_some : dropHead? before text = some after ↔ text = before ++ after := by
  induction before generalizing text with
  | nil => simp [dropHead?]
  | cons expected before inductionHypothesis =>
      cases text with
      | nil => simp [dropHead?]
      | cons found text =>
          by_cases same : expected = found
          · simp [dropHead?, same, inductionHypothesis]
          · simp [dropHead?, same, Ne.symm same]

/-- A text ends with its suffixes. -/
theorem endsWith_iff {ending : Text} : endsWith text ending ↔ ending <:+ text := by
  rw [endsWith, startsWith, Option.isSome_iff_exists, ← List.reverse_prefix]
  exact exists_congr fun rest => dropHead?_eq_some.trans eq_comm

/-- Trimming the end adds no character. -/
theorem trimEndBy_subset (drop : Char → Bool) (text : Text) : trimEndBy drop text ⊆ text :=
  (List.rdropWhile_prefix drop text).subset

/-- Neither does trimming both ends. -/
theorem trimBy_subset (drop : Char → Bool) (text : Text) : trimBy drop text ⊆ text :=
  List.Subset.trans (trimEndBy_subset drop _) (List.dropWhile_suffix drop).subset

/-! ## Runs -/

/-- After runs were replaced, a character is of the replacement, or one that stayed. -/
theorem mem_replaceRunsFrom {within : Bool}
    (present : char ∈ replaceRunsFrom test replacement within text) :
    char ∈ replacement ∨ char ∈ text ∧ test char = false := by
  induction text generalizing within with
  | nil => cases present
  | cons first text inductionHypothesis =>
      have later {within : Bool} (rest : char ∈ replaceRunsFrom test replacement within text) :
          char ∈ replacement ∨ char ∈ first :: text ∧ test char = false :=
        (inductionHypothesis rest).imp_right fun ⟨place, outside⟩ =>
          ⟨List.mem_cons_of_mem _ place, outside⟩
      rw [replaceRunsFrom] at present
      split_ifs at present with inside
      · exact later present
      · rcases List.mem_append.mp present with inserted | rest
        · exact .inl inserted
        · exact later rest
      · rcases List.mem_cons.mp present with rfl | rest
        · exact .inr ⟨List.mem_cons_self, by simpa using inside⟩
        · exact later rest

/-- The same from the beginning of a text. -/
theorem mem_replaceRuns (present : char ∈ replaceRuns test replacement text) :
    char ∈ replacement ∨ char ∈ text ∧ test char = false :=
  mem_replaceRunsFrom present

/-- Replacing runs by a text without zero adds no zero. -/
theorem IsZeroFree.replaceRuns (free : IsZeroFree text) (inserted : IsZeroFree replacement)
    (test : Char → Bool) : IsZeroFree (replaceRuns test replacement text) := by
  intro char present
  rcases mem_replaceRuns present with new | ⟨old, -⟩
  · exact inserted char new
  · exact free char old

/-- After long runs were dropped, a character is the mark or one of the text. -/
theorem mem_dropLongRunsFrom {length : Nat}
    (present : char ∈ dropLongRunsFrom mark length text) : char = mark ∨ char ∈ text := by
  have ends {length : Nat} (marked : char ∈ endRun mark length) : char = mark := by
    unfold endRun at marked
    split_ifs at marked
    · exact List.mem_singleton.mp marked
    · cases marked
  induction text generalizing length with
  | nil => exact .inl (ends present)
  | cons first text inductionHypothesis =>
      have later {length : Nat} (rest : char ∈ dropLongRunsFrom mark length text) :
          char = mark ∨ char ∈ first :: text :=
        (inductionHypothesis rest).imp_right (List.mem_cons_of_mem _)
      rw [dropLongRunsFrom] at present
      split_ifs at present
      · exact later present
      · rcases List.mem_append.mp present with marked | rest
        · exact .inl (ends marked)
        · rcases List.mem_cons.mp rest with rfl | rest
          · exact .inr List.mem_cons_self
          · exact later rest

/-! ## Shapes -/

/-- A tidy title has no zero. -/
theorem isZeroFree_tidyTitle (text : Text) : IsZeroFree (tidyTitle text) := by
  have kept : IsZeroFree ((plain text).filter isTitleChar) := fun char present =>
    val_ne_zero_of_test isTitleChar (by decide) (List.mem_filter.mp present).2
  refine IsZeroFree.of_subset ?_ (trimBy_subset _ _)
  exact (kept.replaceRuns (by decide) _).replaceRuns (by decide) _

/-- A slug has no zero. -/
theorem isZeroFree_slug (text : Text) : IsZeroFree (slug text) := by
  refine IsZeroFree.of_subset (fun char present => ?_) (trimBy_subset _ _)
  rcases mem_replaceRuns present with dash | ⟨-, alphanumeric⟩
  · rw [List.mem_singleton.mp dash]
    decide
  · exact val_ne_zero_of_test isAlphanumeric (by decide) (by simpa using alphanumeric)

end Issuebook.Text
