import Issuebook.Text.Basic
import Mathlib.Data.List.DropRight
import Mathlib.Data.List.TakeWhile

/-!
# Trimming

Laws of removing white space at the ends of a text. `trim_cons_of_blank` and
`trim_concat_of_blank` say that white space put at either end makes no difference, and
`trim_trim` that nothing is left to remove.
-/

namespace Issuebook.Text

variable {char : Char} {text : Text}

-- A quantifier over a text is decided along the text, and never by trying every character.
instance (test : Char → Prop) [DecidablePred test] (text : Text) :
    Decidable (∀ char ∈ text, test char) :=
  List.decidableBAll test text

instance (test : Char → Prop) [DecidablePred test] (text : Text) :
    Decidable (∃ char ∈ text, test char) :=
  List.decidableBEx test text

/-- Nothing is trimmed off the empty text. -/
@[simp] theorem trim_nil : trim [] = [] := rfl

/-- Nothing is trimmed off its end. -/
@[simp] theorem trimEnd_nil : trimEnd [] = [] := rfl

/-- Trimming the end drops white space from the right. -/
theorem trimEnd_eq (text : Text) : trimEnd text = text.rdropWhile isBlank := rfl

/-- Trimming drops white space from both sides. -/
theorem trim_eq (text : Text) : trim text = (text.dropWhile isBlank).rdropWhile isBlank := rfl

/-- Nothing is trimmed in front of a solid character. -/
theorem trimStart_cons_of_not_blank (solid : ¬ isBlank char) (text : Text) :
    trimStart (char :: text) = char :: text :=
  List.dropWhile_cons_of_neg solid

/-- White space at the end is trimmed off. -/
theorem trimEnd_concat_of_blank (blank : isBlank char) (text : Text) :
    trimEnd (text ++ [char]) = trimEnd text :=
  List.rdropWhile_concat_pos isBlank text char blank

/-- A solid character at the end stays. -/
theorem trimEnd_concat_of_not_blank (solid : ¬ isBlank char) (text : Text) :
    trimEnd (text ++ [char]) = text ++ [char] :=
  List.rdropWhile_concat_neg isBlank text char solid

/-- A character that is no white space keeps everything before it. -/
theorem trimEnd_cons_of_not_blank (solid : ¬ isBlank char) (text : Text) :
    trimEnd (char :: text) = char :: trimEnd text := by
  induction text using List.reverseRecOn with
  | nil => simpa using trimEnd_concat_of_not_blank solid []
  | append_singleton text last inductionHypothesis =>
      rw [← List.cons_append]
      by_cases blank : isBlank last
      · rw [trimEnd_concat_of_blank blank, trimEnd_concat_of_blank blank, inductionHypothesis]
      · rw [trimEnd_concat_of_not_blank blank, trimEnd_concat_of_not_blank blank,
          List.cons_append]

/-- White space in front is trimmed off. -/
theorem trim_cons_of_blank (blank : isBlank char) (text : Text) :
    trim (char :: text) = trim text := by
  rw [trim_eq, trim_eq, List.dropWhile_cons_of_pos blank]

/-- Behind a solid first character only the end is trimmed. -/
theorem trim_cons_of_not_blank (solid : ¬ isBlank char) (text : Text) :
    trim (char :: text) = char :: trimEnd text := by
  rw [trim_eq, List.dropWhile_cons_of_neg solid]
  exact trimEnd_cons_of_not_blank solid text

/-- White space at the end is trimmed off. -/
theorem trim_concat_of_blank (blank : isBlank char) (text : Text) :
    trim (text ++ [char]) = trim text := by
  rw [trim_eq, trim_eq, List.dropWhile_append]
  by_cases allBlank : text.dropWhile isBlank = []
  · simp [allBlank, blank]
  · rw [if_neg (by simpa using allBlank), List.rdropWhile_concat_pos _ _ _ blank]

/-- Text between two characters that are no white space stays as it is. -/
theorem trim_between {first last : Char} (solidFirst : ¬ isBlank first)
    (solidLast : ¬ isBlank last) (text : Text) :
    trim (first :: (text ++ [last])) = first :: (text ++ [last]) := by
  rw [trim_cons_of_not_blank solidFirst, trimEnd_concat_of_not_blank solidLast]

/-- A text without white space stays. -/
theorem trim_of_solid (solid : ∀ char ∈ text, ¬ isBlank char) : trim text = text := by
  cases text with
  | nil => rfl
  | cons char text =>
      have last (present : char :: text ≠ []) : ¬ isBlank ((char :: text).getLast present) :=
        solid _ (List.getLast_mem present)
      rw [trim_eq, List.dropWhile_cons_of_neg (solid char List.mem_cons_self),
        List.rdropWhile_eq_self_iff.mpr last]

/-- Trimming twice is trimming once. -/
@[simp] theorem trim_trim (text : Text) : trim (trim text) = trim text := by
  induction text with
  | nil => rfl
  | cons char text inductionHypothesis =>
      by_cases blank : isBlank char
      · rw [trim_cons_of_blank blank, inductionHypothesis]
      · rw [trim_cons_of_not_blank blank, trim_cons_of_not_blank blank, trimEnd_eq, trimEnd_eq,
          List.rdropWhile_idempotent]

/-- Nothing remains exactly when all is white space. -/
theorem trim_eq_nil_iff (text : Text) : trim text = [] ↔ isAllBlank text := by
  induction text with
  | nil => simp [isAllBlank]
  | cons char text inductionHypothesis =>
      by_cases blank : isBlank char
      · rw [trim_cons_of_blank blank, inductionHypothesis]
        simp [isAllBlank, blank]
      · rw [trim_cons_of_not_blank blank]
        simp [isAllBlank, blank]

/-- Of a text that is not blank something remains. -/
theorem dropWhile_ne_nil (solid : ¬ isAllBlank text) : text.dropWhile isBlank ≠ [] := by
  simpa [isAllBlank, List.dropWhile_eq_nil_iff] using solid

/-- Trimming adds no character. -/
theorem mem_of_mem_trim (present : char ∈ trim text) : char ∈ text :=
  (List.dropWhile_suffix isBlank).subset ((List.rdropWhile_prefix isBlank _).subset present)

/-- White space behind a text is trimmed off. -/
theorem trimEnd_append_of_isAllBlank (text : Text) {after : Text} (blank : isAllBlank after) :
    trimEnd (text ++ after) = trimEnd text := by
  induction after using List.reverseRecOn with
  | nil => rw [List.append_nil]
  | append_singleton after last inductionHypothesis =>
      have parts : isAllBlank after ∧ isBlank last := by
        simpa [isAllBlank] using blank
      rw [← List.append_assoc, trimEnd_concat_of_blank parts.2, inductionHypothesis parts.1]

/-- What is not blank behind a text keeps the text. -/
theorem trimEnd_append_of_not_isAllBlank (text : Text) {after : Text}
    (solid : ¬ isAllBlank after) : trimEnd (text ++ after) = text ++ trimEnd after := by
  induction after using List.reverseRecOn with
  | nil => exact absurd rfl solid
  | append_singleton after last inductionHypothesis =>
      rw [← List.append_assoc]
      by_cases blank : isBlank last
      · have rest : ¬ isAllBlank after := fun allBlank => solid (by
          simp only [isAllBlank, List.all_append] at allBlank ⊢
          simp [allBlank, blank])
        rw [trimEnd_concat_of_blank blank, trimEnd_concat_of_blank blank, inductionHypothesis rest]
      · rw [trimEnd_concat_of_not_blank blank, trimEnd_concat_of_not_blank blank,
          List.append_assoc]

/-- Trimming the end first makes no difference. -/
theorem trim_trimEnd (text : Text) : trim (trimEnd text) = trim text := by
  induction text using List.reverseRecOn with
  | nil => rfl
  | append_singleton text last inductionHypothesis =>
      by_cases blank : isBlank last
      · rw [trimEnd_concat_of_blank blank, inductionHypothesis, trim_concat_of_blank blank]
      · rw [trimEnd_concat_of_not_blank blank]

/-- White space behind a text is trimmed off. -/
theorem trim_append_of_isAllBlank (text : Text) {after : Text} (blank : isAllBlank after) :
    trim (text ++ after) = trim text := by
  rw [← trim_trimEnd, trimEnd_append_of_isAllBlank text blank, trim_trimEnd]

/-- What is removed at the front and at the end is white space. -/
theorem trim_parts (text : Text) : ∃ before after, text = before ++ trim text ++ after ∧
    (∀ char ∈ before, isBlank char) ∧ ∀ char ∈ after, isBlank char := by
  refine ⟨text.takeWhile isBlank, (text.dropWhile isBlank).rtakeWhile isBlank, ?_,
    fun _ => List.mem_takeWhile_imp, fun _ => List.mem_rtakeWhile_imp⟩
  rw [trim_eq, List.append_assoc, List.rdropWhile_append_rtakeWhile,
    List.takeWhile_append_dropWhile]

/-- What white space at either end makes no difference to, trimming makes no difference to. -/
theorem apply_trim {α : Type} {observe : Text → α}
    (front : ∀ {char}, isBlank char → ∀ text, observe (char :: text) = observe text)
    (back : ∀ {char}, isBlank char → ∀ text, observe (text ++ [char]) = observe text)
    (text : Text) : observe (trim text) = observe text := by
  obtain ⟨before, after, whole, blankBefore, blankAfter⟩ := trim_parts text
  have ends : observe (trim text ++ after) = observe (trim text) := by
    clear whole
    induction after using List.reverseRecOn with
    | nil => rw [List.append_nil]
    | append_singleton after last inductionHypothesis =>
        rw [← List.append_assoc, back (blankAfter last (by simp))]
        exact inductionHypothesis fun char present => blankAfter char (by simp [present])
  have starts : observe (before ++ (trim text ++ after)) = observe (trim text ++ after) := by
    clear whole
    induction before with
    | nil => rfl
    | cons first before inductionHypothesis =>
        rw [List.cons_append, front (blankBefore first (by simp))]
        exact inductionHypothesis fun char present => blankBefore char (by simp [present])
  conv_rhs => rw [whole]
  rw [List.append_assoc, starts, ends]

/-- White space around a text adds nothing to what is solid in it. -/
theorem countP_trim (text : Text) :
    (trim text).countP (fun char => !isBlank char) = text.countP (fun char => !isBlank char) := by
  obtain ⟨before, after, whole, blankBefore, blankAfter⟩ := trim_parts text
  have none {around : Text} (blank : ∀ char ∈ around, isBlank char) :
      around.countP (fun char => !isBlank char) = 0 :=
    List.countP_eq_zero.mpr fun char present => by simp [blank char present]
  conv_rhs => rw [whole]
  rw [List.countP_append, List.countP_append, none blankBefore, none blankAfter, Nat.zero_add,
    Nat.add_zero]

end Issuebook.Text
