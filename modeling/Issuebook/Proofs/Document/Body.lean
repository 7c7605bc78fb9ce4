import Issuebook.Document.Writing
import Issuebook.Proofs.Text.Lines
import Issuebook.Proofs.Text.Trimming

/-!
# Bodies

The body of a text is what stands before its section of related issues. White space around the
text makes no difference to it, and the body of a body is the body itself. The body of an issue is
read back from an issue with that description, unless it begins with a heading of the title once
more: `bodyText_of_body`.
-/

namespace Issuebook

namespace Issue

open Text

variable {char : Char} {line : Text} {issue again : Issue}

/-- The body of a text: what stands before its section of related issues, trimmed. -/
def bodyOf (text : Text) : Text :=
  trim (unlines (beforeRelated (lines text)))

/-- White space at the ends makes no heading. -/
theorem isRelatedHeading_congr {other : Text} (same : trim line = trim other) :
    isRelatedHeading line = isRelatedHeading other := by
  unfold isRelatedHeading
  rw [same]

/-- A blank line is no heading. -/
theorem isRelatedHeading_of_isAllBlank (blank : isAllBlank line) :
    isRelatedHeading line = false := by
  unfold isRelatedHeading
  rw [(trim_eq_nil_iff line).mpr blank]

/-- Lines are taken up to the heading of related issues. -/
theorem beforeRelated_cons (line : Text) (lines : List Text) :
    beforeRelated (line :: lines) =
      if isRelatedHeading line then [] else line :: beforeRelated lines := by
  by_cases heading : isRelatedHeading line <;> simp [beforeRelated, heading]

/-- Dropping the title leaves the end of the lines. -/
theorem dropTitle_suffix (title : Text) (found : List Text) : dropTitle title found <:+ found := by
  cases found with
  | nil => exact List.suffix_refl _
  | cons line found =>
      rw [dropTitle]
      split_ifs
      · exact List.suffix_cons line found
      · exact List.suffix_refl _

/-- What stands in front of more lines is kept whole, or hides them. -/
theorem beforeRelated_append (front : List Text) :
    (∀ back, beforeRelated (front ++ back) = front ++ beforeRelated back) ∨
      ∀ back, beforeRelated (front ++ back) = beforeRelated front := by
  induction front with
  | nil => exact .inl fun _ => rfl
  | cons line front inductionHypothesis =>
      by_cases heading : isRelatedHeading line
      · exact .inr fun back => by
          rw [List.cons_append, beforeRelated_cons, beforeRelated_cons, if_pos heading,
            if_pos heading]
      · rcases inductionHypothesis with keeps | hides
        · exact .inl fun back => by
            rw [List.cons_append, beforeRelated_cons, if_neg heading, keeps, List.cons_append]
        · exact .inr fun back => by
            rw [List.cons_append, beforeRelated_cons, beforeRelated_cons, if_neg heading,
              if_neg heading, hides]

/-- White space in front of the lines makes no difference. -/
theorem trim_beforeRelated_consLine (blank : isBlank char) (lines : List Text) :
    trim (unlines (beforeRelated (consLine char lines))) =
      trim (unlines (beforeRelated lines)) := by
  cases lines with
  | nil =>
      have noHeading : isRelatedHeading [char] = false :=
        isRelatedHeading_of_isAllBlank (by simp [isAllBlank, blank])
      rw [consLine, beforeRelated_cons, noHeading]
      exact (trim_cons_of_blank blank []).trans rfl
  | cons line lines =>
      have same : isRelatedHeading (char :: line) = isRelatedHeading line :=
        isRelatedHeading_congr (trim_cons_of_blank blank line)
      rw [consLine, beforeRelated_cons, beforeRelated_cons, same]
      split_ifs
      · rfl
      · have front : unlines ((char :: line) :: beforeRelated lines) =
            char :: unlines (line :: beforeRelated lines) := by
          cases beforeRelated lines <;> rfl
        rw [front, trim_cons_of_blank blank]

/-- White space in front of a text is not in its body. -/
theorem bodyOf_cons_of_blank (blank : isBlank char) (text : Text) :
    bodyOf (char :: text) = bodyOf text := by
  rcases lines_cons_cases char text with ⟨-, shape⟩ | ⟨-, shape⟩ | ⟨-, shape⟩
  · rw [bodyOf, shape, trim_beforeRelated_consLine blank]
    rfl
  · have noHeading : isRelatedHeading [] = false := isRelatedHeading_of_isAllBlank rfl
    rw [bodyOf, shape, beforeRelated_cons, noHeading]
    exact trim_unlines_cons _
  · rw [bodyOf, shape]
    rfl

/-- Neither is white space behind it. -/
theorem bodyOf_concat_of_blank (blank : isBlank char) (text : Text) :
    bodyOf (text ++ [char]) = bodyOf text := by
  rcases lines_concat_cases text char with same | ⟨line, last, more⟩ | ⟨front, last, shape, more⟩
  · rw [bodyOf, same]
    rfl
  · have blankLine : isAllBlank line := by
      rcases last with rfl | rfl <;> simp [isAllBlank, blank]
    have kept : beforeRelated [line] = [line] := by
      rw [beforeRelated_cons, isRelatedHeading_of_isAllBlank blankLine]
      rfl
    rw [bodyOf, bodyOf, more]
    rcases beforeRelated_append (lines text) with keeps | hides
    · have whole := keeps []
      rw [List.append_nil] at whole
      rw [keeps, kept, trim_unlines_concat_of_isAllBlank _ blankLine, whole]
      simp [beforeRelated]
    · rw [hides]
  · rw [bodyOf, bodyOf, more, shape]
    rcases beforeRelated_append front with keeps | hides
    · have same : isRelatedHeading (last ++ [char]) = isRelatedHeading last :=
        isRelatedHeading_congr (trim_concat_of_blank blank last)
      rw [keeps, keeps, beforeRelated_cons, beforeRelated_cons, same]
      split_ifs
      · rfl
      · have back : unlines (front ++ [last ++ [char]]) = unlines (front ++ [last]) ++ [char] := by
          rw [unlines_concat, unlines_concat]
          split_ifs <;> simp
        exact (congrArg trim back).trans (trim_concat_of_blank blank _)
    · rw [hides, hides]

/-- So the body of a trimmed text is that of the text. -/
theorem bodyOf_trim (text : Text) : bodyOf (trim text) = bodyOf text :=
  apply_trim bodyOf_cons_of_blank bodyOf_concat_of_blank text

/-- White space around a text makes no difference to its body. -/
theorem bodyOf_congr {text other : Text} (same : trim text = trim other) :
    bodyOf text = bodyOf other := by
  rw [← bodyOf_trim text, same, bodyOf_trim]

/-- The body of joined lines is what stands before the related issues. -/
theorem bodyOf_unlines {lines : List Text} (single : ∀ line ∈ lines, IsSingleLine line) :
    bodyOf (unlines lines) = trim (unlines (beforeRelated lines)) := by
  cases lines with
  | nil => rfl
  | cons line lines =>
      rw [← bodyOf_concat_of_blank (by decide : isBlank '\n'), unlines_append_feed (by simp),
        bodyOf, lines_terminated single]

/-- A trimmed beginning of lines before the section of related issues is its own body. -/
theorem bodyOf_beforeRelated {lines : List Text} (single : ∀ line ∈ lines, IsSingleLine line) :
    bodyOf (trim (unlines (beforeRelated lines))) = trim (unlines (beforeRelated lines)) := by
  have singleBefore : ∀ line ∈ beforeRelated lines, IsSingleLine line :=
    fun line present => single line (List.takeWhile_subset _ present)
  have again : beforeRelated (beforeRelated lines) = beforeRelated lines := List.takeWhile_idem
  rw [bodyOf_trim, bodyOf_unlines singleBefore, again]

/-- A body is its own body. -/
theorem bodyOf_bodyText (issue : Issue) : bodyOf issue.bodyText = issue.bodyText :=
  bodyOf_beforeRelated fun _ present =>
    isSingleLine_of_mem_lines ((dropTitle_suffix _ _).subset present)

/-- The body begins with a heading of the title. -/
def RepeatsTitle (issue : Issue) : Prop :=
  ∃ line ∈ (lines issue.bodyText).head?, trim line = trim (titleHeading issue.title)

instance (issue : Issue) : Decidable issue.RepeatsTitle :=
  inferInstanceAs (Decidable (∃ line ∈ (lines issue.bodyText).head?, _))

/-- The body of a body is the body, unless it begins with a heading of the title. -/
theorem bodyText_of_body (title : again.title = issue.title)
    (body : textOrEmpty again.description = issue.bodyText) :
    again.bodyText = issue.bodyText ↔ ¬ issue.RepeatsTitle := by
  have trimmed : trim issue.bodyText = issue.bodyText := trim_trim _
  have whole : trim (unlines (beforeRelated (lines issue.bodyText))) = issue.bodyText :=
    bodyOf_bodyText issue
  rw [bodyText, title, body, trimmed, RepeatsTitle]
  cases shape : lines issue.bodyText with
  | nil =>
      rw [shape] at whole
      exact iff_of_true whole (by simp)
  | cons line rest =>
      rw [shape] at whole
      rw [dropTitle]
      split_ifs with heading
      · refine iff_of_false (fun same => ?_) (not_not_intro ⟨line, rfl, heading⟩)
        have solid : ¬ isAllBlank line := by
          rw [← trim_eq_nil_iff, heading, titleHeading,
            trim_cons_of_not_blank (by decide : ¬ isBlank '#')]
          exact List.cons_ne_nil _ _
        have listed : beforeRelated (line :: rest) = line :: beforeRelated rest := by
          rw [beforeRelated_cons, if_neg]
          intro related
          rw [beforeRelated_cons, if_pos related] at whole
          rw [← whole] at shape
          cases shape
        rw [listed] at whole
        exact trim_unlines_cons_ne solid _ (whole.trans same.symm)
      · refine iff_of_true whole ?_
        rintro ⟨first, present, repeated⟩
        obtain rfl := Option.some.inj present
        exact heading repeated

end Issue

end Issuebook
