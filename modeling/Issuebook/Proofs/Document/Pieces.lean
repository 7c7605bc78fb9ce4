import Issuebook.Document.Metadata
import Issuebook.Issue.Intake
import Issuebook.Proofs.Issue.Validity
import Issuebook.Proofs.Text.Lines

/-!
# Pieces between commas

The clean pieces that commas cut a text into. Those of joined texts are those of one text after the
other (`pieces_join`), so clean texts are the pieces of what they make up exactly when none of them
holds a comma (`flatMap_pieces_eq_iff`). Lists of texts that are taken in as one text are cut the
same way (`Value.idList?_text`).
-/

namespace Issuebook

namespace Scalar

open Text

variable {char : Char} {text piece : Text} {items : List Text}

/-- A comma divides the pieces in front of it from those behind. -/
theorem pieces_append (first second : Text) :
    pieces (first ++ ',' :: second) = pieces first ++ pieces second := by
  rw [pieces, splitOn_append_mark, List.map_append, List.filter_append]
  rfl

/-- White space in front adds nothing to the pieces. -/
theorem pieces_cons_of_blank (blank : isBlank char) (text : Text) :
    pieces (char :: text) = pieces text := by
  have other : char ≠ ',' := by
    rintro rfl
    exact absurd blank (by decide)
  obtain ⟨first, more, split, -⟩ := splitOn_shape ',' text
  have splitBlank : splitOn ',' (char :: text) = (char :: first) :: more := by
    rw [splitOn, if_neg other, split]
  rw [pieces, pieces, splitBlank, split, List.map_cons, List.map_cons, trim_cons_of_blank blank]

/-- White space in front of a text makes no difference. -/
theorem pieces_append_of_isAllBlank {blanks : Text} (blank : isAllBlank blanks) (text : Text) :
    pieces (blanks ++ text) = pieces text := by
  induction blanks with
  | nil => rfl
  | cons char blanks inductionHypothesis =>
      obtain ⟨here, later⟩ : isBlank char ∧ isAllBlank blanks := by
        simpa [isAllBlank] using blank
      rw [List.cons_append, pieces_cons_of_blank here, inductionHypothesis later]

/-- Texts that are joined by commas, with white space behind or without, have the pieces of one
text after the other. -/
theorem pieces_join (blanks : Text) (blank : isAllBlank blanks) (items : List Text) :
    pieces (join (',' :: blanks) items) = items.flatMap pieces := by
  induction items with
  | nil => rfl
  | cons item items inductionHypothesis =>
      cases items with
      | nil => simp [join]
      | cons next items =>
          have shape : join (',' :: blanks) (item :: next :: items) =
              item ++ ',' :: (blanks ++ join (',' :: blanks) (next :: items)) := by
            simp [join]
          rw [shape, pieces_append, pieces_append_of_isAllBlank blank, inductionHypothesis]
          rfl

/-- What is neither white space nor a comma stands in some piece. -/
theorem pieces_ne_nil (listed : char ∈ text) (solid : ¬ isBlank char) (other : char ≠ ',') :
    pieces text ≠ [] := by
  obtain ⟨first, more, split, whole⟩ := splitOn_shape ',' text
  obtain ⟨part, cut, within⟩ : ∃ part ∈ splitOn ',' text, char ∈ part := by
    rw [whole] at listed
    rw [split]
    rcases List.mem_append.mp listed with here | later
    · exact ⟨first, List.mem_cons_self, here⟩
    · obtain ⟨part, cut, within⟩ := List.mem_flatMap.mp later
      exact ⟨part, List.mem_cons_of_mem _ cut, (List.mem_cons.mp within).resolve_left other⟩
  have kept : trim part ≠ [] := by
    rw [Ne, trim_eq_nil_iff, isAllBlank, List.all_eq_true]
    exact fun blank => solid (blank char within)
  exact List.ne_nil_of_mem
    (List.mem_filter.mpr ⟨List.mem_map_of_mem cut, decide_eq_true kept⟩)

/-- No piece has a comma. -/
theorem not_mem_of_mem_pieces (part : piece ∈ pieces text) : ',' ∉ piece := by
  obtain ⟨whole, split, rfl⟩ := List.mem_map.mp (List.mem_of_mem_filter part)
  exact fun comma => not_mem_of_mem_splitOn split (mem_of_mem_trim comma)

/-- A clean text without commas is its only piece. -/
theorem pieces_of_isClean (clean : IsClean text) (plain : ',' ∉ text) : pieces text = [text] := by
  rw [pieces, splitOn_of_absent plain]
  simp [clean.1, clean.2]

/-- So are clean items without commas. -/
theorem flatMap_pieces_of_plain (clean : ∀ item ∈ items, IsClean item)
    (plain : ∀ item ∈ items, ',' ∉ item) : items.flatMap pieces = items := by
  induction items with
  | nil => rfl
  | cons item items inductionHypothesis =>
      obtain ⟨cleanHere, clean⟩ := List.forall_mem_cons.mp clean
      obtain ⟨plainHere, plain⟩ := List.forall_mem_cons.mp plain
      rw [List.flatMap_cons, pieces_of_isClean cleanHere plainHere, inductionHypothesis clean plain]
      rfl

/-- Clean texts are their own pieces when there is no comma in them. -/
theorem flatMap_pieces_eq_iff (clean : ∀ item ∈ items, IsClean item) :
    items.flatMap pieces = items ↔ ∀ item ∈ items, ',' ∉ item := by
  refine ⟨fun same item listed => ?_, flatMap_pieces_of_plain clean⟩
  rw [← same] at listed
  obtain ⟨_, -, part⟩ := List.mem_flatMap.mp listed
  exact not_mem_of_mem_pieces part

end Scalar

namespace Value

/-- A text is taken in as the list of its pieces. -/
theorem idList?_text (text : Text) : idList? (.text text) = some (Scalar.pieces text) := by
  have each (parts : List Text) : parts.filterMap (fun piece => cleanText? (.text piece)) =
      (parts.map Text.trim).filter (· ≠ []) := by
    induction parts with
    | nil => rfl
    | cons part parts inductionHypothesis =>
        by_cases blank : Text.trim part = []
        · rw [List.filterMap_cons_none (by simp [cleanText?, scalarText?, blank]), List.map_cons,
            List.filter_cons_of_neg (by simp [blank]), inductionHypothesis]
        · rw [List.filterMap_cons_some (b := Text.trim part)
            (by simp [cleanText?, scalarText?, blank]), List.map_cons,
            List.filter_cons_of_pos (by simp [blank]), inductionHypothesis]
  exact congrArg some (each (Text.splitOn ',' text))

end Value

end Issuebook
