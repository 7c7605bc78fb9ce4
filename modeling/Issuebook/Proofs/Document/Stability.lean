import Issuebook.Proofs.Document.Body
import Issuebook.Proofs.Document.Faithfulness
import Issuebook.Reconciliation.Facet

/-!
# Stable documents

Where the title stands on one line and no metadata breaks a line, an issue that is read back from
its document has the body it was written with, and so the same document: writing and reading
again changes nothing, however often it is done.
-/

namespace Issuebook

namespace Issue

open Text

variable {issue other : Issue} {title : Text}

/-- The lines below the heading are the lines of a text that differs from the one that was
written below it by white space around it at most. -/
theorem dropTitle_trim (single : IsSingleLine title) (below : List Text) :
    ∃ rest, dropTitle title (lines (trim (unlines ([] :: titleHeading title :: below)))) =
      lines rest ∧ trim rest = trim (unlines below) := by
  have solid : ¬ isBlank '#' := by decide
  have headingSingle : IsSingleLine (titleHeading title) :=
    isSingleLine_append (by decide : IsSingleLine ['#', ' ']) single
  -- A text that is the trimmed heading loses its only line.
  have alone (blank : isAllBlank (unlines below))
      (written : trim (unlines ([] :: titleHeading title :: below)) = trim (titleHeading title)) :
      ∃ rest, dropTitle title (lines (trim (unlines ([] :: titleHeading title :: below)))) =
        lines rest ∧ trim rest = trim (unlines below) := by
    have present : trim (titleHeading title) ≠ [] := by
      simp [titleHeading, trim_cons_of_not_blank solid]
    have lineSingle : IsSingleLine (trim (titleHeading title)) :=
      fun char place => headingSingle char (mem_of_mem_trim place)
    refine ⟨[], ?_, ((trim_eq_nil_iff _).mpr blank).symm⟩
    rw [written, lines_of_single present lineSingle, dropTitle, if_pos (trim_trim _), lines_nil]
  rw [trim_unlines_cons] at alone ⊢
  cases below with
  | nil => exact alone rfl rfl
  | cons line below =>
      have shape : unlines (titleHeading title :: line :: below) =
          '#' :: (' ' :: title ++ '\n' :: unlines (line :: below)) := by
        rw [unlines_cons (by simp)]
        rfl
      by_cases blank : isAllBlank (unlines (line :: below))
      · have feed : isAllBlank ('\n' :: unlines (line :: below)) := by
          have feed : isBlank '\n' := by decide
          simpa [isAllBlank, feed] using blank
        refine alone blank ?_
        rw [shape, trim_cons_of_not_blank solid, trimEnd_append_of_isAllBlank _ feed, titleHeading,
          trim_cons_of_not_blank solid]
      · have feed : trimEnd ('\n' :: unlines (line :: below)) =
            '\n' :: trimEnd (unlines (line :: below)) :=
          trimEnd_append_of_not_isAllBlank ['\n'] blank
        have notBlank : ¬ isAllBlank ('\n' :: unlines (line :: below)) := fun allBlank => blank (by
          simp only [isAllBlank, List.all_cons, Bool.and_eq_true] at allBlank ⊢
          exact allBlank.2)
        refine ⟨trimEnd (unlines (line :: below)), ?_, trim_trimEnd _⟩
        have written : trim (unlines (titleHeading title :: line :: below)) =
            titleHeading title ++ '\n' :: trimEnd (unlines (line :: below)) := by
          rw [shape, trim_cons_of_not_blank solid,
            trimEnd_append_of_not_isAllBlank _ notBlank, feed]
          rfl
        rw [written, lines_single_append headingSingle, dropTitle, if_pos rfl]

/-- The lines that a document has below its heading. -/
def belowHeading (issue : Issue) : List Text :=
  dropLastEmpty ([] :: (issue.bodyLines ++ issue.relatedLines))

/-- A trimmed text is shown trimmed. -/
theorem textOrEmpty_trimmed? (text : Text) :
    textOrEmpty (Document.trimmed? text) = trim text := by
  unfold Document.trimmed?
  by_cases blank : trim text = []
  · simp [blank, textOrEmpty]
  · simp [blank, textOrEmpty]

/-- The issue of a document has the body of the lines below the heading. -/
theorem bodyText_restored (single : IsSingleLine issue.title) :
    (Document.restored issue (unlines (lines issue.bodyPart))).bodyText =
      bodyOf (terminated issue.belowHeading) := by
  have headingSingle : IsSingleLine (titleHeading issue.title) :=
    isSingleLine_append (by decide : IsSingleLine ['#', ' ']) single
  have part : lines issue.bodyPart =
      [] :: titleHeading issue.title :: lines (terminated issue.belowHeading) := by
    rw [bodyPart, terminated_cons, List.nil_append, lines_feed, terminated_cons,
      lines_single_append headingSingle]
    rfl
  obtain ⟨rest, dropped, same⟩ :=
    dropTitle_trim single (lines (terminated issue.belowHeading))
  change trim (unlines (beforeRelated (dropTitle issue.title (lines (trim (textOrEmpty
    (Document.trimmed? (unlines (lines issue.bodyPart))))))))) = _
  rw [textOrEmpty_trimmed?, trim_trim, part, dropped]
  change bodyOf rest = _
  rw [bodyOf_congr same, bodyOf_unlines fun line present => isSingleLine_of_mem_lines present]
  rfl

/-- A section of related issues begins with its heading. -/
theorem relatedLines_cases (issue : Issue) :
    issue.relatedLines = [] ∨ ∃ rest, issue.relatedLines = relatedHeading :: rest := by
  unfold relatedLines
  extract_lets groups
  split_ifs
  · exact .inl rfl
  · exact .inr ⟨_, rfl⟩

/-- The lines of a body are none, or the body with an empty line. -/
theorem bodyLines_cases (issue : Issue) :
    (issue.bodyText = [] ∧ issue.bodyLines = []) ∨
      (issue.bodyText ≠ [] ∧ issue.bodyLines = [issue.bodyText, []]) := by
  by_cases empty : issue.bodyText = []
  · exact .inl ⟨empty, by simp [bodyLines, empty]⟩
  · exact .inr ⟨empty, by simp [bodyLines, empty]⟩

/-- A text between empty lines is trimmed to itself. -/
theorem trim_terminated_between (text : Text) (count : Nat) :
    trim (terminated ([] :: text :: List.replicate count [])) = trim text := by
  have feed : isBlank '\n' := by decide
  have feeds : isAllBlank ('\n' :: terminated (List.replicate count [])) := by
    induction count with
    | zero => decide
    | succ count inductionHypothesis =>
        rw [List.replicate_succ, terminated_cons, List.nil_append]
        simpa [isAllBlank, feed] using inductionHypothesis
  rw [terminated_cons, List.nil_append, trim_cons_of_blank feed, terminated_cons,
    trim_append_of_isAllBlank _ feeds]

/-- Lines in front of a section of related issues make the body. -/
theorem bodyOf_terminated_append (before after : List Text) :
    bodyOf (terminated (before ++ relatedHeading :: after)) = bodyOf (terminated before) := by
  have heading : isRelatedHeading relatedHeading := by decide
  have stop : beforeRelated (relatedHeading :: lines (terminated after)) = [] := by
    rw [beforeRelated_cons, if_pos heading]
  have whole : lines (terminated (before ++ relatedHeading :: after)) =
      lines (terminated before) ++ relatedHeading :: lines (terminated after) := by
    rw [terminated_append, lines_terminated_cut, terminated_cons,
      lines_single_append (by decide)]
  rw [bodyOf, bodyOf, whole]
  rcases beforeRelated_append (lines (terminated before)) with keeps | hides
  · have alone := keeps []
    rw [List.append_nil] at alone
    rw [keeps, stop, alone]
    rfl
  · rw [hides]

/-- The lines below the heading have the body that was written there. -/
theorem bodyOf_belowHeading (issue : Issue) :
    bodyOf (terminated issue.belowHeading) = issue.bodyText := by
  have wrapped (count : Nat) :
      bodyOf (terminated ([] :: issue.bodyText :: List.replicate count [])) = issue.bodyText := by
    rw [bodyOf_congr (trim_terminated_between issue.bodyText count), bodyOf_bodyText]
  have front : bodyOf (terminated ([] :: issue.bodyLines)) = issue.bodyText := by
    rcases bodyLines_cases issue with ⟨empty, shape⟩ | ⟨-, shape⟩
    · rw [shape, empty]
      decide
    · rw [shape]
      exact wrapped 1
  rcases relatedLines_cases issue with none | ⟨rest, some⟩
  · rw [belowHeading, none, List.append_nil]
    rcases bodyLines_cases issue with ⟨empty, shape⟩ | ⟨present, shape⟩
    · rw [shape, empty]
      decide
    · have cut : dropLastEmpty ([[]] ++ issue.bodyText :: [[]]) =
          [[]] ++ issue.bodyText :: dropLastEmpty [[]] :=
        dropLastEmpty_append [[]] present [[]]
      rw [show dropLastEmpty [[]] = [] from rfl] at cut
      rw [shape]
      exact (congrArg (fun lines => bodyOf (terminated lines)) cut).trans (wrapped 0)
  · have cut := dropLastEmpty_append ([] :: issue.bodyLines)
      (by decide : relatedHeading ≠ []) rest
    have shape : [] :: (issue.bodyLines ++ issue.relatedLines) =
        ([] :: issue.bodyLines) ++ relatedHeading :: rest := by
      rw [some, List.cons_append]
    rw [belowHeading, shape, cut, bodyOf_terminated_append, front]

/-- A document is determined by the metadata of its issue and the body. -/
theorem toDocument_congr (same : SameMetadata issue other)
    (body : other.bodyText = issue.bodyText) : other.toDocument = issue.toDocument := by
  have lists : listLine "labels" other.labels = listLine "labels" issue.labels ∧
      listLine "dependsOn" other.dependsOn = listLine "dependsOn" issue.dependsOn ∧
      listLine "blocks" other.blocks = listLine "blocks" issue.blocks ∧
      listLine "children" other.children = listLine "children" issue.children := by
    rw [same.labels, same.dependsOn, same.blocks, same.children]
    exact ⟨rfl, rfl, rfl, rfl⟩
  have metadata : other.metadataLines = issue.metadataLines := by
    simp only [metadataLines, lists, same.id, same.title, same.status, same.kind, same.priority,
      same.assignee, same.createdAt, same.updatedAt, same.closedAt, same.parent, same.source]
  have related : other.relatedLines = issue.relatedLines := by
    unfold relatedLines
    rw [same.dependsOn, same.blocks, same.children]
    rfl
  simp only [toDocument, bodyLines, metadata, related, body, same.title]

/-- Copies with the same metadata and the same body differ in no facet. -/
theorem differing_eq_nil (same : SameMetadata issue other)
    (body : other.bodyText = issue.bodyText) : Facet.differing issue other = [] := by
  refine List.filter_eq_nil_iff.mpr fun facet _ => ?_
  have agrees : facet.value issue = facet.value other := by
    cases facet <;> simp [Facet.value, same.title, same.status, same.kind, same.priority, body,
      same.assignee, same.labels, same.dependsOn, same.blocks, same.parent, itemsOrNone]
  simp [Facet.agrees, agrees]

/-- An issue that is read back from its document is a copy with the same body. -/
theorem exists_copy (valid : issue.IsValid) (unbroken : issue.IsUnbroken)
    (single : IsSingleLine issue.title) :
    ∃ copy, Document.readIssue issue.toDocument = .ok copy ∧ SameMetadata issue copy ∧
      copy.bodyText = issue.bodyText :=
  ⟨_, Document.readIssue_toDocument valid unbroken, sameMetadata_restored issue _,
    (bodyText_restored single).trans (bodyOf_belowHeading issue)⟩

end Issue

namespace Document

open Issue

/-- The document of the issue that a document holds. -/
def rewrite (content : Text) : Except Fault Text := do
  let issue ← readIssue content
  pure issue.toDocument

/-- A document after it was read and written a number of times. -/
def rewriteTimes : (count : Nat) → Text → Except Fault Text
  | 0, content => .ok content
  | count + 1, content => do
    let written ← rewrite content
    rewriteTimes count written

/-- What is written again unchanged stays so any number of times. -/
theorem rewriteTimes_of_fixed {content : Text} (fixed : rewrite content = .ok content)
    (count : Nat) : rewriteTimes count content = .ok content := by
  induction count with
  | zero => rfl
  | succ count inductionHypothesis =>
      rw [rewriteTimes, fixed]
      exact inductionHypothesis

/-- The document of a valid issue with its title on one line and no bare line boundary in its
metadata is read as a copy that differs in no facet and has the same body and document; reading
and writing it any number of times gives the same text. -/
theorem stable_of_single_line_title (issue : Issue) (valid : issue.IsValid)
    (unbroken : issue.IsUnbroken) (single : Text.IsSingleLine issue.title) :
    (∃ copy, readIssue issue.toDocument = .ok copy ∧ Facet.differing issue copy = [] ∧
      copy.bodyText = issue.bodyText ∧ copy.toDocument = issue.toDocument) ∧
      ∀ count, rewriteTimes count issue.toDocument = .ok issue.toDocument := by
  obtain ⟨copy, made, same, body⟩ := exists_copy valid unbroken single
  have document : copy.toDocument = issue.toDocument := toDocument_congr same body
  refine ⟨⟨copy, made, differing_eq_nil same body, body, document⟩, ?_⟩
  refine rewriteTimes_of_fixed ?_
  rw [rewrite, made]
  change Except.ok copy.toDocument = Except.ok issue.toDocument
  rw [document]

/-- An issue whose description repeats what a document adds around it. -/
def selfQuoting : Issue :=
  { disguised with
    title := " "
    description := some "# \n---\n# \n```\n## Related Issues\n- [x](./x.md)\n"
    dependsOn := some ["x"] }

/-- An issue that quotes its own title is stable. -/
theorem selfQuoting_stable : selfQuoting.IsValid ∧ selfQuoting.IsUnbroken ∧
    Text.IsSingleLine selfQuoting.title ∧
    ∀ count, rewriteTimes count selfQuoting.toDocument = .ok selfQuoting.toDocument := by
  have valid : selfQuoting.IsValid := by
    constructor <;> decide
  exact ⟨valid, by decide, by decide,
    (stable_of_single_line_title selfQuoting valid (by decide) (by decide)).2⟩

end Document

end Issuebook
