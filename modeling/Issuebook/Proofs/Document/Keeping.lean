import Issuebook.Proofs.Document.Body
import Issuebook.Proofs.Document.Restoration
import Issuebook.Proofs.Document.Stability

/-!
# What a body keeps

The lines of a text that are not blank, up to white space around them, are its solid lines. Those of
the body are the solid lines of the description, without a first one that shows the title, and up to
the first heading of related issues (`solidLines_bodyText`). What a user wrote in front of the
generated section is kept therefore, and what stands behind the section is lost: `keeps_iff`.
-/

namespace Issuebook

namespace Issue

open Text Document

variable {issue : Issue} {char : Char} {line title : Text} {before behind : List Text}

/-- The lines of a text that are not blank, trimmed. -/
def solidLines (text : Text) : List Text :=
  (lines text).filterMap trimmed?

/-! ## Solid lines -/

/-- A blank line has nothing to keep. -/
theorem trimmed?_of_isAllBlank (blank : isAllBlank line) : trimmed? line = none := by
  simp [trimmed?, (trim_eq_nil_iff line).mpr blank]

/-- Any other line is kept without the white space at its ends. -/
theorem trimmed?_of_solid (solid : ¬ isAllBlank line) : trimmed? line = some (trim line) := by
  rw [← trim_eq_nil_iff] at solid
  simp [trimmed?, solid]

/-- Lines that differ in that white space alone are kept as the same line. -/
theorem trimmed?_congr {other : Text} (same : trim line = trim other) :
    trimmed? line = trimmed? other := by
  rw [trimmed?, trimmed?, same]

/-- White space in front of a text makes no difference. -/
theorem solidLines_cons_of_blank (blank : isBlank char) (text : Text) :
    solidLines (char :: text) = solidLines text := by
  rw [solidLines, solidLines]
  rcases lines_cons_cases char text with ⟨-, shape⟩ | ⟨-, shape⟩ | ⟨-, shape⟩
  · rw [shape]
    cases lines text with
    | nil => exact List.filterMap_cons_none (trimmed?_of_isAllBlank (by simp [isAllBlank, blank]))
    | cons line rest =>
        rw [consLine, List.filterMap_cons, List.filterMap_cons,
          trimmed?_congr (trim_cons_of_blank blank line)]
  · rw [shape]
    exact List.filterMap_cons_none rfl
  · rw [shape]

/-- Neither does white space behind it. -/
theorem solidLines_concat_of_blank (blank : isBlank char) (text : Text) :
    solidLines (text ++ [char]) = solidLines text := by
  rw [solidLines, solidLines]
  rcases lines_concat_cases text char with same | ⟨line, last, more⟩ | ⟨front, last, shape, more⟩
  · rw [same]
  · have blankLine : isAllBlank line := by
      rcases last with rfl | rfl <;> simp [isAllBlank, blank]
    rw [more, List.filterMap_append, List.filterMap_cons_none (trimmed?_of_isAllBlank blankLine),
      List.filterMap_nil, List.append_nil]
  · rw [more, shape, List.filterMap_append, List.filterMap_append, List.filterMap_cons,
      List.filterMap_cons, trimmed?_congr (trim_concat_of_blank blank last)]

/-- White space around a text adds no solid line. -/
theorem solidLines_trim (text : Text) : solidLines (trim text) = solidLines text :=
  apply_trim solidLines_cons_of_blank solidLines_concat_of_blank text

/-- The solid lines of joined texts are those of each text. -/
theorem solidLines_unlines (texts : List Text) :
    solidLines (unlines texts) = texts.flatMap solidLines :=
  filterMap_lines_unlines rfl texts

/-- So are those of terminated texts. -/
theorem solidLines_terminated (texts : List Text) :
    solidLines (terminated texts) = texts.flatMap solidLines := by
  cases texts with
  | nil => rfl
  | cons text texts =>
      rw [← unlines_append_feed (List.cons_ne_nil _ _),
        solidLines_concat_of_blank (by decide), solidLines_unlines]

/-- A single line has itself, or nothing. -/
theorem solidLines_of_single (single : IsSingleLine line) :
    solidLines line = (trimmed? line).toList := by
  by_cases empty : line = []
  · rw [empty]
    rfl
  · rw [solidLines, lines_of_single empty single, List.filterMap_eq_flatMap_toList,
      List.flatMap_singleton]

/-- Joined lines have those that are not blank. -/
theorem solidLines_unlines_of_single {found : List Text}
    (single : ∀ line ∈ found, IsSingleLine line) :
    solidLines (unlines found) = found.filterMap trimmed? := by
  rw [solidLines_unlines, List.filterMap_eq_flatMap_toList]
  exact List.flatMap_congr fun line listed => solidLines_of_single (single line listed)

/-! ## The body -/

/-- A heading of related issues is solid, and shows it when trimmed. -/
theorem filterMap_beforeRelated (found : List Text) :
    (beforeRelated found).filterMap trimmed? = beforeRelated (found.filterMap trimmed?) := by
  induction found with
  | nil => rfl
  | cons line found inductionHypothesis =>
      rw [beforeRelated_cons]
      by_cases blank : isAllBlank line
      · rw [isRelatedHeading_of_isAllBlank blank, if_neg Bool.false_ne_true,
          List.filterMap_cons_none (trimmed?_of_isAllBlank blank),
          List.filterMap_cons_none (trimmed?_of_isAllBlank blank), inductionHypothesis]
      · have same : isRelatedHeading (trim line) = isRelatedHeading line :=
          isRelatedHeading_congr (trim_trim line)
        rw [List.filterMap_cons_some (trimmed?_of_solid blank), beforeRelated_cons, same]
        split_ifs
        · rfl
        · rw [List.filterMap_cons_some (trimmed?_of_solid blank), inductionHypothesis]

/-- The first line of a trimmed text is solid. -/
theorem solid_of_head?_lines_trim {text : Text} (first : line ∈ (lines (trim text)).head?) :
    ¬ isAllBlank line := by
  cases shape : trim text with
  | nil =>
      rw [shape] at first
      cases first
  | cons char rest =>
      have clean : IsClean (char :: rest) := ⟨by rw [← shape, trim_trim], List.cons_ne_nil _ _⟩
      have inLine : ¬ isLineBreak char := fun ends =>
        clean.not_isBlank (isBlank_of_isLineBreak ends)
      rw [shape, lines_cons_of_not_break inLine, consLine_eq] at first
      obtain rfl := Option.some.inj first
      simp [isAllBlank, clean.not_isBlank]

/-- Dropping the title and the blank lines can be done in any order, if no blank line is in
front. -/
theorem filterMap_dropTitle {found : List Text}
    (solid : ∀ line ∈ found.head?, ¬ isAllBlank line) :
    (dropTitle title found).filterMap trimmed? = dropTitle title (found.filterMap trimmed?) := by
  cases found with
  | nil => rfl
  | cons line found =>
      rw [List.filterMap_cons_some (trimmed?_of_solid (solid line rfl)), dropTitle, dropTitle,
        trim_trim]
      split_ifs
      · rfl
      · rw [List.filterMap_cons_some (trimmed?_of_solid (solid line rfl))]

/-- The solid lines of the body are those of the description without a first one that shows the
title, up to the first heading of related issues. -/
theorem solidLines_bodyText (issue : Issue) : solidLines issue.bodyText =
    beforeRelated (dropTitle issue.title (solidLines (textOrEmpty issue.description))) := by
  have single : ∀ line ∈ lines (trim (textOrEmpty issue.description)), IsSingleLine line :=
    fun line present => isSingleLine_of_mem_lines present
  have kept : ∀ line ∈ beforeRelated (dropTitle issue.title
      (lines (trim (textOrEmpty issue.description)))), IsSingleLine line :=
    fun line present =>
      single line ((dropTitle_suffix _ _).subset (List.takeWhile_subset _ present))
  rw [bodyText, solidLines_trim, solidLines_unlines_of_single kept, filterMap_beforeRelated,
    filterMap_dropTitle fun line first => solid_of_head?_lines_trim first, ← solidLines,
    solidLines_trim]

/-! ## The document -/

/-- Behind the first fence stand all lines behind a later one. -/
theorem exists_cutAtFence? (before behind : List Text) : ∃ inner more,
    cutAtFence? (before ++ fence :: behind) = some (inner, more ++ behind) ∧
      ∀ line ∈ more, line ∈ before ∨ line = fence := by
  induction before with
  | nil =>
      have closes : isFence fence := by decide
      exact ⟨[], [], by simp [cutAtFence?, closes], by simp⟩
  | cons line before inductionHypothesis =>
      obtain ⟨inner, more, cut, within⟩ := inductionHypothesis
      by_cases closes : isFence line
      · refine ⟨[], before ++ [fence], by simp [cutAtFence?, closes], fun other listed => ?_⟩
        exact (List.mem_append.mp listed).imp (List.mem_cons_of_mem line) List.mem_singleton.mp
      · refine ⟨line :: inner, more, by simp [cutAtFence?, closes, cut], fun other listed => ?_⟩
        exact (within other listed).imp_left (List.mem_cons_of_mem line)

/-- Whatever its metadata holds, a document is cut into metadata and a body, and at the end of the
body stands what was written behind the metadata. -/
theorem exists_split_toDocument (issue : Issue) : ∃ metadata body more,
    Document.split issue.toDocument = .ok (metadata, body) ∧
      solidLines body = more ++ solidLines issue.bodyPart := by
  obtain ⟨inner, more, cut, within⟩ :=
    exists_cutAtFence? (lines (terminated issue.metadataLines)) (lines issue.bodyPart)
  have single : ∀ line ∈ more ++ lines issue.bodyPart, IsSingleLine line := by
    refine List.forall_mem_append.mpr ⟨fun line listed => ?_, fun line listed => ?_⟩
    · rcases within line listed with torn | rfl
      · exact isSingleLine_of_mem_lines torn
      · decide
    · exact isSingleLine_of_mem_lines listed
  have whole : lines issue.toDocument =
      fence :: (lines (terminated issue.metadataLines) ++ fence :: lines issue.bodyPart) := by
    rw [toDocument_eq, lines_terminated_cut, terminated_cons, lines_single_append (by decide),
      lines_single_append (by decide), List.cons_append]
  have opens : opensDocument fence := by decide
  refine ⟨Metadata.read inner, unlines (more ++ lines issue.bodyPart),
    more.filterMap trimmed?, ?_, ?_⟩
  · rw [Document.split, whole]
    simp only [opens, if_true, cut]
  · rw [solidLines_unlines_of_single single, List.filterMap_append]
    rfl

/-- The body has solid lines of the part that it comes from, in their order. -/
theorem solidLines_bodyText_sublist (issue : Issue) :
    (solidLines issue.bodyText).Sublist (solidLines issue.bodyPart) := by
  rcases bodyLines_cases issue with ⟨empty, -⟩ | ⟨present, shape⟩
  · rw [empty]
    exact List.nil_sublist _
  · have below : dropLastEmpty ([] :: (issue.bodyLines ++ issue.relatedLines)) =
        [[]] ++ issue.bodyText :: dropLastEmpty ([] :: issue.relatedLines) := by
      rw [shape]
      exact dropLastEmpty_append [[]] present _
    rw [bodyPart, below, solidLines_terminated]
    have whole (front back : List Text) : (solidLines issue.bodyText).Sublist
        ((front ++ issue.bodyText :: back).flatMap solidLines) := by
      rw [List.flatMap_append, List.flatMap_cons]
      exact (List.sublist_append_left _ _).trans (List.sublist_append_right _ _)
    exact whole ([] :: titleHeading issue.title :: [[]]) _

/-! ## What a user wrote -/

/-- The solid lines of what a user wrote, without a first one that shows the title. -/
def remarks (title : Text) (written : List Text) : List Text :=
  dropTitle title (written.filterMap trimmed?)

/-- A text keeps what a user wrote: its remarks stand in the text in order. -/
def Keeps (text title : Text) (written : List Text) : Prop :=
  (remarks title written).Sublist (solidLines text)

instance (text title : Text) (written : List Text) : Decidable (Keeps text title written) :=
  inferInstanceAs (Decidable (List.Sublist _ _))

/-- A Markdown heading: one to six marks in front of white space or the end of the line. -/
def IsHeading (line : Text) : Prop :=
  countLeading '#' (trim line) ∈ List.range' 1 6 ∧
    ((trim line).drop (countLeading '#' (trim line))).head?.all isBlank

instance (line : Text) : Decidable (IsHeading line) :=
  inferInstanceAs (Decidable (_ ∧ _))

/-- A heading is not blank. -/
theorem IsHeading.solid (heading : IsHeading line) : ¬ isAllBlank line := by
  rw [← trim_eq_nil_iff]
  intro blank
  rw [IsHeading, blank] at heading
  exact absurd heading.1 (by decide)

/-- The heading of a title has one mark, and that of related issues more. -/
theorem isRelatedHeading_titleHeading (title : Text) :
    isRelatedHeading (titleHeading title) = false := by
  have second : (trimEnd (' ' :: title)).head? ≠ some '#' := by
    intro mark
    obtain ⟨rest, shape⟩ := List.head?_eq_some_iff.mp mark
    have front : '#' :: rest <+: ' ' :: title := shape ▸ List.rdropWhile_prefix isBlank _
    exact absurd (List.cons_prefix_cons.mp front).1 (by decide)
  unfold isRelatedHeading
  rw [titleHeading, trim_cons_of_not_blank (by decide : ¬ isBlank '#')]
  revert second
  generalize trimEnd (' ' :: title) = rest
  intro second
  cases rest with
  | nil => rfl
  | cons mark rest =>
      have other : mark ≠ '#' := fun same => second (by rw [same]; rfl)
      dsimp only
      split
      · rename_i shape
        exact absurd (List.cons.inj (List.cons.inj shape).2).1 other
      · rename_i shape
        exact absurd (List.cons.inj (List.cons.inj shape).2).1 other
      · rfl

/-! ## In front of the section and behind it -/

/-- Lines of which none is a heading of related issues are kept in front of others. -/
theorem beforeRelated_append_of_plain {front : List Text}
    (plain : ∀ line ∈ front, isRelatedHeading line = false) (back : List Text) :
    beforeRelated (front ++ back) = front ++ beforeRelated back :=
  List.takeWhile_append_of_pos fun line listed => by simp [plain line listed]

/-- A title is dropped from the front, if there is one. -/
theorem dropTitle_append {front : List Text} (present : front ≠ []) (back : List Text) :
    dropTitle title (front ++ back) = dropTitle title front ++ back := by
  obtain ⟨line, rest, rfl⟩ := List.exists_cons_of_ne_nil present
  rw [List.cons_append, dropTitle, dropTitle]
  split_ifs <;> rfl

/-- What is dropped in front is no heading of related issues. -/
theorem forall_mem_dropTitle {found : List Text} :
    (∀ line ∈ dropTitle title found, isRelatedHeading line = false) ↔
      ∀ line ∈ found, isRelatedHeading line = false := by
  cases found with
  | nil => rfl
  | cons line found =>
      rw [dropTitle]
      split_ifs with heading
      · have plain : isRelatedHeading line = false :=
          (isRelatedHeading_congr heading).trans (isRelatedHeading_titleHeading title)
        rw [List.forall_mem_cons, and_iff_right plain]
      · rfl

/-- White space at the ends makes no heading of related issues. -/
theorem forall_mem_filterMap_trimmed? {found : List Text} :
    (∀ line ∈ found.filterMap trimmed?, isRelatedHeading line = false) ↔
      ∀ line ∈ found, isRelatedHeading line = false := by
  induction found with
  | nil => simp
  | cons line found inductionHypothesis =>
      by_cases blank : isAllBlank line
      · rw [List.filterMap_cons_none (trimmed?_of_isAllBlank blank), inductionHypothesis,
          List.forall_mem_cons, and_iff_right (isRelatedHeading_of_isAllBlank blank)]
      · rw [List.filterMap_cons_some (trimmed?_of_solid blank), List.forall_mem_cons,
          List.forall_mem_cons, inductionHypothesis, isRelatedHeading_congr (trim_trim line)]

/-- Lines are kept up to the first heading of related issues whole when there is none. -/
theorem sublist_beforeRelated_iff {found : List Text} :
    found.Sublist (beforeRelated found) ↔ ∀ line ∈ found, isRelatedHeading line = false := by
  constructor
  · intro kept
    have whole : beforeRelated found = found :=
      (List.takeWhile_prefix _).eq_of_length_le kept.length_le
    intro line listed
    rw [← whole] at listed
    simpa using List.mem_takeWhile_imp listed
  · intro plain
    have whole := beforeRelated_append_of_plain plain []
    rw [List.append_nil] at whole
    rw [whole]
    exact List.sublist_append_left _ _

/-- What stands in front of the first heading of related issues is kept, whatever stands behind. -/
theorem beforeRelated_dropTitle_append {front : List Text}
    (plain : ∀ line ∈ front, isRelatedHeading line = false) (back : List Text) :
    (dropTitle title front).Sublist (beforeRelated (dropTitle title (front ++ back))) := by
  by_cases empty : front = []
  · rw [empty]
    exact List.nil_sublist _
  · rw [dropTitle_append empty, beforeRelated_append_of_plain (forall_mem_dropTitle.mpr plain)]
    exact List.sublist_append_left _ _

/-- Nothing is kept from the first heading of related issues on. -/
theorem beforeRelated_dropTitle_heading {front : List Text}
    (plain : ∀ line ∈ front, isRelatedHeading line = false) {heading : Text}
    (related : isRelatedHeading heading = true) (back : List Text) :
    beforeRelated (dropTitle title (front ++ heading :: back)) = dropTitle title front := by
  have stop : beforeRelated (heading :: back) = [] := by
    rw [beforeRelated_cons, if_pos related]
  by_cases empty : front = []
  · have other : trim heading ≠ trim (titleHeading title) := fun same => by
      rw [isRelatedHeading_congr same, isRelatedHeading_titleHeading] at related
      cases related
    have kept : dropTitle title (heading :: back) = heading :: back := if_neg other
    rw [empty, List.nil_append, kept, stop]
    rfl
  · rw [dropTitle_append empty, beforeRelated_append_of_plain (forall_mem_dropTitle.mpr plain),
      stop, List.append_nil]

/-- Without relations what a user wrote is kept up to the first heading of related issues. -/
theorem keeps_of_unrelated
    (written : lines (textOrEmpty issue.description) = before ++ behind)
    (plain : ∀ line ∈ before, isRelatedHeading line = false) :
    Keeps issue.bodyText issue.title before ∧
      (Keeps issue.bodyText issue.title (before ++ behind) ↔
        ∀ line ∈ behind, isRelatedHeading line = false) := by
  have shown :
      solidLines issue.bodyText = beforeRelated (remarks issue.title (before ++ behind)) := by
    rw [solidLines_bodyText, solidLines, written, remarks]
  constructor
  · rw [Keeps, shown, remarks, remarks, List.filterMap_append]
    exact beforeRelated_dropTitle_append (forall_mem_filterMap_trimmed?.mpr plain) _
  · rw [Keeps, shown, sublist_beforeRelated_iff, remarks, forall_mem_dropTitle,
      forall_mem_filterMap_trimmed?, List.forall_mem_append, and_iff_right plain]

/-- Behind a heading of related issues nothing is kept. -/
theorem solidLines_bodyText_of_related {heading : Text} {rest : List Text}
    (written : lines (textOrEmpty issue.description) = before ++ heading :: rest)
    (plain : ∀ line ∈ before, isRelatedHeading line = false)
    (related : isRelatedHeading heading = true) :
    solidLines issue.bodyText = remarks issue.title before := by
  have solid : ¬ isAllBlank heading := fun blank => by
    rw [isRelatedHeading_of_isAllBlank blank] at related
    cases related
  rw [solidLines_bodyText, solidLines, written, List.filterMap_append,
    List.filterMap_cons_some (trimmed?_of_solid solid)]
  refine beforeRelated_dropTitle_heading (forall_mem_filterMap_trimmed?.mpr plain) ?_ _
  rw [isRelatedHeading_congr (trim_trim heading), related]

/-- Text that begins with a heading is kept by what holds only the text in front of it exactly where
there is nothing but a heading of the title in either. -/
theorem remarks_append_sublist_iff (opens : ∃ line ∈ behind.head?, IsHeading line) :
    (remarks title (before ++ behind)).Sublist (remarks title before) ↔
      remarks title (before ++ behind) = [] := by
  constructor
  · intro kept
    obtain ⟨line, first, heading⟩ := opens
    obtain ⟨rest, rfl⟩ := List.head?_eq_some_iff.mp first
    have parts : (before ++ line :: rest).filterMap trimmed? =
        before.filterMap trimmed? ++ trim line :: rest.filterMap trimmed? := by
      rw [List.filterMap_append, List.filterMap_cons_some (trimmed?_of_solid heading.solid)]
    rw [remarks, parts] at kept ⊢
    rw [remarks] at kept
    by_cases empty : before.filterMap trimmed? = []
    · rw [empty] at kept ⊢
      exact List.sublist_nil.mp kept
    · rw [dropTitle_append empty] at kept
      have longer := kept.length_le
      simp only [List.length_append, List.length_cons] at longer
      omega
  · intro empty
    rw [empty]
    exact List.nil_sublist _

/-- Let a description be what a user wrote in front, the section of related issues as documents
write it, and what the user wrote behind it, from a heading on. The body keeps the part in front. It
keeps both parts exactly where the issue has no relations and the part behind no section of its own,
or where neither part says more than the title. What the body keeps, the document keeps. -/
theorem keeps_iff (issue : Issue) {before behind : List Text}
    (written : lines (textOrEmpty issue.description) =
      before ++ (lines (terminated issue.relatedLines) ++ behind))
    (plain : ∀ line ∈ before, isRelatedHeading line = false)
    (opens : ∃ line ∈ behind.head?, IsHeading line ∧ isRelatedHeading line = false) :
    Keeps issue.bodyText issue.title before ∧
      (Keeps issue.bodyText issue.title (before ++ behind) ↔
        issue.relatedLines = [] ∧ (∀ line ∈ behind, isRelatedHeading line = false) ∨
          remarks issue.title (before ++ behind) = []) ∧
      ∃ metadata body, Document.split issue.toDocument = .ok (metadata, body) ∧
        ∀ parts, Keeps issue.bodyText issue.title parts → Keeps body issue.title parts := by
  have heading : ∃ line ∈ behind.head?, IsHeading line := by
    obtain ⟨line, first, heading, -⟩ := opens
    exact ⟨line, first, heading⟩
  have document : ∃ metadata body, Document.split issue.toDocument = .ok (metadata, body) ∧
      ∀ parts, Keeps issue.bodyText issue.title parts → Keeps body issue.title parts := by
    obtain ⟨metadata, body, more, split, whole⟩ := exists_split_toDocument issue
    refine ⟨metadata, body, split, fun parts kept => ?_⟩
    rw [Keeps, whole]
    exact (kept.trans (solidLines_bodyText_sublist issue)).trans (List.sublist_append_right _ _)
  rcases relatedLines_cases issue with none | ⟨rest, shape⟩
  · rw [none, terminated_nil, lines_nil, List.nil_append] at written
    obtain ⟨front, both⟩ := keeps_of_unrelated written plain
    refine ⟨front, both.trans ⟨fun plainBehind => .inl ⟨none, plainBehind⟩, ?_⟩, document⟩
    rintro (⟨-, plainBehind⟩ | empty)
    · exact plainBehind
    · exact both.mp (by rw [Keeps, empty]; exact List.nil_sublist _)
  · rw [shape, terminated_cons, lines_single_append (by decide), List.cons_append] at written
    have shown := solidLines_bodyText_of_related written plain (by decide)
    refine ⟨by rw [Keeps, shown], ?_, document⟩
    rw [Keeps, shown, remarks_append_sublist_iff heading, shape]
    simp

/-- An open task with a title of one letter. -/
def noted (blocks : Option (List Text)) (description : Text) : Issue where
  id := "a"
  title := "T"
  description := some description
  status := .opened
  kind := .task
  priority := .standard
  labels := none
  assignee := none
  createdAt := none
  updatedAt := none
  closedAt := none
  dependsOn := none
  blocks := blocks
  children := none
  parent := none
  source := none

/-- Notes below a heading of their own are kept where the issue has no relations. -/
theorem notes_kept :
    let issue := noted none "# T\n\nA\n\n## Notes\n  B"
    let before : List Text := ["# T", "", "A", ""]
    let behind : List Text := ["## Notes", "  B"]
    (lines (textOrEmpty issue.description) =
        before ++ (lines (terminated issue.relatedLines) ++ behind) ∧
      (∀ line ∈ before, isRelatedHeading line = false) ∧
      ∃ line ∈ behind.head?, IsHeading line ∧ isRelatedHeading line = false) ∧
    Keeps issue.bodyText issue.title (before ++ behind) ∧
    ∃ metadata body, Document.split issue.toDocument = .ok (metadata, body) ∧
      Keeps body issue.title (before ++ behind) := by
  intro issue before behind
  have written : lines (textOrEmpty issue.description) =
      before ++ (lines (terminated issue.relatedLines) ++ behind) := by decide
  have plain : ∀ line ∈ before, isRelatedHeading line = false := by decide
  have opens : ∃ line ∈ behind.head?, IsHeading line ∧ isRelatedHeading line = false :=
    ⟨_, rfl, by decide⟩
  obtain ⟨-, both, metadata, body, split, carries⟩ := keeps_iff issue written plain opens
  have kept := both.mpr (.inl (by decide))
  exact ⟨⟨written, plain, opens⟩, kept, metadata, body, split, carries _ kept⟩

/-- Notes behind the section of related issues are lost, from the body and from the document. -/
theorem notesBehindSection_lost :
    let issue := noted (some ["x"])
      "A\n\n### Related Issues\n\n**Blocks:**\n- [x](./x.md)\n\n## Notes\nB"
    let before : List Text := ["A", ""]
    let behind : List Text := ["## Notes", "B"]
    (lines (textOrEmpty issue.description) =
        before ++ (lines (terminated issue.relatedLines) ++ behind) ∧
      (∀ line ∈ before, isRelatedHeading line = false) ∧
      ∃ line ∈ behind.head?, IsHeading line ∧ isRelatedHeading line = false) ∧
    issue.bodyText = "A" ∧ ¬ Keeps issue.bodyText issue.title (before ++ behind) ∧
    ∃ metadata body, Document.split issue.toDocument = .ok (metadata, body) ∧
      ¬ Keeps body issue.title (before ++ behind) := by
  intro issue before behind
  refine ⟨⟨by decide, by decide, _, rfl, by decide⟩, by decide, by decide, _, _,
    Document.split_toDocument (by decide), ?_⟩
  decide

end Issue

end Issuebook
