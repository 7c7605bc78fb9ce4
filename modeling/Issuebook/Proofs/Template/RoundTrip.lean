import Issuebook.Proofs.Issue.Validity
import Issuebook.Proofs.Template.Captures
import Issuebook.Proofs.Template.Data
import Issuebook.Proofs.Template.Segments
import Mathlib.Data.List.Pairwise

/-!
# Rendered templates are read back

In an anchored template every literal behind a slot begins a line of its own. Rendered with
trimmed texts of a single line, such a template is read back whole: `recovers_rendered` shows
that the leaves of the extracted data are exactly the texts of the slots, whatever these texts
hold, pieces of the literals included.
-/

/-! ## Extracted data -/

namespace Issuebook.Extraction

/-- Two paths of which neither leads into the other. -/
def AreIndependent (path other : Text) : Prop :=
  ¬ Text.splitOn '.' path <+: Text.splitOn '.' other ∧
    ¬ Text.splitOn '.' other <+: Text.splitOn '.' path

/-- The captures of slots that all found a text. -/
def foundCaptures (found : List (Text × Text)) : List Capture :=
  found.map fun entry => ⟨entry.1, some entry.2⟩

/-- Where paths are independent, none leads below another. -/
theorem noneLeadsInto_of_pairwise {paths : List Text}
    (independent : paths.Pairwise AreIndependent) :
    Value.NoneLeadsInto paths paths := by
  rintro path listed other listedOther ⟨deeper, rfl⟩
  have : Std.Symm AreIndependent := ⟨fun _ _ apart => apart.symm⟩
  have longer : path ≠ path ++ ['.'] ++ deeper := fun same => by
    simpa using congrArg List.length same
  refine (independent.forall listed listedOther longer).1 ⟨Text.splitOn '.' deeper, ?_⟩
  rw [List.append_assoc, List.singleton_append, Text.splitOn_append_mark]

/-- What is found at a path is the text that was captured for it. -/
theorem foundAt_foundCaptures (path : Text) (found : List (Text × Text)) :
    foundAt path (foundCaptures found) = Entries.get? path found := by
  induction found with
  | nil => rfl
  | cons entry found inductionHypothesis =>
      obtain ⟨own, text⟩ := entry
      rw [Entries.get?_cons, ← inductionHypothesis, foundCaptures, List.map_cons, foundAt,
        List.findSome?_cons]
      dsimp only
      split_ifs <;> rfl

/-- Captures that found texts under independent paths have these texts as the leaves of their
data. -/
theorem flat_ofCaptures (found : List (Text × Text))
    (named : ∀ entry ∈ found, IsNamed entry.1)
    (independent : found.Pairwise fun one other => AreIndependent one.1 other.1) :
    ((Value.record (ofCaptures (foundCaptures found)).data).flat).Perm
      (found.map fun entry => (entry.1, .text entry.2)) := by
  have paths : (foundCaptures found).map Capture.path = found.map Prod.fst := by
    rw [foundCaptures, List.map_map]
    rfl
  have distinct : (found.map Prod.fst).Nodup :=
    List.pairwise_map.mpr (independent.imp fun apart same =>
      apart.1 ⟨[], (List.append_nil _).trans (congrArg (Text.splitOn '.') same)⟩)
  refine Entries.perm_of_get? (Value.nodup_keys_flat _) ?_ fun path => ?_
  · rw [Entries.keys, List.map_map]
    exact distinct
  · rw [get?_flat_data, foundAt_foundCaptures, Entries.get?_map Value.text]
    · rw [paths]
      exact List.forall_mem_map.mpr named
    · rw [paths]
      exact noneLeadsInto_of_pairwise (List.pairwise_map.mpr independent)

end Issuebook.Extraction

namespace Issuebook

namespace Segment

variable {segments : List Segment} {texts : Text → Text}

/-- A literal that begins a line and has more than white space. -/
def BeginsLine (literal : Text) : Prop :=
  ¬ Text.isAllBlank literal ∧ '\n' ∈ literal.takeWhile Text.isBlank

instance (literal : Text) : Decidable (BeginsLine literal) :=
  inferInstanceAs (Decidable (_ ∧ _))

/-- Segments of which no two slots are neighbours, and in which every literal behind a slot
begins a line, or is blank and the last. -/
def BeginLines : List Segment → Prop
  | [] => True
  | .literal _ :: segments => BeginLines segments
  | [.slot _] => True
  | .slot _ :: .slot _ :: _ => False
  | .slot _ :: .literal text :: segments =>
    (BeginsLine text ∨ Text.isAllBlank text ∧ segments = []) ∧ BeginLines segments

instance decidableBeginLines : (segments : List Segment) → Decidable (BeginLines segments)
  | [] => inferInstanceAs (Decidable True)
  | .literal _ :: segments => decidableBeginLines segments
  | [.slot _] => inferInstanceAs (Decidable True)
  | .slot _ :: .slot _ :: _ => inferInstanceAs (Decidable False)
  | .slot _ :: .literal text :: segments =>
    have := decidableBeginLines segments
    inferInstanceAs (Decidable ((BeginsLine text ∨ Text.isAllBlank text ∧ segments = []) ∧ _))

/-- The segments of a template that is read back whole, whatever clean lines fill its slots. -/
structure AreAnchored (segments : List Segment) : Prop where
  /-- Literals behind slots begin lines, and slots stand apart. -/
  lines : BeginLines segments
  /-- White space in literals is spaces, tabs and line feeds. -/
  plain : ∀ literal, .literal literal ∈ segments → Anchor.IsPlain literal
  /-- The paths are distinct, and none leads into another. -/
  independent : (paths segments).Pairwise Extraction.AreIndependent

/-- A trimmed text of a single line that is not empty. -/
def IsCleanLine (text : Text) : Prop :=
  Text.IsClean text ∧ '\n' ∉ text

/-- A clean line is read in front of a literal that begins a line. -/
theorem isReadable_of_beginsLine {literal value : Text} (begins : BeginsLine literal)
    (plain : Anchor.IsPlain literal) (clean : IsCleanLine value) (before : Text) :
    Slot.IsReadable before value literal where
  plain := plain
  apart := Anchor.staysApart_of_single begins.2 clean.2
  whole := Slot.whole_of_solid clean.1.solid before literal

end Segment

namespace Extraction

open Segment

variable {segments : List Segment} {texts : Text → Text}

/-- A clean value is captured as it is. -/
theorem textAt_of_isClean {value : Text} (clean : Text.IsClean value) :
    textAt true value = some value := by
  simp [textAt, clean.1, clean.2]

/-- What the slots of an anchored template capture behind the literal `before`. -/
theorem captures_fill (before : Text) (lines : BeginLines segments)
    (normal : IsNormal (.literal before :: segments))
    (plain : ∀ literal, .literal literal ∈ segments → Anchor.IsPlain literal)
    (clean : ∀ path ∈ paths segments, IsCleanLine (texts path)) :
    captures true (Anchor.behind before (fill texts segments)) (dropBlankEnd segments) =
      (paths segments).map fun path => ⟨path, some (texts path)⟩ := by
  fun_induction BeginLines segments generalizing before with
  | case1 => rfl
  | case2 text segments =>
      rcases (List.isChain_cons_cons.mp normal).1 with slot | slot <;> cases slot
  | case3 path =>
      have last := Slot.captures_last before path (texts path) (rfl : Text.isAllBlank [] = true)
      rw [textAt_of_isClean (clean path (by simp)).1] at last
      simpa [dropBlankEnd] using last
  | case4 path next segments => exact lines.elim
  | case5 path text segments inductionHypothesis =>
      obtain ⟨opens, lines⟩ := lines
      have cleanHere := clean path (by simp)
      by_cases last : segments = [] ∧ Text.isAllBlank text
      · obtain ⟨rfl, blank⟩ := last
        rw [dropBlankEnd_cons _ (List.cons_ne_nil _ _), dropBlankEnd_single blank, fill_cons_slot,
          fill_cons_literal, fill_nil, List.append_nil,
          Slot.captures_last before path (texts path) blank, textAt_of_isClean cleanHere.1]
        rfl
      · have begins : BeginsLine text := opens.resolve_right fun blank => last blank.symm
        have rest := inductionHypothesis text lines (List.isChain_cons_cons.mp
          (List.isChain_cons_cons.mp normal).2).2
            (fun other present => plain other (by simp [present]))
          fun other present => clean other (by simp [present])
        have readable := isReadable_of_beginsLine begins (plain text (by simp)) cleanHere before
        rw [dropBlankEnd_slot path last, fill_cons_slot, fill_cons_literal]
        refine (Slot.captures_slot ⟨path, text⟩ readable _ _).trans ?_
        rw [rest, textAt_of_isClean cleanHere.1]
        rfl

/-- What the slots of an anchored template capture of the template filled with clean lines. -/
theorem captures_anchored (anchored : AreAnchored segments) (normal : IsNormal segments)
    (clean : ∀ path ∈ paths segments, IsCleanLine (texts path)) :
    captures true (fill texts segments) (dropBlankEnd segments) =
      (paths segments).map fun path => ⟨path, some (texts path)⟩ := by
  obtain ⟨lines, plain, -⟩ := anchored
  cases segments with
  | nil => rfl
  | cons first segments =>
      cases first with
      | slot path =>
          exact captures_fill [] lines (.cons_cons (.inr rfl) normal) plain clean
      | literal text =>
          have rest : captures true (Anchor.behind text (fill texts segments))
              (dropBlankEnd segments) = _ :=
            captures_fill text lines normal (fun other present => plain other (by simp [present]))
              clean
          have plainHere := plain text (by simp)
          by_cases present : segments = []
          · subst present
            by_cases blank : Text.isAllBlank text
            · rw [dropBlankEnd_single blank]
              rfl
            · rw [dropBlankEnd_single_of_solid blank, fill_cons_literal,
                Slot.captures_first plainHere]
              exact rest
          · rw [dropBlankEnd_cons _ present, fill_cons_literal, Slot.captures_first plainHere]
            exact rest

/-- Every such capture has a text. -/
theorem isSome_of_mem_foundCaptures {found : List (Text × Text)} {capture : Capture}
    (listed : capture ∈ foundCaptures found) : capture.found.isSome := by
  obtain ⟨entry, -, rfl⟩ := List.mem_map.mp listed
  rfl

/-- They are as many as the texts. -/
theorem countP_foundCaptures (found : List (Text × Text)) :
    (foundCaptures found).countP (fun capture => capture.found.isSome) = found.length := by
  rw [List.countP_eq_length.mpr fun _ => isSome_of_mem_foundCaptures, foundCaptures,
    List.length_map]

/-- None is missing. -/
theorem missing_foundCaptures (found : List (Text × Text)) :
    (foundCaptures found).filter (fun capture => capture.found.isNone) = [] :=
  List.filter_eq_nil_iff.mpr fun capture listed => by
    simpa using Option.isSome_iff_ne_none.mp (isSome_of_mem_foundCaptures listed)

/-- When every slot found a text, nothing is unmatched and the confidence is one. -/
theorem ofCaptures_found (found : List (Text × Text)) :
    (ofCaptures (foundCaptures found)).confidence = Binary64.one ∧
      (ofCaptures (foundCaptures found)).unmatched = [] := by
  have unmatched : (ofCaptures (foundCaptures found)).unmatched = [] :=
    congrArg (List.map Capture.path) (missing_foundCaptures found)
  refine ⟨?_, unmatched⟩
  by_cases empty : foundCaptures found = []
  · rw [empty]
    rfl
  · rw [confidence_eq_one empty, unmatched]
    exact Nat.zero_le _

end Extraction

namespace Template

open Segment Extraction

/-- An anchored template rendered with clean lines is read back whole: every slot is found, and
the leaves of the data are the texts of the slots. -/
theorem recovers_rendered {template : Text} {context : Value} {texts : Text → Text}
    (anchored : AreAnchored (ofTemplate (withoutDirectives template)))
    (shown : ∀ path ∈ paths (ofTemplate (withoutDirectives template)),
      (context.at? path).map Value.slotText = .ok (texts path))
    (clean : ∀ path ∈ paths (ofTemplate (withoutDirectives template)),
      IsCleanLine (texts path)) :
    ∃ document, render template context = .ok document ∧
      (ofDocument template document).confidence = Binary64.one ∧
      (ofDocument template document).unmatched = [] ∧
      ((Value.record (ofDocument template document).data).flat).Perm
        ((paths (ofTemplate (withoutDirectives template))).map fun path =>
          (path, .text (texts path))) := by
  refine ⟨_, render_eq_fill shown, ?_⟩
  have captured := captures_anchored anchored (isNormal_ofTemplate _) clean
  have extraction : ofDocument template (fill texts (ofTemplate (withoutDirectives template))) =
      ofCaptures (foundCaptures ((paths (ofTemplate (withoutDirectives template))).map fun path =>
        (path, texts path))) := by
    rw [ofDocument, captured, foundCaptures, List.map_map]
    rfl
  rw [extraction]
  refine ⟨(ofCaptures_found _).1, (ofCaptures_found _).2, ?_⟩
  have named : ∀ path ∈ paths (ofTemplate (withoutDirectives template)), IsNamed path :=
    fun path present => isNamed_of_isPath (isPath_of_mem_ofTemplate (mem_paths.mp present))
  have leaves := flat_ofCaptures
    ((paths (ofTemplate (withoutDirectives template))).map fun path => (path, texts path))
    (by simpa using named) (List.pairwise_map.mpr anchored.independent)
  rwa [List.map_map] at leaves

/-- A page with a directive, nested names and a blank end. -/
def notePage : Text :=
  "---\n$pattern: \"[id].md\"\n---\n# {note.title}\n\nBy: {note.author.name}\n\n## Rest\n\n{rest}\n"

/-- A note whose texts hold pieces of the page. -/
def note : Value :=
  .record
    [("note", .record [("title", .text "A\tBy: ## Rest"),
        ("author", .record [("name", .text "# ## By:")])]),
      ("rest", .list [.text "By:", .int 2])]

/-- The texts of the note under their paths. -/
def noteTexts (path : Text) : Text :=
  ((note.at? path).toOption.map Value.slotText).getD []

/-- A note is recovered with values that look like literals. -/
theorem notePage_recovers :
    ∃ document, render notePage note = .ok document ∧
      (ofDocument notePage document).confidence = Binary64.one ∧
      (ofDocument notePage document).unmatched = [] ∧
      ((Value.record (ofDocument notePage document).data).flat).Perm
        [("note.title", .text "A\tBy: ## Rest"), ("note.author.name", .text "# ## By:"),
          ("rest", .text "By:, 2")] := by
  have segments : ofTemplate (withoutDirectives notePage) =
      [.literal "# ", .slot "note.title", .literal "\n\nBy: ", .slot "note.author.name",
        .literal "\n\n## Rest\n\n", .slot "rest", .literal "\n"] := by
    decide +kernel
  have slots : paths (ofTemplate (withoutDirectives notePage)) =
      (["note.title", "note.author.name", "rest"] : List Text) := by
    rw [segments]
    rfl
  have anchored : AreAnchored (ofTemplate (withoutDirectives notePage)) := by
    refine ⟨?_, fun literal present => ?_, ?_⟩
    · rw [segments]
      decide +kernel
    · rw [segments] at present
      simp only [List.mem_cons, Segment.literal.injEq, reduceCtorEq, List.not_mem_nil, or_false,
        false_or] at present
      rcases present with rfl | rfl | rfl | rfl <;> decide +kernel
    · rw [slots]
      unfold AreIndependent
      decide +kernel
  have shown : ∀ path ∈ paths (ofTemplate (withoutDirectives notePage)),
      (note.at? path).map Value.slotText = .ok (noteTexts path) := by
    rw [slots]
    decide +kernel
  have clean : ∀ path ∈ paths (ofTemplate (withoutDirectives notePage)),
      IsCleanLine (noteTexts path) := by
    rw [slots]
    unfold IsCleanLine
    decide +kernel
  have title : noteTexts "note.title" = "A\tBy: ## Rest" := by decide +kernel
  have author : noteTexts "note.author.name" = "# ## By:" := by decide +kernel
  have rest : noteTexts "rest" = "By:, 2" := by decide +kernel
  have recovered := recovers_rendered anchored shown clean
  rw [slots] at recovered
  simpa only [List.map_cons, List.map_nil, title, author, rest] using recovered

end Template

end Issuebook
