import Issuebook.Proofs.Template.Matching
import Issuebook.Proofs.Template.Rebuilding
import Issuebook.Proofs.Text.Characters

/-!
# Pieces of a document

What an extraction says about any document. The texts that the slots found are pieces of the
document that stand one behind the other (`inOrder_captures`), and every slot of the template is
accounted for: `extraction_accounts`. The literals between the slots are found where the white space
in them lets their anchors match (`finds_literals`).
-/

namespace Issuebook

/-! ## Order in the document -/

/-- Texts that stand one behind the other in a text, with anything around them. -/
inductive Text.InOrder : List Text → Text → Prop
  | nil (text : Text) : InOrder [] text
  | cons (gap piece : Text) {pieces : List Text} {rest : Text} (later : InOrder pieces rest) :
    InOrder (piece :: pieces) (gap ++ (piece ++ rest))

namespace Text.InOrder

variable {piece text : Text} {pieces : List Text}

/-- Pieces of a text stand in order behind any front. -/
theorem behind (inOrder : InOrder pieces text) (front : Text) : InOrder pieces (front ++ text) := by
  cases inOrder with
  | nil => exact .nil _
  | cons gap piece later =>
      rw [← List.append_assoc]
      exact .cons (front ++ gap) piece later

/-- Each of them is a part of the text. -/
theorem isInfix (inOrder : InOrder pieces text) (listed : piece ∈ pieces) : piece <:+: text := by
  induction inOrder with
  | nil => cases listed
  | cons gap first later inductionHypothesis =>
      rcases List.mem_cons.mp listed with rfl | listed
      · exact ⟨gap, _, List.append_assoc _ _ _⟩
      · refine (inductionHypothesis listed).trans ?_
        exact (List.suffix_append first _).isInfix.trans (List.suffix_append gap _).isInfix

end Text.InOrder

namespace Extraction

open Text (InOrder)

/-- The text found in a place stands in front of all that is found behind the place. -/
theorem inOrder_textAt {pieces : List Text} {rest : Text} (later : InOrder pieces rest)
    (known : Bool) (place : Text) :
    InOrder ((textAt known place).toList ++ pieces) (place ++ rest) := by
  cases found : textAt known place with
  | none => exact later.behind place
  | some text =>
      obtain ⟨-, rfl, -⟩ := textAt_eq_some found
      obtain ⟨before, after, whole, -⟩ := Text.trim_parts place
      have split : place ++ rest = before ++ (Text.trim place ++ (after ++ rest)) := by
        conv_lhs => rw [whole]
        simp only [List.append_assoc]
      rw [split]
      exact .cons before (Text.trim place) (later.behind after)

/-- What the slots find stands in the document in their order. -/
theorem inOrder_captures (known : Bool) (rest : Text) (segments : List Segment) :
    InOrder ((captures known rest segments).filterMap Capture.found) rest := by
  fun_induction captures known rest segments with
  | case1 => exact .nil _
  | case2 known rest path =>
      have alone := inOrder_textAt (.nil []) known rest
      rw [List.append_nil, List.append_nil] at alone
      cases found : textAt known rest <;> simpa [found] using alone
  | case3 known rest path next segments inductionHypothesis => simpa using inductionHypothesis
  | case4 known rest path literal segments before after place inductionHypothesis =>
      obtain ⟨taken, rfl, -⟩ := Anchor.exists_of_cutAt? place
      have here := inOrder_textAt (inductionHypothesis.behind taken) known before
      cases found : textAt known before <;> simpa [found] using here
  | case5 known rest path literal segments missed inductionHypothesis =>
      simpa using inductionHypothesis
  | case6 known rest literal segments before after place inductionHypothesis =>
      obtain ⟨taken, rfl, -⟩ := Anchor.exists_of_cutAt? place
      rw [← List.append_assoc]
      exact inductionHypothesis.behind _
  | case7 known rest literal segments missed inductionHypothesis => exact inductionHypothesis

end Extraction

namespace Template

open Extraction

/-- The paths of the slots of a template, in order. -/
def slotsOf (template : Text) : List Text :=
  Segment.paths (Segment.ofTemplate (withoutDirectives template))

/-- The number of the slots that found a text in a document. -/
def matched (template document : Text) : Nat :=
  (capturesOf template document).countP fun capture => capture.found.isSome

/-- What an extraction says about the slots of its template. -/
structure AccountsFor (template document : Text) (extraction : Extraction) : Prop where
  /-- Every slot has one capture, in order. -/
  each : (capturesOf template document).map Capture.path = slotsOf template
  /-- Every slot is matched or not. -/
  total : matched template document + extraction.unmatched.length = (slotsOf template).length
  /-- The slots without a text are told in order. -/
  ordered : extraction.unmatched.Sublist (slotsOf template)
  /-- The confidence is the share of the matched slots, as a floating-point number. -/
  share : extraction.confidence =
    Binary64.ofRatio false (matched template document) (slotsOf template).length
  /-- The share is whole exactly when no slot is unmatched. -/
  whole : matched template document = (slotsOf template).length ↔ extraction.unmatched = []
  /-- The confidence is one where the share is whole, or so near that it is rounded to one. -/
  one : extraction.confidence = Binary64.one ↔
    2 ^ 54 * extraction.unmatched.length ≤ (slotsOf template).length
  /-- So it is one exactly when no slot is unmatched, unless there are `2 ^ 54` slots. -/
  sure : (slotsOf template).length < 2 ^ 54 →
    (extraction.confidence = Binary64.one ↔ extraction.unmatched = [])
  /-- What a slot found is trimmed and not empty, and it is a piece of the document. -/
  pieces : ∀ capture ∈ capturesOf template document, ∀ text, capture.found = some text →
    Text.IsClean text ∧ text <:+: document
  /-- What the slots found stands in the document in their order. -/
  inOrder : Text.InOrder ((capturesOf template document).filterMap Capture.found) document
  /-- The data are nested along the names of the paths. -/
  nested : (Value.record extraction.data).IsNested Value.IsName
  /-- Where no path leads into another, the leaves of the data are the texts found first. -/
  data : Value.NoneLeadsInto (slotsOf template) (slotsOf template) → ∀ path,
    (Value.record extraction.data).flat.get? path =
      (foundAt path (capturesOf template document)).map .text

/-- The extraction of any document accounts for all slots of a template that has some. -/
theorem extraction_accounts {template : Text} (present : slotsOf template ≠ [])
    (document : Text) : AccountsFor template document (ofDocument template document) := by
  have each : (capturesOf template document).map Capture.path = slotsOf template :=
    map_path_capturesOf template document
  have named : ∀ path ∈ (capturesOf template document).map Capture.path, IsNamed path := by
    rw [each]
    exact fun path listed =>
      isNamed_of_isPath (Segment.isPath_of_mem_ofTemplate (Segment.mem_paths.mp listed))
  have length : (capturesOf template document).length = (slotsOf template).length := by
    rw [← each, List.length_map]
  have some : capturesOf template document ≠ [] := fun empty => present (by rw [← each, empty]; rfl)
  have total : matched template document + (ofDocument template document).unmatched.length =
      (slotsOf template).length :=
    (matched_add_unmatched (capturesOf template document)).trans length
  -- The share rounds to one also where very few of very many slots are missing.
  have one : (ofDocument template document).confidence = Binary64.one ↔
      2 ^ 54 * (ofDocument template document).unmatched.length ≤ (slotsOf template).length := by
    rw [← length]
    exact confidence_eq_one some
  exact {
    each, total, one
    ordered := by
      rw [← each]
      exact unmatched_sublist (capturesOf template document)
    share := by
      rw [← length]
      exact confidence_ofCaptures some
    whole := by
      rw [← List.length_eq_zero_iff]
      omega
    sure := by
      intro few
      rw [one, ← List.length_eq_zero_iff]
      omega
    pieces := by
      intro capture listed text found
      refine ⟨isClean_of_mem_captures listed found, ?_⟩
      exact (inOrder_captures true document _).isInfix
        (List.mem_filterMap.mpr ⟨capture, listed, found⟩)
    inOrder := inOrder_captures true document _
    nested := isNested_data named
    data := by
      intro independent path
      exact get?_flat_data named (each.symm ▸ independent) path }

/-- A card with two slots side by side, and a title that is shown twice. -/
def cardPage : Text :=
  "# {card.title}\n{left}{right} by {card.maker}\n\nMissing: {gone}\n\nAgain: {card.title}\n"

/-- A card whose third part is gone. -/
def cardDraft : Text :=
  "# One two\nL R by Ann\n\nAgain: Three\n"

/-- A draft of a card, of which some slots are missed. -/
theorem cardDraft_accounted :
    AccountsFor cardPage cardDraft (ofDocument cardPage cardDraft) ∧
      (ofDocument cardPage cardDraft).unmatched = (["left", "card.maker", "gone"] : List Text) ∧
      (Value.record (ofDocument cardPage cardDraft).data).flat.get? "card.title" =
        some (.text "One two") := by
  have present : slotsOf cardPage ≠ [] := by decide +kernel
  have accounts := extraction_accounts present cardDraft
  have first : foundAt "card.title" (capturesOf cardPage cardDraft) =
      some ("One two" : Text) := by
    decide +kernel
  refine ⟨accounts, by decide +kernel, ?_⟩
  rw [accounts.data (by decide +kernel), first]
  rfl

end Template

/-! ## Literals in the document -/

namespace Extraction

open Anchor Segment

variable {texts : Text → Text} {segments front back : List Segment} {first : Segment}
  {literal : Text}

/-- How an extraction stands in a document. -/
structure Cursor where
  /-- Whether the last literal was found. -/
  known : Bool
  /-- The document behind the last literal that was found. -/
  rest : Text

/-- The cursor behind a segment. -/
def Cursor.pass (cursor : Cursor) : Segment → Cursor
  | .slot _ => cursor
  | .literal literal =>
    match cutAt? (ofLiteral literal) cursor.rest with
    | some (_, after) => ⟨true, after⟩
    | none => ⟨false, cursor.rest⟩

/-- The cursor of an extraction behind segments that it has read. -/
def cursorBehind (document : Text) (segments : List Segment) : Cursor :=
  segments.foldl Cursor.pass ⟨true, document⟩

/-- Behind a literal an extraction goes on from its cursor. -/
theorem captures_passed (known : Bool) (rest : Text) (front : List Segment) (literal : Text)
    (back : List Segment) :
    captures known rest (front ++ .literal literal :: back) =
      captures known rest (front ++ [.literal literal]) ++
        captures (List.foldl Cursor.pass ⟨known, rest⟩ (front ++ [.literal literal])).known
          (List.foldl Cursor.pass ⟨known, rest⟩ (front ++ [.literal literal])).rest back := by
  fun_induction captures known rest front with
  | case1 known rest =>
      simp only [List.nil_append, captures, List.foldl_cons, List.foldl_nil, Cursor.pass]
      cases cutAt? (ofLiteral literal) rest <;> rfl
  | case2 known rest path =>
      simp only [List.cons_append, List.nil_append, captures, List.foldl_cons, List.foldl_nil,
        Cursor.pass]
      cases cutAt? (ofLiteral literal) rest <;> rfl
  | case3 known rest path next segments inductionHypothesis =>
      simpa [captures, Cursor.pass] using inductionHypothesis
  | case4 known rest path own segments before after place inductionHypothesis =>
      simpa [captures, Cursor.pass, place] using inductionHypothesis
  | case5 known rest path own segments missed inductionHypothesis =>
      simpa [captures, Cursor.pass, missed] using inductionHypothesis
  | case6 known rest own segments before after place inductionHypothesis =>
      simpa [captures, Cursor.pass, place] using inductionHypothesis
  | case7 known rest own segments missed inductionHypothesis =>
      simpa [captures, Cursor.pass, missed] using inductionHypothesis

/-- An extraction that has missed no literal, and has all from the next literal on before it. -/
structure Cursor.IsOnTrack (texts : Text → Text) (segments : List Segment) (cursor : Cursor) :
    Prop where
  /-- The last literal was found. -/
  known : cursor.known = true
  /-- The text of the segments from the next literal on is not passed. -/
  ahead : fill texts (segments.dropWhile isSlot) <:+ cursor.rest

/-- Without its first segments, a template is filled to the end of the document. -/
theorem fill_dropWhile_suffix (texts : Text → Text) (drop : Segment → Bool)
    (segments : List Segment) : fill texts (segments.dropWhile drop) <:+ fill texts segments := by
  conv_rhs => rw [← List.takeWhile_append_dropWhile (p := drop) (l := segments), fill_append]
  exact List.suffix_append _ _

/-- Passing a literal in front of a slot that shows something, an extraction stays on its track. -/
theorem Cursor.IsOnTrack.pass {cursor : Cursor}
    (track : cursor.IsOnTrack texts (first :: segments)) (normal : IsNormal (first :: segments))
    (solid : ∀ path ∈ paths segments, ¬ Text.isAllBlank (texts path))
    (inside : ∀ literal, first = .literal literal → literal ≠ [] ∧ IsTameInside literal) :
    (cursor.pass first).IsOnTrack texts segments := by
  obtain ⟨known, ahead⟩ := track
  cases first with
  | slot path => exact ⟨known, ahead⟩
  | literal literal =>
      obtain ⟨present, inside⟩ := inside literal rfl
      rw [List.dropWhile_cons_of_neg (by simp [isSlot]), fill_cons_literal] at ahead
      obtain ⟨front, whole⟩ := ahead
      rw [Cursor.pass, ← whole]
      cases segments with
      | nil =>
          have found := (isSome_cutAt?_own_iff present).mpr inside front []
          obtain ⟨⟨before, after⟩, found⟩ := Option.isSome_iff_exists.mp found
          rw [fill_nil, found]
          exact ⟨rfl, List.nil_suffix⟩
      | cons next segments =>
          cases next with
          | literal next => exact absurd (List.isChain_cons_cons.mp normal).1 (by simp [isSlot])
          | slot path =>
              obtain ⟨before, after, found, kept⟩ :=
                inside.exists_cutAt? present (solid path (by simp)) front (fill texts segments)
              rw [fill_cons_slot, found]
              exact ⟨rfl, (fill_dropWhile_suffix texts isSlot segments).trans kept⟩

/-- A cursor that is on track stays so along the segments of the template. -/
theorem Cursor.IsOnTrack.foldl {cursor : Cursor}
    (track : cursor.IsOnTrack texts (front ++ back)) (normal : IsNormal (front ++ back))
    (solid : ∀ path ∈ paths (front ++ back), ¬ Text.isAllBlank (texts path))
    (inside : ∀ literal, .literal literal ∈ front → literal ≠ [] ∧ IsTameInside literal) :
    (front.foldl Cursor.pass cursor).IsOnTrack texts back := by
  induction front generalizing cursor with
  | nil => exact track
  | cons first front inductionHypothesis =>
      have later : ∀ path ∈ paths (front ++ back), ¬ Text.isAllBlank (texts path) :=
        fun path listed => solid path (by cases first <;> simp [listed])
      refine inductionHypothesis (track.pass normal later fun literal same => ?_) normal.tail later
        fun literal listed => inside literal (List.mem_cons_of_mem _ listed)
      exact inside literal (same ▸ List.mem_cons_self)

/-- The segments without a blank end are the first ones. -/
theorem prefix_dropBlankEnd (segments : List Segment) : dropBlankEnd segments <+: segments := by
  unfold dropBlankEnd
  split
  · split_ifs
    · exact List.dropLast_prefix segments
    · exact List.prefix_rfl
  · exact List.prefix_rfl

end Extraction

namespace Template

open Extraction Anchor

/-- The segments of a template that an extraction looks for in a document. -/
def searched (template : Text) : List Segment :=
  dropBlankEnd (Segment.ofTemplate (withoutDirectives template))

/-- How the literals of a template are found in documents. -/
structure FindsLiterals (template : Text) : Prop where
  /-- The anchor of a literal matches the literal as a whole exactly when all white space in it is
  tame. -/
  whole : ∀ literal, .literal literal ∈ Segment.ofTemplate template →
    (Matches (ofLiteral literal) literal ↔ IsTame literal)
  /-- Then it is found in every document that holds the literal, there or before. -/
  placed : ∀ literal, .literal literal ∈ Segment.ofTemplate template → IsTame literal →
    ∀ front rest, ∃ before after,
      cutAt? (ofLiteral literal) (front ++ (literal ++ rest)) = some (before, after) ∧
        before <+: front
  /-- It is found in every document that holds the literal exactly when the literal is tame but for
  its ends. -/
  found : ∀ literal, .literal literal ∈ Segment.ofTemplate template →
    ((∀ front rest, (cutAt? (ofLiteral literal) (front ++ (literal ++ rest))).isSome) ↔
      IsTameInside literal)
  /-- Behind each literal an extraction goes on from its cursor. -/
  read : ∀ document front literal back, searched template = front ++ .literal literal :: back →
    capturesOf template document = captures true document (front ++ [.literal literal]) ++
      captures (cursorBehind document (front ++ [.literal literal])).known
        (cursorBehind document (front ++ [.literal literal])).rest back
  /-- In a document as it was rendered, with something in every slot, an extraction misses none of
  such literals. -/
  rendered : (∀ literal, .literal literal ∈ searched template → IsTameInside literal) →
    ∀ (context : Value) (texts : Text → Text),
      (∀ path ∈ slotsOf template, (context.at? path).map Value.slotText = .ok (texts path)) →
      (∀ path ∈ slotsOf template, ¬ Text.isAllBlank (texts path)) →
      ∃ document, render template context = .ok document ∧
        ∀ front literal back, searched template = front ++ .literal literal :: back →
          (cursorBehind document (front ++ [.literal literal])).known

/-- The white space of the literals of any template decides whether they are found. -/
theorem finds_literals (template : Text) : FindsLiterals template where
  whole := fun literal listed => matches_own_iff (Segment.literal_ne_nil template literal listed)
  placed := by
    intro literal listed tame front rest
    have present := Segment.literal_ne_nil template literal listed
    have held := (matches_own_iff present).mpr tame
    exact held.exists_cutAt? (isRegular_ofLiteral literal) front rest
  found := fun literal listed =>
    isSome_cutAt?_own_iff (Segment.literal_ne_nil template literal listed)
  read := by
    intro document front literal back split
    rw [capturesOf, ← searched, split]
    exact captures_passed true document front literal back
  rendered := by
    intro inside context texts shown solid
    refine ⟨_, render_eq_fill shown, fun front literal back split => ?_⟩
    obtain ⟨tail, whole⟩ := prefix_dropBlankEnd (Segment.ofTemplate (withoutDirectives template))
    have parts : Segment.ofTemplate (withoutDirectives template) =
        (front ++ [.literal literal]) ++ (back ++ tail) := by
      rw [← whole, ← searched, split]
      simp
    have normal := Segment.isNormal_ofTemplate (withoutDirectives template)
    have start : Cursor.IsOnTrack texts (Segment.ofTemplate (withoutDirectives template))
        ⟨true, Segment.fill texts (Segment.ofTemplate (withoutDirectives template))⟩ :=
      ⟨rfl, fill_dropWhile_suffix texts _ _⟩
    rw [slotsOf] at solid
    rw [parts] at start normal solid
    rw [cursorBehind, parts]
    refine (start.foldl normal solid fun own listed => ?_).known
    have looked : .literal own ∈ searched template := by
      rw [split, List.append_cons]
      exact List.mem_append_left _ listed
    refine ⟨Segment.literal_ne_nil (withoutDirectives template) own ?_, inside own looked⟩
    exact (prefix_dropBlankEnd _).subset looked

/-- A tag whose words are parted by a space that does not break. -/
def spacedTag : Text :=
  "Total\u00a0price: {price}\n"

/-- The anchor of the tag does not match the tag, and the price of an unedited tag is lost. -/
theorem spacedTag_missed :
    Segment.ofTemplate (withoutDirectives spacedTag) =
        [.literal "Total\u00a0price: ", .slot "price", .literal "\n"] ∧
      ¬ Matches (ofLiteral "Total\u00a0price: ") "Total\u00a0price: " ∧
      render spacedTag (.record [("price", .int 5)]) = .ok "Total\u00a0price: 5\n" ∧
      cutAt? (ofLiteral "Total\u00a0price: ") "Total\u00a0price: 5\n" = none ∧
      capturesOf spacedTag "Total\u00a0price: 5\n" = [⟨"price", none⟩] ∧
      (ofDocument spacedTag "Total\u00a0price: 5\n").unmatched = ["price"] := by
  have wild : ¬ IsTame "Total\u00a0price: " := by
    intro tame
    have unbroken := tame "Total" '\u00a0' "price: " (by decide) (by decide)
    revert unbroken
    unfold IsTameAt
    decide +kernel
  refine ⟨by decide +kernel, ?_, by decide +kernel, by decide +kernel, by decide +kernel,
    by decide +kernel⟩
  exact fun held => wild ((matches_own_iff (by decide)).mp held)

-- At the ends of a literal such a space does no harm.
example : capturesOf "\u00ab\u00a0{price}\u00a0\u00bb\n" "\u00ab\u00a05\u00a0\u00bb\n" =
    [⟨"price", some "5"⟩] := by
  decide +kernel

end Template

end Issuebook
