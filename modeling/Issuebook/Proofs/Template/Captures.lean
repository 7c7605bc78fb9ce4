import Issuebook.Proofs.Issue.Validity
import Issuebook.Proofs.Number.Range
import Issuebook.Proofs.Template.Anchors
import Issuebook.Proofs.Template.Segments
import Issuebook.Template.Extraction

/-!
# Captures of a filled template

A document that fills the slots of a template is read back slot by slot. A row of slots, each
with the literal behind it, is readable where every value stays apart from that literal and the
literal keeps the white space it needs; `captures_row` says that each slot of such a row then
captures its own text, whatever template follows, and `reading_concat` that such a row at the end
of a template is read back whole.
-/

namespace Issuebook

namespace Extraction

variable {segments : List Segment}

/-- Only the last segment is dropped. -/
theorem dropBlankEnd_cons (first : Segment) (present : segments ≠ []) :
    dropBlankEnd (first :: segments) = first :: dropBlankEnd segments := by
  unfold dropBlankEnd
  obtain ⟨second, rest, rfl⟩ := List.exists_cons_of_ne_nil present
  rw [List.getLast?_cons_cons]
  split
  · split_ifs <;> rfl
  · rfl

/-- It is dropped if it is a blank literal. -/
theorem dropBlankEnd_single {literal : Text} (blank : Text.isAllBlank literal) :
    dropBlankEnd [.literal literal] = [] := by
  simp [dropBlankEnd, blank]

/-- It stays if it is another literal. -/
theorem dropBlankEnd_single_of_solid {literal : Text} (solid : ¬ Text.isAllBlank literal) :
    dropBlankEnd [.literal literal] = [.literal literal] := by
  simp [dropBlankEnd, solid]

/-- It is dropped from the part at the end. -/
theorem dropBlankEnd_append (front : List Segment) (present : segments ≠ []) :
    dropBlankEnd (front ++ segments) = front ++ dropBlankEnd segments := by
  induction front with
  | nil => rfl
  | cons first front inductionHypothesis =>
      rw [List.cons_append, dropBlankEnd_cons _ (List.append_ne_nil_of_right_ne_nil _ present),
        inductionHypothesis, List.cons_append]

/-- A slot and its literal in front of others stay. -/
theorem dropBlankEnd_slot {literal : Text} (path : Text)
    (inner : ¬ (segments = [] ∧ Text.isAllBlank literal)) :
    dropBlankEnd (.slot path :: .literal literal :: segments) =
      .slot path :: .literal literal :: dropBlankEnd segments := by
  rw [dropBlankEnd_cons _ (List.cons_ne_nil _ _)]
  by_cases last : segments = []
  · rw [last, dropBlankEnd_single_of_solid fun blank => inner ⟨last, blank⟩]
    rfl
  · rw [dropBlankEnd_cons _ last]

/-- No slot is dropped. -/
theorem paths_dropBlankEnd (segments : List Segment) :
    Segment.paths (dropBlankEnd segments) = Segment.paths segments := by
  unfold dropBlankEnd
  split
  · rename_i literal last
    split_ifs
    · have split : segments = segments.dropLast ++ [.literal literal] :=
        (List.dropLast_append_getLast? _ last).symm
      conv_rhs => rw [split]
      simp [Segment.paths]
    · rfl
  · rfl

/-- A text that is captured stood in a known place, without white space at its ends. -/
theorem textAt_eq_some {known : Bool} {place text : Text} (found : textAt known place = some text) :
    known = true ∧ text = Text.trim place ∧ text ≠ [] := by
  simp only [textAt, Bool.and_eq_true, Bool.not_eq_true', List.isEmpty_eq_false_iff,
    Option.ite_none_right_eq_some, Option.some.injEq] at found
  obtain ⟨⟨known, present⟩, rfl⟩ := found
  exact ⟨known, rfl, present⟩

/-- There is one capture for each slot, in order. -/
theorem map_path_captures (known : Bool) (rest : Text) (segments : List Segment) :
    (captures known rest segments).map Capture.path = Segment.paths segments := by
  fun_induction captures known rest segments with
  | case1 => rfl
  | case2 => rfl
  | case3 known rest path next segments inductionHypothesis => simp [inductionHypothesis]
  | case4 known rest path literal segments before after found inductionHypothesis =>
      simp [inductionHypothesis]
  | case5 known rest path literal segments missed inductionHypothesis =>
      simp [inductionHypothesis]
  | case6 known rest literal segments before after found inductionHypothesis =>
      simpa using inductionHypothesis
  | case7 known rest literal segments missed inductionHypothesis => simpa using inductionHypothesis

/-- What is captured is trimmed, and never empty. -/
theorem isClean_of_mem_captures {known : Bool} {rest : Text} {capture : Capture} {text : Text} :
    capture ∈ captures known rest segments → capture.found = some text → Text.IsClean text := by
  have clean {known : Bool} {place : Text} (found : textAt known place = some text) :
      Text.IsClean text := by
    obtain ⟨-, rfl, present⟩ := textAt_eq_some found
    exact ⟨Text.trim_trim place, present⟩
  fun_induction captures known rest segments with
  | case1 => exact fun present => nomatch present
  | case2 known rest path =>
      intro present found
      obtain rfl := List.mem_singleton.mp present
      exact clean found
  | case3 known rest path next segments inductionHypothesis =>
      intro present found
      rcases List.mem_cons.mp present with rfl | later
      · cases found
      · exact inductionHypothesis later found
  | case4 known rest path literal segments before after place inductionHypothesis =>
      intro present found
      rcases List.mem_cons.mp present with rfl | later
      · exact clean found
      · exact inductionHypothesis later found
  | case5 known rest path literal segments missed inductionHypothesis =>
      intro present found
      rcases List.mem_cons.mp present with rfl | later
      · cases found
      · exact inductionHypothesis later found
  | case6 known rest literal segments before after place inductionHypothesis =>
      exact inductionHypothesis
  | case7 known rest literal segments missed inductionHypothesis => exact inductionHypothesis

/-- A slot behind a missed literal captures nothing. -/
theorem captures_unknown (rest path : Text) (segments : List Segment) :
    ∃ more, captures false rest (.slot path :: segments) = ⟨path, none⟩ :: more := by
  cases segments with
  | nil => exact ⟨[], rfl⟩
  | cons next segments =>
      cases next with
      | slot next => exact ⟨_, rfl⟩
      | literal literal =>
          rw [captures]
          cases Anchor.cutAt? (Anchor.ofLiteral literal) rest <;> exact ⟨_, rfl⟩

/-! ## Sums of captures -/

/-- Slots without a text are told in their order. -/
theorem unmatched_sublist (captured : List Capture) :
    (ofCaptures captured).unmatched.Sublist (captured.map Capture.path) :=
  List.filter_sublist.map Capture.path

/-- Every slot is matched or not. -/
theorem matched_add_unmatched (captured : List Capture) :
    captured.countP (fun capture => capture.found.isSome) + (ofCaptures captured).unmatched.length =
      captured.length := by
  have unmatched : (ofCaptures captured).unmatched.length =
      captured.countP fun capture => capture.found.isNone := by
    rw [ofCaptures, List.length_map, List.countP_eq_length_filter]
  rw [unmatched, List.length_eq_countP_add_countP fun capture => capture.found.isSome]
  congr 2
  funext capture
  cases capture.found <;> rfl

/-- The confidence is the share of the slots that found a text. -/
theorem confidence_ofCaptures {captured : List Capture} (present : captured ≠ []) :
    (ofCaptures captured).confidence =
      Binary64.ofRatio false (captured.countP fun capture => capture.found.isSome)
        captured.length :=
  if_neg (by simpa using present)

/-- The confidence is one where all slots are matched, or so many that it is rounded to one. -/
theorem confidence_eq_one {captured : List Capture} (present : captured ≠ []) :
    (ofCaptures captured).confidence = Binary64.one ↔
      2 ^ 54 * (ofCaptures captured).unmatched.length ≤ captured.length := by
  have total := matched_add_unmatched captured
  have positive := List.length_pos_of_ne_nil present
  have rest : captured.length - captured.countP (fun capture => capture.found.isSome) =
      (ofCaptures captured).unmatched.length := by omega
  rw [confidence_ofCaptures present, Binary64.ofRatio_eq_one positive (by omega), rest]

end Extraction

/-- A slot of a template and the literal behind it. -/
structure Slot where
  /-- The path of the slot. -/
  path : Text
  /-- The literal. -/
  next : Text
  deriving DecidableEq

/-- A slot together with the text in its place. -/
abbrev Slot.Filled := Slot × Text

namespace Slot

variable {before value rest : Text} {slot : Slot} {row : List Filled}

/-- The segments of a slot. -/
def segments (slot : Slot) : List Segment :=
  [.slot slot.path, .literal slot.next]

/-- The text of a slot and of the literal behind it. -/
def Filled.text (filled : Filled) : Text :=
  filled.2 ++ filled.1.next

/-- The text of slots in a row. -/
def document (row : List Filled) : Text :=
  row.flatMap Filled.text

/-- What a slot captures of the text in its place. -/
def Filled.capture (filled : Filled) : Capture :=
  ⟨filled.1.path, Extraction.textAt true filled.2⟩

/-- A value that is read back behind the literal `before`: it stays apart from the literal behind
it, and the anchor of `before` takes nothing of that literal. -/
structure IsReadable (before value next : Text) : Prop where
  /-- The white space of the literal is plain. -/
  plain : Anchor.IsPlain next
  /-- The value cannot be taken for the literal. -/
  apart : Anchor.StaysApart value next
  /-- The literal is left whole. -/
  whole : Anchor.behind before (value ++ next) = Anchor.behind before value ++ next

/-- Slots in a row that are read back behind the literal `before`. -/
def AreReadable : Text → List Filled → Prop
  | _, [] => True
  | before, filled :: row =>
    IsReadable before filled.2 filled.1.next ∧ AreReadable filled.1.next row

/-- The literal behind slots in a row that begins behind the literal `before`. -/
def lastNext (before : Text) (slots : List Slot) : Text :=
  slots.foldl (fun _ slot => slot.next) before

/-- What a value stays apart from is not empty. -/
theorem next_ne_nil (apart : Anchor.StaysApart value slot.next) : slot.next ≠ [] := by
  intro empty
  rw [empty] at apart
  exact apart

/-- A value with more than white space keeps what stands behind it. -/
theorem whole_of_solid (solid : ¬ Text.isAllBlank value) (before next : Text) :
    Anchor.behind before (value ++ next) = Anchor.behind before value ++ next := by
  refine Anchor.behind_append_of_exists (fun gone => solid ?_) next
  rw [← Text.trim_eq_nil_iff, ← Anchor.trim_behind before, gone, Text.trim_nil]

/-- A literal that begins with a line feed is left whole where no line feed is taken. -/
theorem whole_of_gap (inLine : '\n' ∉ Anchor.blankEnd before) {next : Text}
    (begins : ¬ next.head?.any Anchor.isGapChar) (value : Text) :
    Anchor.behind before (value ++ next) = Anchor.behind before value ++ next := by
  have kept : next.dropWhile Anchor.isGapChar = next := by
    cases next with
    | nil => rfl
    | cons first rest => exact List.dropWhile_cons_of_neg (by simpa using begins)
  unfold Anchor.behind
  split_ifs
  · rfl
  · rw [List.dropWhile_append, kept]
    split_ifs with gone
    · rw [List.isEmpty_iff.mp gone, List.nil_append]
    · rfl

/-- White space at the ends of a place makes no difference. -/
theorem textAt_congr (known : Bool) {first second : Text}
    (same : Text.trim first = Text.trim second) :
    Extraction.textAt known first = Extraction.textAt known second := by
  rw [Extraction.textAt, Extraction.textAt, same]

/-- A readable slot captures the text in its place. -/
theorem captures_slot (slot : Slot) (readable : IsReadable before value slot.next) (rest : Text)
    (segments : List Segment) :
    Extraction.captures true (Anchor.behind before (value ++ (slot.next ++ rest)))
        (.slot slot.path :: .literal slot.next :: segments) =
      ⟨slot.path, Extraction.textAt true value⟩ ::
        Extraction.captures true (Anchor.behind slot.next rest) segments := by
  have kept : Anchor.behind before (value ++ slot.next) ≠ [] := by
    rw [readable.whole]
    exact List.append_ne_nil_of_right_ne_nil _ (next_ne_nil readable.apart)
  have split : Anchor.behind before (value ++ (slot.next ++ rest)) =
      Anchor.behind before value ++ (slot.next ++ rest) := by
    rw [← List.append_assoc, Anchor.behind_append_of_exists kept, readable.whole,
      List.append_assoc]
  obtain ⟨place, trimmed, found⟩ := Anchor.cutAt?_ofLiteral readable.plain
    (readable.apart.of_suffix (Anchor.behind_suffix before value)) rest
  rw [split, Extraction.captures, found]
  simp only [textAt_congr true (trimmed.trans (Anchor.trim_behind before value))]

/-- The slots of a readable row capture their texts, and what follows is read behind them. -/
theorem captures_row (readable : AreReadable before row) (rest : Text)
    (segments : List Segment) :
    Extraction.captures true (Anchor.behind before (document row ++ rest))
        (row.flatMap (fun filled => filled.1.segments) ++ segments) =
      row.map Filled.capture ++
        Extraction.captures true (Anchor.behind (lastNext before (row.map Prod.fst)) rest)
          segments := by
  induction row generalizing before with
  | nil => rfl
  | cons filled row inductionHypothesis =>
      obtain ⟨first, later⟩ := readable
      have text : document (filled :: row) ++ rest =
          filled.2 ++ (filled.1.next ++ (document row ++ rest)) := by
        simp [document, Filled.text]
      rw [text, List.flatMap_cons, List.append_assoc]
      exact (captures_slot filled.1 first _ _).trans (congrArg _ (inductionHypothesis later))

/-- A slot at the end of a template captures all that is left. -/
theorem captures_last (before path value : Text) {blank : Text}
    (allBlank : Text.isAllBlank blank) :
    Extraction.captures true (Anchor.behind before (value ++ blank)) [.slot path] =
      [⟨path, Extraction.textAt true value⟩] := by
  rw [Extraction.captures, textAt_congr true
    ((Anchor.trim_behind before _).trans (Text.trim_append_of_isAllBlank value allBlank))]

/-- What the slots of a filled row capture behind the literal `before`. -/
def reading (before : Text) (row : List Filled) : List Capture :=
  Extraction.captures true (Anchor.behind before (document row))
    (Extraction.dropBlankEnd (row.flatMap fun filled => filled.1.segments))

/-- The slots of a readable row capture their texts. -/
theorem reading_append {back : List Filled} (readable : AreReadable before row)
    (present : back ≠ []) : reading before (row ++ back) =
      row.map Filled.capture ++ reading (lastNext before (row.map Prod.fst)) back := by
  have rest : back.flatMap (fun filled => filled.1.segments) ≠ [] := by
    obtain ⟨filled, later, rfl⟩ := List.exists_cons_of_ne_nil present
    simp [segments]
  rw [reading, document, List.flatMap_append, List.flatMap_append,
    Extraction.dropBlankEnd_append _ rest]
  exact captures_row readable _ _

/-- The last slot is read if its value ends the document or can be read. -/
theorem reading_single (before : Text) (last : Filled)
    (ends : Text.isAllBlank last.1.next ∨ IsReadable before last.2 last.1.next) :
    reading before [last] = [last.capture] := by
  have text : document [last] = last.2 ++ last.1.next := by
    simp [document, Filled.text]
  rw [reading, text, List.flatMap_singleton, segments,
    Extraction.dropBlankEnd_cons _ (List.cons_ne_nil _ _)]
  by_cases blank : Text.isAllBlank last.1.next
  · rw [Extraction.dropBlankEnd_single blank]
    exact captures_last _ _ _ blank
  · have final := captures_slot last.1 (ends.resolve_left blank) [] []
    rw [List.append_nil] at final
    rw [Extraction.dropBlankEnd_single_of_solid blank, final]
    rfl

/-- A row whose last slot is readable, or has white space alone behind it, is read back whole. -/
theorem reading_concat (readable : AreReadable before row) (last : Filled)
    (ends : Text.isAllBlank last.1.next ∨
      IsReadable (lastNext before (row.map Prod.fst)) last.2 last.1.next) :
    reading before (row ++ [last]) = (row ++ [last]).map Filled.capture := by
  rw [reading_append readable (List.cons_ne_nil _ _), reading_single _ last ends, List.map_append]
  rfl

/-- The slots that stand alone on their lines: the literal in front of them ends with a line
feed. -/
def alone : Text → List Slot → List Slot
  | _, [] => []
  | before, slot :: slots =>
    if '\n' ∈ Anchor.blankEnd before then slot :: alone slot.next slots
    else alone slot.next slots

/-- A slot that stands alone does so with others behind it. -/
theorem alone_subset_append (before : Text) (slots later : List Slot) :
    alone before slots ⊆ alone before (slots ++ later) := by
  induction slots generalizing before with
  | nil => exact List.nil_subset _
  | cons slot slots inductionHypothesis =>
      rw [List.cons_append, alone, alone]
      split_ifs
      · exact List.cons_subset_cons _ (inductionHypothesis _)
      · exact inductionHypothesis _

/-- A row is readable when each value stays apart from the literal behind it, and those of the
slots that stand alone are more than white space. -/
theorem areReadable_of_apart {row : List Filled}
    (plain : ∀ filled ∈ row, Anchor.IsPlain filled.1.next ∧
      ¬ filled.1.next.head?.any Anchor.isGapChar)
    (apart : ∀ filled ∈ row, Anchor.StaysApart filled.2 filled.1.next)
    (solid : ∀ filled ∈ row, Text.isAllBlank filled.2 →
      filled.1 ∉ alone before (row.map Prod.fst)) : AreReadable before row := by
  induction row generalizing before with
  | nil => trivial
  | cons filled row inductionHypothesis =>
      obtain ⟨⟨plainHere, begins⟩, plain⟩ := List.forall_mem_cons.mp plain
      obtain ⟨apartHere, apart⟩ := List.forall_mem_cons.mp apart
      obtain ⟨solidHere, solid⟩ := List.forall_mem_cons.mp solid
      rw [List.map_cons, alone] at solidHere solid
      refine ⟨⟨plainHere, apartHere, ?_⟩, inductionHypothesis plain apart fun other present blank
        still => solid other present blank ?_⟩
      · by_cases blank : Text.isAllBlank filled.2
        · refine whole_of_gap (fun feed => solidHere blank ?_) begins filled.2
          rw [if_pos feed]
          exact List.mem_cons_self
        · exact whole_of_solid blank before _
      · split_ifs
        · exact List.mem_cons_of_mem _ still
        · exact still

/-- The literal at the front of a template is found at the front of its document. -/
theorem captures_first {first : Text} (plain : Anchor.IsPlain first) (rest : Text)
    (segments : List Segment) :
    Extraction.captures true (first ++ rest) (.literal first :: segments) =
      Extraction.captures true (Anchor.behind first rest) segments := by
  have own : Anchor.cutAt? (Anchor.ofLiteral first) ([] ++ (first ++ rest)) = _ :=
    Anchor.cutAt?_append (by simp) (Anchor.drop?_ofLiteral plain rest)
  rw [List.nil_append] at own
  rw [Extraction.captures, own]

end Slot

namespace Segment

/-- Slots in a row with their texts. -/
theorem fill_slots (texts : Text → Text) (slots : List Slot) :
    fill texts (slots.flatMap Slot.segments) =
      Slot.document (slots.map fun slot => (slot, texts slot.path)) := by
  induction slots with
  | nil => rfl
  | cons slot slots inductionHypothesis =>
      rw [List.flatMap_cons, fill_append, inductionHypothesis]
      simp [Slot.segments, Slot.document, Slot.Filled.text]

/-- The paths of a row are those of its slots. -/
theorem paths_slots (slots : List Slot) :
    paths (slots.flatMap Slot.segments) = slots.map Slot.path := by
  induction slots with
  | nil => rfl
  | cons slot slots inductionHypothesis =>
      rw [List.flatMap_cons, paths_append, inductionHypothesis]
      rfl

end Segment

end Issuebook
