import Issuebook.Proofs.Template.RoundTrip
import Issuebook.Proofs.Text.Characters
import Mathlib.Data.List.Chain

/-!
# Broken literals

What is read of a filled template in which a line feed stands in the place of the literal between
two slots. Where the first word of every literal stands in the document for that literal alone, the
broken one is missed and the next one is found where it is (`captures_missed`, `captures_resumed`).
So the two slots on its sides lose their values, and no other slot does:
`broken_unmatches_neighbours`.
-/

namespace Issuebook

/-- A text without line feeds occurs on one side of a line feed. -/
theorem Text.infix_of_line {word front back : Text} (single : '\n' ∉ word)
    (occurs : word <:+: front ++ '\n' :: back) : word <:+: front ∨ word <:+: back := by
  obtain ⟨before, after, whole⟩ := occurs
  rcases List.append_eq_append_iff.mp whole with ⟨later, rfl, -⟩ | ⟨later, left, right⟩
  · exact .inl ⟨before, later, rfl⟩
  · cases later with
    | nil => exact .inl ⟨before, [], by rw [List.append_nil, left, List.append_nil]⟩
    | cons feed later =>
        obtain ⟨rfl, rfl⟩ := List.cons.inj right
        rcases List.append_eq_append_iff.mp left with ⟨inner, rfl, split⟩ | ⟨inner, -, split⟩
        · rw [split] at single
          exact absurd (List.mem_append_right inner List.mem_cons_self) single
        · cases inner with
          | nil =>
              rw [List.nil_append] at split
              rw [← split] at single
              exact absurd List.mem_cons_self single
          | cons feed inner =>
              obtain ⟨-, rfl⟩ := List.cons.inj split
              exact .inr ⟨inner, after, rfl⟩

namespace Segment

variable {texts : Text → Text} {segments front back : List Segment} {literal path rest : Text}

/-- The first word of a literal. -/
def firstWord (literal : Text) : Text :=
  (literal.dropWhile Text.isBlank).takeWhile fun char => !Text.isBlank char

/-- In a filled template the first word of a literal that is not blank occurs only where that
literal stands. -/
def WordsStandAlone (texts : Text → Text) (segments : List Segment) : Prop :=
  ∀ front literal back, segments = front ++ .literal literal :: back →
    ¬ Text.isAllBlank literal → ∀ before after,
      fill texts segments = before ++ firstWord literal ++ after →
        (fill texts front).length ≤ before.length ∧
          before.length < (fill texts front).length + literal.length

/-- Whether the first word of a segment occurs only where the segment stands, behind `front`
characters of a document. -/
def standsAlone (document : Text) (front : Nat) : Segment → Bool
  | .slot _ => true
  | .literal literal => Text.isAllBlank literal ||
    (List.range document.length).all fun place =>
      !(firstWord literal).isPrefixOf (document.drop place) ||
        (front ≤ place && place < front + literal.length)

/-- A literal that is not blank has a first solid character. -/
theorem exists_mark (solid : ¬ Text.isAllBlank literal) :
    ∃ mark body, literal.dropWhile Text.isBlank = mark :: body ∧ ¬ Text.isBlank mark := by
  obtain ⟨mark, body, line⟩ := List.exists_cons_of_ne_nil (Text.dropWhile_ne_nil solid)
  have stops := List.head?_dropWhile_not Text.isBlank literal
  rw [line] at stops
  exact ⟨mark, body, line, by simpa using stops⟩

/-- A word has no line feed. -/
theorem newline_notMem_firstWord (literal : Text) : '\n' ∉ firstWord literal := by
  intro feed
  have solid := List.mem_takeWhile_imp feed
  exact absurd solid (by decide)

/-- The first word of a literal that is not blank is not empty. -/
theorem firstWord_ne_nil (solid : ¬ Text.isAllBlank literal) : firstWord literal ≠ [] := by
  obtain ⟨mark, body, line, solidMark⟩ := exists_mark solid
  rw [firstWord, line, List.takeWhile_cons_of_pos (by simpa using solidMark)]
  exact List.cons_ne_nil _ _

/-- Whether words stand alone can be checked at every place of the document. -/
theorem wordsStandAlone_iff : WordsStandAlone texts segments ↔
    ∀ index (inside : index < segments.length), standsAlone (fill texts segments)
      (fill texts (segments.take index)).length segments[index] = true := by
  constructor
  · intro alone index inside
    cases segment : segments[index] with
    | slot path => rfl
    | literal literal =>
        rw [standsAlone, Bool.or_eq_true, or_iff_not_imp_left, List.all_eq_true]
        intro solid place listed
        rw [Bool.or_eq_true, Bool.not_eq_true', ← Bool.not_eq_true, ← imp_iff_not_or]
        intro occurs
        obtain ⟨after, whole⟩ := List.isPrefixOf_iff_prefix.mp occurs
        have split : segments =
            segments.take index ++ .literal literal :: segments.drop (index + 1) := by
          rw [← segment, ← List.drop_eq_getElem_cons inside, List.take_append_drop]
        have stands := alone _ _ _ split solid ((fill texts segments).take place) after (by
          rw [List.append_assoc, whole, List.take_append_drop])
        rw [List.length_take, Nat.min_eq_left (List.mem_range.mp listed).le] at stands
        simpa using stands
  · rintro checked front literal back rfl solid before after whole
    have here := checked front.length (by simp)
    have segment : (front ++ Segment.literal literal :: back)[front.length] = .literal literal := by
      simp
    rw [List.take_left, segment, standsAlone, Bool.or_eq_true] at here
    have present := List.length_pos_of_ne_nil (firstWord_ne_nil solid)
    have listed : before.length ∈ List.range
        (fill texts (front ++ .literal literal :: back)).length := by
      rw [whole, List.mem_range, List.length_append, List.length_append]
      omega
    have checkedHere := List.all_eq_true.mp (here.resolve_left solid) _ listed
    rw [Bool.or_eq_true, Bool.not_eq_true', ← Bool.not_eq_true, ← imp_iff_not_or] at checkedHere
    have occurs : (firstWord literal).isPrefixOf
        ((fill texts (front ++ .literal literal :: back)).drop before.length) = true := by
      rw [List.isPrefixOf_iff_prefix, whole, List.append_assoc, List.drop_left]
      exact List.prefix_append _ _
    simpa using checkedHere occurs

instance (texts : Text → Text) (segments : List Segment) :
    Decidable (WordsStandAlone texts segments) :=
  decidable_of_iff _ wordsStandAlone_iff.symm

/-- The pieces of a literal do not hold where its first word is not. -/
theorem drop?_of_firstWord (solid : ¬ Text.isAllBlank literal)
    (absent : ¬ firstWord literal <+: rest) :
    Anchor.drop? (Anchor.laterPieces (Anchor.runs (literal.dropWhile Text.isBlank))) rest =
      none := by
  obtain ⟨mark, body, line, solidMark⟩ := exists_mark solid
  have alike : (fun next => decide (Text.isBlank next = Text.isBlank mark)) =
      fun char => !Text.isBlank char := by
    funext next
    simp [solidMark]
  have word : firstWord literal = mark :: body.takeWhile fun char => !Text.isBlank char := by
    rw [firstWord, line, List.takeWhile_cons_of_pos (by simpa using solidMark)]
  have differs : Text.dropHead? (firstWord literal) rest = none :=
    Option.eq_none_iff_forall_ne_some.mpr fun after dropped =>
      absent ⟨after, (Text.dropHead?_eq_some.mp dropped).symm⟩
  rw [line, Anchor.runs_cons, alike, Anchor.laterPieces_cons, Anchor.pieceOf_of_solid solidMark,
    ← word, Anchor.drop?, Anchor.dropPiece?, differs, Option.bind_none]

/-- The first word of the literal behind a slot is neither in the text of the slot nor in what
stands behind the literal. -/
theorem WordsStandAlone.absent (alone : WordsStandAlone texts
    (front ++ .slot path :: .literal literal :: back)) (solid : ¬ Text.isAllBlank literal) :
    ¬ firstWord literal <:+: texts path ∧ ¬ firstWord literal <:+: fill texts back := by
  have stands := alone (front ++ [.slot path]) literal back (by simp) solid
  simp only [fill_append, fill_cons_slot, fill_cons_literal, fill_nil, List.append_nil,
    List.length_append] at stands
  constructor
  · rintro ⟨before, after, whole⟩
    have place := (stands (fill texts front ++ before) (after ++ (literal ++ fill texts back))
      (by simp [← whole])).1
    have long : (texts path).length =
        before.length + (firstWord literal).length + after.length := by
      rw [← whole, List.length_append, List.length_append]
    have present := List.length_pos_of_ne_nil (firstWord_ne_nil solid)
    rw [List.length_append] at place
    omega
  · rintro ⟨before, after, whole⟩
    have place := (stands (fill texts front ++ (texts path ++ (literal ++ before))) after
      (by simp [← whole])).2
    simp only [List.length_append] at place
    omega

/-- Nor does it begin with the text of the slot. -/
theorem WordsStandAlone.differs (alone : WordsStandAlone texts
    (front ++ .slot path :: .literal literal :: back)) (solid : ¬ Text.isAllBlank literal)
    (present : texts path ≠ []) :
    ¬ firstWord literal <+: texts path ++ (literal ++ fill texts back) := by
  rintro ⟨after, whole⟩
  have stands := alone (front ++ [.slot path]) literal back (by simp) solid (fill texts front)
    after (by simp [fill_append, whole])
  have long := List.length_pos_of_ne_nil present
  simp only [fill_append, fill_cons_slot, fill_nil, List.append_nil, List.length_append] at stands
  omega

/-- Slots in front of another slot have literals behind them that begin lines, and so has what
stands behind them. -/
theorem exists_slots {before : Text} {row : List Segment}
    (lines : BeginLines (row ++ .slot path :: back))
    (normal : IsNormal (.literal before :: (row ++ .slot path :: back))) :
    BeginLines (.slot path :: back) ∧ ∃ slots : List Slot, row = slots.flatMap Slot.segments ∧
      ∀ slot ∈ slots, BeginsLine slot.next := by
  match row with
  | [] => exact ⟨lines, [], rfl, List.forall_mem_nil _⟩
  | .literal text :: row =>
      rcases (List.isChain_cons_cons.mp normal).1 with slot | slot <;> cases slot
  | [.slot _] => exact lines.elim
  | .slot _ :: .slot _ :: row => exact lines.elim
  | .slot own :: .literal text :: row =>
      have later : BeginLines (row ++ .slot path :: back) := lines.2
      have normalLater : IsNormal (.literal text :: (row ++ .slot path :: back)) :=
        (List.isChain_cons_cons.mp (List.isChain_cons_cons.mp normal).2).2
      obtain ⟨rest, slots, same, each⟩ := exists_slots later normalLater
      have begins : BeginsLine text := lines.1.resolve_right fun last => by
        have empty : row ++ .slot path :: back = [] := last.2
        simp at empty
      refine ⟨rest, ⟨own, text⟩ :: slots, ?_, List.forall_mem_cons.mpr ⟨begins, each⟩⟩
      rw [List.flatMap_cons, ← same]
      rfl

end Segment

namespace Extraction

open Segment

variable {texts : Text → Text} {segments front back : List Segment}
  {literal path next first value rest : Text}

/-- A literal that begins a line is missed where its first word does not occur. -/
theorem captures_missed (known : Bool) (begins : BeginsLine literal)
    (absent : ¬ firstWord literal <:+: rest) (path : Text) (segments : List Segment) :
    captures known rest (.slot path :: .literal literal :: segments) =
      ⟨path, none⟩ :: captures false rest segments := by
  have away : Anchor.IsAway
      (Anchor.laterPieces (Anchor.runs (literal.dropWhile Text.isBlank))) rest [] := by
    rintro front back rfl
    refine drop?_of_firstWord begins.1 fun occurs => absent ?_
    rw [List.append_nil] at occurs
    exact occurs.isInfix.trans ((List.dropWhile_suffix _).isInfix.trans
      ((List.suffix_cons _ back).trans (List.suffix_append front _)).isInfix)
  rw [captures, Anchor.ofLiteral_of_newline begins.2, Anchor.cutAt?_newline_eq_none away]

/-- Behind a missed literal the next one is found where it stands. -/
theorem captures_resumed (begins : BeginsLine literal) (plain : Anchor.IsPlain literal)
    (single : '\n' ∉ first) (clean : IsCleanLine value)
    (differs : ¬ firstWord literal <+: value ++ (literal ++ rest)) (path : Text)
    (segments : List Segment) :
    captures false (first ++ '\n' :: value ++ (literal ++ rest))
        (.slot path :: .literal literal :: segments) =
      ⟨path, none⟩ :: captures true (Anchor.behind literal rest) segments := by
  have shape : first ++ '\n' :: value = (first ++ ['\n']) ++ value := by simp
  have trimmed : Text.trimEnd (first ++ '\n' :: value) = first ++ '\n' :: value := by
    rw [shape, Text.trimEnd_append_of_not_isAllBlank _ clean.1.solid,
      Text.trimEnd_of_isClean clean.1]
  have ends : Anchor.blankEnd (first ++ '\n' :: value) = [] := by
    have whole := List.rdropWhile_append_rtakeWhile (p := Text.isBlank)
      (l := first ++ '\n' :: value)
    rw [← Text.trimEnd_eq, trimmed] at whole
    exact List.append_right_eq_self.mp whole
  have own := Anchor.drop?_ofLiteral plain rest
  rw [Anchor.ofLiteral_of_newline begins.2] at own
  have away : Anchor.IsAway
      (Anchor.laterPieces (Anchor.runs (literal.dropWhile Text.isBlank)))
      (Text.trimEnd (first ++ '\n' :: value))
      (Anchor.blankEnd (first ++ '\n' :: value) ++ (literal ++ rest)) := by
    rw [trimmed, ends, List.nil_append]
    intro front back split
    -- The line feed in the place of the missed literal is the only one.
    obtain ⟨-, -, rfl⟩ := (List.append_cons_inj_of_notMem single clean.2).mp split
    have kept : value.dropWhile Text.isBlank ≠ [] := Text.dropWhile_ne_nil clean.1.solid
    rw [Anchor.dropWhile_append_of_exists kept, Text.dropWhile_of_isClean clean.1]
    exact drop?_of_firstWord begins.1 differs
  rw [captures, Anchor.ofLiteral_of_newline begins.2, Anchor.cutAt?_newline away own]
  rfl

/-- Behind a missed literal every slot but the next one captures its text. -/
theorem captures_behind_missed (lines : BeginLines (.slot next :: back))
    (normal : IsNormal (.slot next :: back))
    (plain : ∀ literal, .literal literal ∈ back → Anchor.IsPlain literal)
    (clean : ∀ path ∈ paths (.slot next :: back), IsCleanLine (texts path))
    (alone : ∀ literal later, back = .literal literal :: later → ¬ Text.isAllBlank literal →
      ¬ firstWord literal <+: texts next ++ (literal ++ fill texts later))
    (single : '\n' ∉ first) :
    captures false (first ++ '\n' :: fill texts (.slot next :: back))
        (dropBlankEnd (.slot next :: back)) =
      ⟨next, none⟩ :: (paths back).map fun path => ⟨path, some (texts path)⟩ := by
  match back with
  | [] => rfl
  | .slot _ :: back => exact lines.elim
  | .literal text :: back =>
      have begins : BeginsLine text ∨ Text.isAllBlank text ∧ back = [] := lines.1
      by_cases last : back = [] ∧ Text.isAllBlank text
      · obtain ⟨rfl, blank⟩ := last
        rw [dropBlankEnd_cons _ (List.cons_ne_nil _ _), dropBlankEnd_single blank]
        rfl
      · have begins := begins.resolve_right fun blank => last blank.symm
        have later := captures_fill text lines.2 (List.isChain_cons_cons.mp normal).2
          (fun other present => plain other (List.mem_cons_of_mem _ present))
          fun other present => clean other (by simp [present])
        rw [dropBlankEnd_slot next last, fill_cons_slot, fill_cons_literal, ← List.cons_append,
          ← List.append_assoc]
        refine (captures_resumed begins (plain text (by simp)) single (clean next (by simp))
          (alone text back rfl begins.1) next _).trans ?_
        rw [later]
        rfl

/-- Slots with clean lines in front of literals that begin lines can be read. -/
theorem areReadable_slots {slots : List Slot} (begins : ∀ slot ∈ slots, BeginsLine slot.next)
    (plain : ∀ slot ∈ slots, Anchor.IsPlain slot.next)
    (clean : ∀ slot ∈ slots, IsCleanLine (texts slot.path)) (before : Text) :
    Slot.AreReadable before (slots.map fun slot => (slot, texts slot.path)) := by
  induction slots generalizing before with
  | nil => trivial
  | cons slot slots inductionHypothesis =>
      obtain ⟨beginsHere, begins⟩ := List.forall_mem_cons.mp begins
      obtain ⟨plainHere, plain⟩ := List.forall_mem_cons.mp plain
      obtain ⟨cleanHere, clean⟩ := List.forall_mem_cons.mp clean
      exact ⟨isReadable_of_beginsLine beginsHere plainHere cleanHere before,
        inductionHypothesis begins plain clean slot.next⟩

/-- A clean value has nothing that belongs to the literal before it. -/
theorem behind_of_isClean (clean : Text.IsClean value) (literal rest : Text) :
    Anchor.behind literal (value ++ rest) = value ++ rest := by
  obtain ⟨first, more, rfl⟩ := List.exists_cons_of_ne_nil clean.2
  have solid : ¬ Text.isBlank first := by
    have kept := Text.dropWhile_of_isClean clean
    intro blank
    rw [List.dropWhile_cons_of_pos blank] at kept
    have shorter := (List.dropWhile_suffix Text.isBlank (l := more)).length_le
    rw [kept] at shorter
    exact absurd shorter (Nat.not_succ_le_self _)
  unfold Anchor.behind
  split_ifs
  · rfl
  · exact List.dropWhile_cons_of_neg solid
  · exact List.dropWhile_cons_of_neg fun gap => solid (Anchor.isBlank_of_isGapChar gap)

/-- A slot whose literal is missed and the slot behind that literal capture nothing, and those
behind them their texts. -/
theorem captures_pair
    (lines : BeginLines (.slot path :: .literal literal :: .slot next :: back))
    (normal : IsNormal (.slot next :: back))
    (plain : ∀ text, .literal text ∈ back → Anchor.IsPlain text)
    (clean : ∀ other ∈ paths (.slot path :: .literal literal :: .slot next :: back),
      IsCleanLine (texts other))
    (missed : ¬ Text.isAllBlank literal → ¬ firstWord literal <:+: texts path ∧
      ¬ firstWord literal <:+: fill texts (.slot next :: back))
    (resumed : ∀ text later, back = .literal text :: later → ¬ Text.isAllBlank text →
      ¬ firstWord text <+: texts next ++ (text ++ fill texts later)) :
    captures true (texts path ++ '\n' :: fill texts (.slot next :: back))
        (dropBlankEnd (.slot path :: .literal literal :: .slot next :: back)) =
      ⟨path, none⟩ :: ⟨next, none⟩ ::
        (paths back).map fun other => ⟨other, some (texts other)⟩ := by
  have begins : BeginsLine literal := lines.1.resolve_right fun last => nomatch last.2
  have absent : ¬ firstWord literal <:+: texts path ++ '\n' :: fill texts (.slot next :: back) :=
    fun occurs => (Text.infix_of_line (newline_notMem_firstWord literal) occurs).elim
      (missed begins.1).1 (missed begins.1).2
  have inner : ¬ (.slot next :: back = ([] : List Segment) ∧ Text.isAllBlank literal) :=
    fun empty => List.cons_ne_nil _ _ empty.1
  rw [dropBlankEnd_slot path inner, captures_missed true begins absent]
  exact congrArg _ (captures_behind_missed lines.2 normal plain
    (fun other listed => clean other (List.mem_cons_of_mem _ listed)) resumed
    (clean path List.mem_cons_self).2)

/-- The captures behind a literal that was found, of a document in which a later literal is broken.
-/
theorem captures_broken_row (before : Text)
    (lines : BeginLines (front ++ .slot path :: .literal literal :: .slot next :: back))
    (normal : IsNormal
      (.literal before :: (front ++ .slot path :: .literal literal :: .slot next :: back)))
    (plain : ∀ text, .literal text ∈ front ++ .slot path :: .literal literal :: .slot next :: back →
      Anchor.IsPlain text)
    (clean : ∀ other ∈ paths (front ++ .slot path :: .literal literal :: .slot next :: back),
      IsCleanLine (texts other))
    (missed : ¬ Text.isAllBlank literal → ¬ firstWord literal <:+: texts path ∧
      ¬ firstWord literal <:+: fill texts (.slot next :: back))
    (resumed : ∀ text later, back = .literal text :: later → ¬ Text.isAllBlank text →
      ¬ firstWord text <+: texts next ++ (text ++ fill texts later)) :
    captures true (Anchor.behind before (fill texts (front ++ [.slot path]) ++
        '\n' :: fill texts (.slot next :: back)))
        (dropBlankEnd (front ++ .slot path :: .literal literal :: .slot next :: back)) =
      (paths front).map (fun other => ⟨other, some (texts other)⟩) ++
        ⟨path, none⟩ :: ⟨next, none⟩ :: (paths back).map fun other =>
          ⟨other, some (texts other)⟩ := by
  obtain ⟨linesHere, slots, rfl, begins⟩ := exists_slots lines normal
  have cleanHere : IsCleanLine (texts path) := clean path (by simp [paths_append])
  have cleanSlots : ∀ slot ∈ slots, IsCleanLine (texts slot.path) := fun slot listed =>
    clean slot.path (by
      rw [paths_append, paths_slots]
      exact List.mem_append_left _ (List.mem_map_of_mem listed))
  have plainSlots : ∀ slot ∈ slots, Anchor.IsPlain slot.next := fun slot listed =>
    plain slot.next (List.mem_append_left _
      (List.mem_flatMap.mpr ⟨slot, listed, by simp [Slot.segments]⟩))
  have readable := areReadable_slots begins plainSlots cleanSlots before
  -- The row in front is read as before, then the pair is missed, then the reading goes on.
  have row := Slot.captures_row readable (texts path ++ '\n' :: fill texts (.slot next :: back))
    (dropBlankEnd (.slot path :: .literal literal :: .slot next :: back))
  have normalHere : IsNormal (.slot next :: back) :=
    List.IsChain.suffix normal ⟨.literal before :: (slots.flatMap Slot.segments ++
      [.slot path, .literal literal]), by simp⟩
  have last := captures_pair linesHere normalHere (fun text listed => plain text (by simp [listed]))
    (fun other listed => clean other (by
      rw [paths_append]
      exact List.mem_append_right _ listed)) missed resumed
  rw [fill_append, fill_slots, paths_slots, fill_cons_slot, fill_nil, List.append_nil,
    List.append_assoc, dropBlankEnd_append _ (List.cons_ne_nil _ _)]
  rw [List.flatMap_map, behind_of_isClean cleanHere.1, last] at row
  refine row.trans ?_
  rw [List.map_map, List.map_map]
  refine congrArg (· ++ _) (List.map_congr_left fun slot listed => ?_)
  simp [Slot.Filled.capture, textAt_of_isClean (cleanSlots slot listed).1]

/-- Where the literal between two slots of an anchored template is broken, these two slots capture
nothing, and all others their texts. -/
theorem captures_broken
    (anchored : AreAnchored (front ++ .slot path :: .literal literal :: .slot next :: back))
    (normal : IsNormal (front ++ .slot path :: .literal literal :: .slot next :: back))
    (clean : ∀ other ∈ paths (front ++ .slot path :: .literal literal :: .slot next :: back),
      IsCleanLine (texts other))
    (alone : WordsStandAlone texts
      (front ++ .slot path :: .literal literal :: .slot next :: back)) :
    captures true (fill texts (front ++ [.slot path]) ++ '\n' :: fill texts (.slot next :: back))
        (dropBlankEnd (front ++ .slot path :: .literal literal :: .slot next :: back)) =
      (paths front).map (fun other => ⟨other, some (texts other)⟩) ++
        ⟨path, none⟩ :: ⟨next, none⟩ :: (paths back).map fun other =>
          ⟨other, some (texts other)⟩ := by
  obtain ⟨lines, plain, -⟩ := anchored
  have cleanNext : IsCleanLine (texts next) := clean next (by simp [paths_append])
  have missed (solid : ¬ Text.isAllBlank literal) := alone.absent solid
  have resumed : ∀ text later, back = .literal text :: later → ¬ Text.isAllBlank text →
      ¬ firstWord text <+: texts next ++ (text ++ fill texts later) := by
    rintro text later rfl solid
    have again : WordsStandAlone texts ((front ++ [.slot path, .literal literal]) ++
        .slot next :: .literal text :: later) := by
      simpa using alone
    exact again.differs solid cleanNext.1.2
  cases front with
  | nil =>
      exact captures_broken_row [] lines (.cons_cons (.inr rfl) normal) plain clean missed resumed
  | cons first front =>
      cases first with
      | slot own =>
          exact captures_broken_row [] lines (.cons_cons (.inr rfl) normal) plain clean missed
            resumed
      | literal text =>
          rw [List.cons_append, List.cons_append, fill_cons_literal, List.append_assoc,
            dropBlankEnd_cons _ (by simp), Slot.captures_first (plain text (by simp))]
          exact captures_broken_row text lines normal
            (fun other listed => plain other (List.mem_cons_of_mem _ listed)) clean missed resumed

/-- When all slots but two neighbours found a text, these two are unmatched, and the data are those
of the others. -/
theorem ofCaptures_broken (front back : List (Text × Text)) (path next : Text) :
    let extraction := ofCaptures
      (foundCaptures front ++ ⟨path, none⟩ :: ⟨next, none⟩ :: foundCaptures back)
    extraction.data = (ofCaptures (foundCaptures (front ++ back))).data ∧
      extraction.unmatched = [path, next] ∧
      extraction.confidence = Binary64.ofRatio false (front.length + back.length)
        (front.length + (back.length + 2)) := by
  have sizes : (foundCaptures front).length = front.length ∧
      (foundCaptures back).length = back.length := ⟨List.length_map _, List.length_map _⟩
  refine ⟨?_, ?_, ?_⟩
  · simp only [ofCaptures, List.foldl_append, List.foldl_cons, foundCaptures, List.map_append]
    rfl
  · simp [ofCaptures, List.filter_append, missing_foundCaptures]
  · simp [ofCaptures, List.countP_append, countP_foundCaptures, sizes.1, sizes.2]

end Extraction

namespace Template

open Segment Extraction

/-- In an anchored template filled with clean lines, where the first word of every literal stands
alone, a line feed in the place of the literal between two slots loses the values of these two:
they alone are unmatched, and the leaves of the data are the texts of all other slots. -/
theorem broken_unmatches_neighbours {template : Text} {context : Value} {texts : Text → Text}
    {front back : List Segment} {path literal next : Text}
    (split : ofTemplate (withoutDirectives template) =
      front ++ .slot path :: .literal literal :: .slot next :: back)
    (anchored : AreAnchored (ofTemplate (withoutDirectives template)))
    (shown : ∀ path ∈ paths (ofTemplate (withoutDirectives template)),
      (context.at? path).map Value.slotText = .ok (texts path))
    (clean : ∀ path ∈ paths (ofTemplate (withoutDirectives template)), IsCleanLine (texts path))
    (alone : WordsStandAlone texts (ofTemplate (withoutDirectives template))) :
    let slots := (paths (ofTemplate (withoutDirectives template))).length
    let edited := fill texts (front ++ [.slot path]) ++ '\n' :: fill texts (.slot next :: back)
    render template context =
        .ok (fill texts (front ++ [.slot path]) ++ literal ++ fill texts (.slot next :: back)) ∧
      (ofDocument template edited).confidence = Binary64.ofRatio false (slots - 2) slots ∧
      (ofDocument template edited).unmatched = [path, next] ∧
      ((Value.record (ofDocument template edited).data).flat).Perm
        ((paths front ++ paths back).map fun path => (path, .text (texts path))) := by
  intro slots edited
  have normal := isNormal_ofTemplate (withoutDirectives template)
  have named : ∀ path ∈ paths (ofTemplate (withoutDirectives template)), IsNamed path :=
    fun path present => isNamed_of_isPath (isPath_of_mem_ofTemplate (mem_paths.mp present))
  have rendered := render_eq_fill shown
  -- All slots but the two beside the broken literal are found; the rest is counting.
  have extraction : ofDocument template edited = ofCaptures
      (foundCaptures ((paths front).map fun path => (path, texts path)) ++
        ⟨path, none⟩ :: ⟨next, none⟩ ::
          foundCaptures ((paths back).map fun path => (path, texts path))) := by
    rw [ofDocument, split, captures_broken (split ▸ anchored) (split ▸ normal) (split ▸ clean)
      (split ▸ alone), foundCaptures, foundCaptures, List.map_map, List.map_map]
    rfl
  obtain ⟨data, unmatched, confidence⟩ := ofCaptures_broken
    ((paths front).map fun path => (path, texts path))
    ((paths back).map fun path => (path, texts path)) path next
  have all : paths (ofTemplate (withoutDirectives template)) =
      paths front ++ path :: next :: paths back := by
    rw [split, paths_append]
    rfl
  have others : (paths front ++ paths back).Sublist
      (paths (ofTemplate (withoutDirectives template))) := by
    rw [all]
    exact (List.sublist_append_right [path, next] (paths back)).append_left (paths front)
  refine ⟨?_, ?_, ?_, ?_⟩
  · rw [rendered, split]
    simp [fill_append]
  · have total : slots = (paths front).length + ((paths back).length + 2) := by
      simp [slots, all]
    rw [extraction, confidence, total, List.length_map, List.length_map, ← Nat.add_assoc,
      Nat.add_sub_cancel]
  · rw [extraction, unmatched]
  · rw [extraction, data, ← List.map_append]
    have leaves := flat_ofCaptures ((paths front ++ paths back).map fun path => (path, texts path))
      (List.forall_mem_map.mpr fun path listed => named path (others.subset listed))
      (List.pairwise_map.mpr (anchored.independent.sublist others))
    rwa [List.map_map] at leaves

/-- A page of three lines with different words. -/
def memoPage : Text :=
  "Title: {note.title}\n\nBy: {note.author.name}\n  Rest: {rest}\nEnd\n"

/-- A note with plain texts. -/
def memo : Value :=
  .record
    [("note", .record [("title", .text "Plan"), ("author", .record [("name", .text "Ann")])]),
      ("rest", .list [.text "more", .int 2])]

/-- The texts of the note under their paths. -/
def memoTexts (path : Text) : Text :=
  ((memo.at? path).toOption.map Value.slotText).getD []

/-- A memo in which one literal was taken out. -/
theorem memoPage_broken :
    render memoPage memo = .ok "Title: Plan\n\nBy: Ann\n  Rest: more, 2\nEnd\n" ∧
      let extraction := ofDocument memoPage "Title: Plan\nAnn\n  Rest: more, 2\nEnd\n"
      extraction.confidence = Binary64.ofRatio false 1 3 ∧
      extraction.unmatched = ["note.title", "note.author.name"] ∧
      ((Value.record extraction.data).flat).Perm [("rest", .text "more, 2")] := by
  have segments : ofTemplate (withoutDirectives memoPage) =
      [.literal "Title: "] ++ .slot "note.title" :: .literal "\n\nBy: " ::
        .slot "note.author.name" :: [.literal "\n  Rest: ", .slot "rest", .literal "\nEnd\n"] := by
    decide +kernel
  have slots : paths (ofTemplate (withoutDirectives memoPage)) =
      (["note.title", "note.author.name", "rest"] : List Text) := by
    rw [segments]
    rfl
  have anchored : AreAnchored (ofTemplate (withoutDirectives memoPage)) := by
    refine ⟨?_, fun literal present => ?_, ?_⟩
    · rw [segments]
      decide +kernel
    · rw [segments] at present
      simp only [List.mem_append, List.mem_cons, Segment.literal.injEq, reduceCtorEq,
        List.not_mem_nil, or_false, false_or] at present
      rcases present with rfl | rfl | rfl | rfl <;> decide +kernel
    · rw [slots]
      unfold AreIndependent
      decide +kernel
  have shown : ∀ path ∈ paths (ofTemplate (withoutDirectives memoPage)),
      (memo.at? path).map Value.slotText = .ok (memoTexts path) := by
    rw [slots]
    decide +kernel
  have clean : ∀ path ∈ paths (ofTemplate (withoutDirectives memoPage)),
      IsCleanLine (memoTexts path) := by
    rw [slots]
    unfold IsCleanLine
    decide +kernel
  have alone : WordsStandAlone memoTexts (ofTemplate (withoutDirectives memoPage)) := by
    rw [segments]
    decide +kernel
  have front : fill memoTexts ([.literal "Title: "] ++ [.slot "note.title"]) =
      ("Title: Plan" : Text) := by
    decide +kernel
  have back : fill memoTexts (.slot "note.author.name" ::
      [.literal "\n  Rest: ", .slot "rest", .literal "\nEnd\n"]) =
        ("Ann\n  Rest: more, 2\nEnd\n" : Text) := by
    decide +kernel
  have rest : memoTexts "rest" = "more, 2" := by decide +kernel
  obtain ⟨rendered, confidence, unmatched, data⟩ :=
    broken_unmatches_neighbours segments anchored shown clean alone
  rw [front, back] at rendered confidence unmatched data
  rw [slots] at confidence
  refine ⟨rendered, confidence, unmatched, ?_⟩
  rw [← rest]
  exact data

end Template

end Issuebook
