import Issuebook.Proofs.Template.Captures

/-!
# Missed anchors

When the anchor of a literal is not found: `refuses` decides from the beginning of a text that
pieces hold at none of its continuations, and `isAway_document` collects from the lines of a
filled row that no line feed of the row is followed by the pieces. The slots on both sides of a
missed literal capture nothing.
-/

namespace Issuebook

namespace Anchor

variable {char : Char} {text rest after word line front : Text} {pieces : List AnchorPiece}

/-- Whether pieces hold at no continuation of a text, as the text itself tells. -/
def refuses : List AnchorPiece → Text → Bool
  | [], _ => false
  | .word word :: pieces, text =>
    match Text.dropHead? word text with
    | some rest => refuses pieces rest
    | none => (Text.dropHead? text word).isNone
  | .newline :: pieces, text =>
    !(text.dropWhile Text.isBlank).isEmpty &&
      ('\n' ∉ text.takeWhile Text.isBlank || refuses pieces (text.dropWhile Text.isBlank))
  | .gap :: pieces, text =>
    !(text.dropWhile isGapChar).isEmpty &&
      (!text.head?.any isGapChar || refuses pieces (text.dropWhile isGapChar))
  | .margin :: pieces, text =>
    !(text.dropWhile isGapChar).isEmpty && refuses pieces (text.dropWhile isGapChar)

/-- A head that is found is found with anything behind. -/
theorem dropHead?_append_of_some {head : Text} (dropped : Text.dropHead? head text = some after)
    (rest : Text) : Text.dropHead? head (text ++ rest) = some (after ++ rest) := by
  induction head generalizing text with
  | nil =>
      obtain rfl := Option.some.inj dropped
      rfl
  | cons char head inductionHypothesis =>
      cases text with
      | nil => cases dropped
      | cons first text =>
          rw [Text.dropHead?] at dropped
          split_ifs at dropped with same
          rw [List.cons_append, Text.dropHead?, if_pos same, inductionHypothesis dropped]

/-- A head that differs from a text differs with anything behind it. -/
theorem dropHead?_append_of_none {head : Text} (differs : Text.dropHead? head text = none)
    (longer : Text.dropHead? text head = none) (rest : Text) :
    Text.dropHead? head (text ++ rest) = none := by
  induction head generalizing text with
  | nil => cases differs
  | cons char head inductionHypothesis =>
      cases text with
      | nil => cases longer
      | cons first text =>
          rw [Text.dropHead?] at differs longer
          rw [List.cons_append, Text.dropHead?]
          split_ifs with same
          · rw [if_pos same] at differs
            rw [if_pos same.symm] at longer
            exact inductionHypothesis differs longer
          · rfl

/-- What remains of a text that does not end within the dropped characters. -/
theorem takeWhile_append_of_exists {take : Char → Bool} (stops : text.dropWhile take ≠ [])
    (rest : Text) : (text ++ rest).takeWhile take = text.takeWhile take := by
  induction text with
  | nil => exact absurd rfl stops
  | cons char text inductionHypothesis =>
      by_cases taken : take char
      · rw [List.dropWhile_cons_of_pos taken] at stops
        rw [List.cons_append, List.takeWhile_cons_of_pos taken, List.takeWhile_cons_of_pos taken,
          inductionHypothesis stops]
      · rw [List.cons_append, List.takeWhile_cons_of_neg taken, List.takeWhile_cons_of_neg taken]

/-- Pieces that are refused hold at no continuation. -/
theorem drop?_of_refuses (refused : refuses pieces text = true) (rest : Text) :
    drop? pieces (text ++ rest) = none := by
  induction pieces generalizing text with
  | nil => cases refused
  | cons piece pieces inductionHypothesis =>
      rw [drop?]
      cases piece with
      | word word =>
          rw [refuses] at refused
          rw [dropPiece?]
          cases dropped : Text.dropHead? word text with
          | some after =>
              rw [dropped] at refused
              rw [dropHead?_append_of_some dropped]
              exact inductionHypothesis refused
          | none =>
              rw [dropped] at refused
              rw [dropHead?_append_of_none dropped (by simpa using refused)]
              rfl
      -- White space ends inside the text, so what follows cannot add a line feed.
      | newline =>
          simp only [refuses, Bool.and_eq_true, Bool.not_eq_true', List.isEmpty_eq_false_iff,
            Bool.or_eq_true, decide_eq_true_eq] at refused
          obtain ⟨stops, refused⟩ := refused
          rw [dropPiece?, takeWhile_append_of_exists stops, dropWhile_append_of_exists stops]
          split_ifs with feed
          · exact inductionHypothesis (refused.resolve_left (not_not_intro feed))
          · rfl
      | gap =>
          simp only [refuses, Bool.and_eq_true, Bool.not_eq_true', List.isEmpty_eq_false_iff,
            Bool.or_eq_true] at refused
          obtain ⟨stops, refused⟩ := refused
          have head : (text ++ rest).head? = text.head? := by
            cases text with
            | nil => exact absurd rfl stops
            | cons first text => rfl
          rw [dropPiece?, head, dropWhile_append_of_exists stops]
          split_ifs with begins
          · exact inductionHypothesis (refused.resolve_left (by simp [begins]))
          · rfl
      | margin =>
          simp only [refuses, Bool.and_eq_true, Bool.not_eq_true', List.isEmpty_eq_false_iff]
            at refused
          rw [dropPiece?, dropWhile_append_of_exists refused.1]
          exact inductionHypothesis refused.2

/-- What stands behind each line feed of a text. -/
def feeds : Text → List Text
  | [] => []
  | char :: rest => if char = '\n' then rest :: feeds rest else feeds rest

/-- What stands behind a line feed is listed. -/
theorem mem_feeds {front back : Text} (split : text = front ++ '\n' :: back) :
    back ∈ feeds text := by
  subst split
  induction front with
  | nil => simp [feeds]
  | cons char front inductionHypothesis =>
      rw [List.cons_append, feeds]
      split_ifs
      · exact List.mem_cons_of_mem _ inductionHypothesis
      · exact inductionHypothesis

/-- A line has no line feed. -/
theorem feeds_of_single (single : '\n' ∉ text) : feeds text = [] := by
  induction text with
  | nil => rfl
  | cons char text inductionHypothesis =>
      obtain ⟨other, single⟩ := not_or.mp (mt List.mem_cons.mpr single)
      rw [feeds, if_neg (Ne.symm other), inductionHypothesis single]

/-- What stands behind the line feeds of two parts is listed part by part. -/
theorem feeds_append (text rest : Text) :
    feeds (text ++ rest) = (feeds text).map (· ++ rest) ++ feeds rest := by
  induction text with
  | nil => rfl
  | cons char text inductionHypothesis =>
      rw [List.cons_append, feeds, feeds, inductionHypothesis]
      split_ifs <;> rfl

/-- Behind a first line the rest is listed, and then what is behind its own line feeds. -/
theorem feeds_line (single : '\n' ∉ line) (rest : Text) :
    feeds (line ++ '\n' :: rest) = rest :: feeds rest := by
  rw [feeds_append, feeds_of_single single, List.map_nil, List.nil_append, feeds, if_pos rfl]

/-- An anchor that begins with a line feed is found behind one. -/
theorem exists_of_cutAt?_newline {before : Text}
    (found : cutAt? (.newline :: pieces) text = some (before, after)) :
    ∃ back ∈ feeds text, drop? pieces (back.dropWhile Text.isBlank) = some after := by
  induction text generalizing before with
  | nil =>
      obtain ⟨inner, dropped, -⟩ := Option.map_eq_some_iff.mp found
      cases (drop?_newline_eq_some.mp dropped).1
  | cons char text inductionHypothesis =>
      rw [cutAt?] at found
      split at found
      · rename_i inner dropped
        obtain ⟨-, rfl⟩ := Prod.mk.inj (Option.some.inj found)
        obtain ⟨front, back, split, -, follows⟩ := exists_of_drop?_newline dropped
        exact ⟨back, mem_feeds split, follows⟩
      · obtain ⟨⟨front, inner⟩, cut, same⟩ := Option.map_eq_some_iff.mp found
        obtain ⟨-, rfl⟩ := Prod.mk.inj same
        obtain ⟨back, held, follows⟩ := inductionHypothesis cut
        refine ⟨back, ?_, follows⟩
        rw [feeds]
        split_ifs
        · exact List.mem_cons_of_mem _ held
        · exact held

/-- What pieces ask behind the first line feed, when words on the first line have none. -/
def afterLine? : List AnchorPiece → Option (List AnchorPiece)
  | [] => none
  | .newline :: pieces => some pieces
  | .word word :: pieces => if '\n' ∈ word then none else afterLine? pieces
  | .gap :: pieces => afterLine? pieces
  | .margin :: pieces => afterLine? pieces

/-- A head without line feeds is found in the first line. -/
theorem exists_of_dropHead? {head : Text} (single : '\n' ∉ head)
    (dropped : Text.dropHead? head (line ++ '\n' :: rest) = some after) :
    ∃ left, line = head ++ left ∧ after = left ++ '\n' :: rest := by
  induction head generalizing line with
  | nil => exact ⟨line, rfl, (Option.some.inj dropped).symm⟩
  | cons char head inductionHypothesis =>
      obtain ⟨other, single⟩ := not_or.mp (mt List.mem_cons.mpr single)
      cases line with
      | nil =>
          rw [List.nil_append, Text.dropHead?, if_neg (Ne.symm other)] at dropped
          cases dropped
      | cons first line =>
          rw [List.cons_append, Text.dropHead?] at dropped
          split_ifs at dropped with same
          obtain ⟨left, rfl, rest⟩ := inductionHypothesis single dropped
          exact ⟨left, by rw [same, List.cons_append], rest⟩

/-- A gap ends with the line. -/
theorem dropWhile_isGapChar_line (line rest : Text) :
    (line ++ '\n' :: rest).dropWhile isGapChar = line.dropWhile isGapChar ++ '\n' :: rest := by
  rw [List.dropWhile_append]
  split_ifs with gone
  · rw [List.isEmpty_iff.mp gone, List.dropWhile_cons_of_neg (by decide), List.nil_append]
  · rfl

/-- Pieces hold at a line only where the others hold behind it. -/
theorem drop?_line {later : List AnchorPiece} (split : afterLine? pieces = some later)
    (single : '\n' ∉ line) (missed : drop? later (rest.dropWhile Text.isBlank) = none) :
    drop? pieces (line ++ '\n' :: rest) = none := by
  have shorter (line : Text) (single : '\n' ∉ line) : '\n' ∉ line.dropWhile isGapChar :=
    fun feed => single ((List.dropWhile_suffix isGapChar).subset feed)
  fun_induction afterLine? pieces generalizing line with
  | case1 => cases split
  | case2 pieces =>
      obtain rfl := Option.some.inj split
      cases found : drop? (.newline :: pieces) (line ++ '\n' :: rest) with
      | none => rfl
      | some after =>
          obtain ⟨feed, follows⟩ := drop?_newline_eq_some.mp found
          have blank : ∀ char ∈ line, Text.isBlank char := by
            by_contra solid
            have kept : line.dropWhile Text.isBlank ≠ [] := by
              simpa [List.dropWhile_eq_nil_iff] using solid
            rw [takeWhile_append_of_exists kept] at feed
            exact single ((List.takeWhile_prefix Text.isBlank).subset feed)
          rw [dropWhile_append_of_forall blank, List.dropWhile_cons_of_pos (by decide), missed]
            at follows
          cases follows
  | case3 word pieces feed => cases split
  | case4 word pieces inLine inductionHypothesis =>
      rw [drop?, dropPiece?]
      cases dropped : Text.dropHead? word (line ++ '\n' :: rest) with
      | none => rfl
      | some after =>
          obtain ⟨left, rfl, rfl⟩ := exists_of_dropHead? inLine dropped
          exact inductionHypothesis split fun feed => single (List.mem_append_right _ feed)
  | case5 pieces inductionHypothesis =>
      rw [drop?, dropPiece?, dropWhile_isGapChar_line]
      split_ifs
      · exact inductionHypothesis split (shorter line single)
      · rfl
  | case6 pieces inductionHypothesis =>
      rw [drop?, dropPiece?, dropWhile_isGapChar_line]
      exact inductionHypothesis split (shorter line single)

/-- A trimmed line is the word that is found on it. -/
theorem eq_word_of_line (clean : Text.IsClean line) (single : '\n' ∉ line)
    (inLine : '\n' ∉ word)
    (found : drop? [.word word, .newline] ((line ++ '\n' :: rest).dropWhile Text.isBlank) =
      some after) : line = word ∧ after = rest.dropWhile Text.isBlank := by
  have kept : line.dropWhile Text.isBlank ≠ [] := Text.dropWhile_ne_nil clean.solid
  rw [dropWhile_append_of_exists kept, Text.dropWhile_of_isClean clean, drop?, dropPiece?] at found
  obtain ⟨left, dropped, found⟩ := Option.bind_eq_some_iff.mp found
  obtain ⟨left, rfl, rfl⟩ := exists_of_dropHead? inLine dropped
  obtain ⟨feed, follows⟩ := drop?_newline_eq_some.mp found
  have blank : Text.isAllBlank left := by
    by_contra solid
    have stops : left.dropWhile Text.isBlank ≠ [] := Text.dropWhile_ne_nil solid
    rw [takeWhile_append_of_exists stops] at feed
    exact single (List.mem_append_right _ ((List.takeWhile_prefix Text.isBlank).subset feed))
  obtain rfl : left = [] := by
    have trimmed := Text.trimEnd_of_isClean clean
    rw [Text.trimEnd_append_of_isAllBlank _ blank] at trimmed
    have shorter := (List.rdropWhile_prefix Text.isBlank (l := word)).length_le
    rw [← Text.trimEnd_eq, trimmed, List.length_append] at shorter
    exact List.length_eq_zero_iff.mp (by omega)
  refine ⟨List.append_nil word, ?_⟩
  rw [List.nil_append, List.dropWhile_cons_of_pos (by decide)] at follows
  exact (Option.some.inj follows).symm

/-- No word is found in the empty text. -/
theorem drop?_word_nil (present : word ≠ []) (pieces : List AnchorPiece) :
    drop? (.word word :: pieces) [] = none := by
  cases word with
  | nil => exact absurd rfl present
  | cons char word => rfl

/-- A line on its own is found where a trimmed line, or the one behind it, is the word. -/
theorem drop?_word_line (trimmed : Text.trim line = line) (single : '\n' ∉ line)
    (inLine : '\n' ∉ word)
    (found : drop? [.word word, .newline] ((line ++ '\n' :: rest).dropWhile Text.isBlank) =
      some after) :
    line = word ∧ after = rest.dropWhile Text.isBlank ∨
      line = [] ∧ drop? [.word word, .newline] (rest.dropWhile Text.isBlank) = some after := by
  by_cases empty : line = []
  · subst empty
    rw [List.nil_append, List.dropWhile_cons_of_pos (by decide)] at found
    exact .inr ⟨rfl, found⟩
  · exact .inl (eq_word_of_line ⟨trimmed, empty⟩ single inLine found)

/-- Behind a word on its own line and another line, the word is found only as that line. -/
theorem cut_last_line (trimmed : Text.trim line = line) (single : '\n' ∉ line)
    (inLine : '\n' ∉ word) (present : word ≠ [])
    (found : cutAt? [.newline, .word word, .newline] (word ++ '\n' :: (line ++ ['\n'])) =
      some (front, after)) : line = word ∧ after = [] := by
  obtain ⟨back, held, dropped⟩ := exists_of_cutAt?_newline found
  rw [feeds_line inLine, feeds_line single, feeds] at held
  simp only [List.mem_cons, List.not_mem_nil, or_false] at held
  rcases held with rfl | rfl
  · rcases drop?_word_line trimmed single inLine dropped with here | ⟨-, missed⟩
    · exact here
    · rw [List.dropWhile_nil, drop?_word_nil present] at missed
      cases missed
  · rw [List.dropWhile_nil, drop?_word_nil present] at dropped
    cases dropped

/-- An anchor that is away from two parts is away from both together. -/
theorem IsAway.append (first : IsAway pieces front (text ++ rest))
    (second : IsAway pieces text rest) : IsAway pieces (front ++ text) rest := by
  intro before back split
  rcases List.append_eq_append_iff.mp split with ⟨inner, rfl, later⟩ | ⟨inner, rfl, later⟩
  · exact second inner back later
  · cases inner with
    | nil => exact second [] back later.symm
    | cons feed inner =>
        obtain ⟨rfl, rfl⟩ := List.cons.inj later
        have away := first before inner rfl
        rwa [← List.append_assoc] at away

/-- Whether every line that begins inside a literal refuses pieces. -/
def barsIn (pieces : List AnchorPiece) (literal : Text) : Bool :=
  (feeds literal).all fun back =>
    Text.isAllBlank back || refuses pieces (back.dropWhile Text.isBlank)

/-- The lines of a literal keep it away from pieces that they refuse; where the literal ends with
a line feed, what follows decides. -/
theorem isAway_of_refuses (lines : barsIn pieces text)
    (ends : '\n' ∈ blankEnd text → drop? pieces (rest.dropWhile Text.isBlank) = none) :
    IsAway pieces text rest := by
  intro front back split
  by_cases blank : Text.isAllBlank back
  · rw [dropWhile_append_of_forall (List.all_eq_true.mp blank)]
    refine ends ?_
    have ending : Text.isAllBlank ('\n' :: back) := by
      rw [Text.isAllBlank, List.all_cons]
      exact Bool.and_eq_true_iff.mpr ⟨by decide, blank⟩
    rw [split, blankEnd_append_of_blank front ending]
    simp
  · have kept : back.dropWhile Text.isBlank ≠ [] := Text.dropWhile_ne_nil blank
    rw [dropWhile_append_of_exists kept]
    have here := List.all_eq_true.mp lines back (mem_feeds split)
    rw [Bool.or_eq_true] at here
    exact drop?_of_refuses (here.resolve_left blank) rest

end Anchor

namespace Slot

open Anchor

variable {before value next path rest : Text} {row : List Filled} {segments : List Segment}
  {pieces : List AnchorPiece}

/-- Whether pieces hold at no text that begins with a literal and goes on with slots, read from
its first character that is not white space; `last` tells that there are no slots. -/
def refusesAt (pieces : List AnchorPiece) (literal : Text) (last : Bool) : Bool :=
  if Text.isAllBlank literal then last && (drop? pieces []).isNone
  else refuses pieces (literal.dropWhile Text.isBlank)

/-- An anchor that is refused at a literal is not found there. -/
theorem drop?_of_refusesAt {literal : Text} (refused : refusesAt pieces literal row.isEmpty) :
    drop? pieces ((literal ++ document row).dropWhile Text.isBlank) = none := by
  rw [refusesAt] at refused
  split_ifs at refused with blank
  · obtain ⟨empty, none⟩ := Bool.and_eq_true_iff.mp refused
    obtain rfl := List.isEmpty_iff.mp empty
    rw [dropWhile_append_of_forall (List.all_eq_true.mp blank)]
    exact Option.isNone_iff_eq_none.mp none
  · have kept : literal.dropWhile Text.isBlank ≠ [] := Text.dropWhile_ne_nil blank
    rw [dropWhile_append_of_exists kept]
    exact drop?_of_refuses refused _

/-- Whether pieces hold at no single line in the place of a slot: neither the line behind it
refuses them, when the slot is blank, nor what they ask of the second line. -/
def barsLine (pieces : List AnchorPiece) (slot : Slot) (last : Bool) : Bool :=
  slot.next.head? == some '\n' && refusesAt pieces slot.next.tail last &&
    (afterLine? pieces).any fun later => refusesAt later slot.next.tail last

/-- One that a slot bars is not found in the line of that slot. -/
theorem drop?_of_barsLine {filled : Filled} (barred : barsLine pieces filled.1 row.isEmpty)
    (single : '\n' ∉ filled.2) :
    drop? pieces ((document (filled :: row)).dropWhile Text.isBlank) = none := by
  obtain ⟨slot, value⟩ := filled
  obtain ⟨⟨begins, blankLine⟩, nextLine⟩ : (slot.next.head? = some '\n' ∧
      refusesAt pieces slot.next.tail row.isEmpty) ∧
        ∃ later, afterLine? pieces = some later ∧ refusesAt later slot.next.tail row.isEmpty := by
    simpa [barsLine, Option.any_eq_true] using barred
  obtain ⟨later, behindLine, refused⟩ := nextLine
  have shape : document ((slot, value) :: row) =
      value ++ '\n' :: (slot.next.tail ++ document row) := by
    have split := List.cons_head?_tail begins
    change (value ++ slot.next) ++ document row = _
    rw [List.append_assoc, ← List.cons_append, split]
  rw [shape]
  by_cases blank : Text.isAllBlank value
  · rw [dropWhile_append_of_forall (List.all_eq_true.mp blank),
      List.dropWhile_cons_of_pos (by decide)]
    exact drop?_of_refusesAt blankLine
  · have kept : value.dropWhile Text.isBlank ≠ [] := Text.dropWhile_ne_nil blank
    rw [dropWhile_append_of_exists kept]
    refine drop?_line behindLine (fun feed => single ?_) (drop?_of_refusesAt refused)
    exact (List.dropWhile_suffix Text.isBlank).subset feed

/-- Whether no line feed of a literal and the slots behind it is followed by pieces, whatever
single lines fill the slots. -/
def bars (pieces : List AnchorPiece) (literal : Text) : List Slot → Bool
  | [] => barsIn pieces literal && ('\n' ∉ blankEnd literal || (drop? pieces []).isNone)
  | slot :: slots =>
    barsIn pieces literal && ('\n' ∉ blankEnd literal || barsLine pieces slot slots.isEmpty) &&
      bars pieces slot.next slots

/-- One that is barred is away from the whole document. -/
theorem isAway_of_bars {literal : Text} (barred : bars pieces literal (row.map Prod.fst))
    (single : ∀ filled ∈ row, '\n' ∉ filled.2) :
    IsAway pieces (literal ++ document row) [] := by
  induction row generalizing literal with
  | nil =>
      obtain ⟨inside, ends⟩ := Bool.and_eq_true_iff.mp barred
      refine (isAway_of_refuses inside fun feed => ?_).append (isAway_of_single List.not_mem_nil _)
      simpa [feed, document] using ends
  | cons filled row inductionHypothesis =>
      obtain ⟨singleHere, single⟩ := List.forall_mem_cons.mp single
      rw [List.map_cons, bars] at barred
      obtain ⟨⟨inside, ends⟩, later⟩ := by simpa only [Bool.and_eq_true] using barred
      refine (isAway_of_refuses inside fun feed => ?_).append ?_
      · rw [List.append_nil]
        have barredHere : barsLine pieces filled.1 row.isEmpty := by simpa [feed] using ends
        exact drop?_of_barsLine barredHere singleHere
      · have text : document (filled :: row) = filled.2 ++ (filled.1.next ++ document row) := by
          simp [document, Filled.text]
        rw [text]
        exact (isAway_of_single singleHere _).append (inductionHypothesis later single)

/-- A blank slot alone on its line strands the slot behind it: the literal in front takes the
line feed that the next one needs. -/
theorem captures_stranded (feed : '\n' ∈ blankEnd before) (blank : Text.isAllBlank value)
    (opens : '\n' ∈ next.takeWhile Text.isBlank) (solid : ¬ Text.isAllBlank next)
    (away : IsAway (laterPieces (runs (next.dropWhile Text.isBlank)))
      (next.dropWhile Text.isBlank ++ rest) []) :
    Extraction.captures true (behind before (value ++ (next ++ rest)))
        (.slot path :: .literal next :: segments) =
      ⟨path, none⟩ :: Extraction.captures false (next.dropWhile Text.isBlank ++ rest) segments := by
  have present : blankEnd before ≠ [] := List.ne_nil_of_mem feed
  have kept : next.dropWhile Text.isBlank ≠ [] := Text.dropWhile_ne_nil solid
  have taken : behind before (value ++ (next ++ rest)) = next.dropWhile Text.isBlank ++ rest := by
    rw [behind, if_neg present, if_pos feed,
      dropWhile_append_of_forall (List.all_eq_true.mp blank), dropWhile_append_of_exists kept]
  rw [taken, Extraction.captures, ofLiteral_of_newline opens, cutAt?_newline_eq_none away]

/-- Whether a slot alone on its line strands the one behind it whenever it is blank, whatever
single lines fill the slots behind it. -/
def strands (before : Text) (slot : Slot) (slots : List Slot) : Bool :=
  '\n' ∈ blankEnd before && '\n' ∈ slot.next.takeWhile Text.isBlank &&
    !Text.isAllBlank slot.next &&
      bars (laterPieces (runs (slot.next.dropWhile Text.isBlank)))
        (slot.next.dropWhile Text.isBlank) slots

/-- A blank value in a stranded slot is missed, and all behind it is read without its literal. -/
theorem reading_of_strands {slot : Slot} (stranded : strands before slot (row.map Prod.fst))
    (blank : Text.isAllBlank value) (single : ∀ filled ∈ row, '\n' ∉ filled.2) :
    reading before ((slot, value) :: row) =
      ⟨slot.path, none⟩ ::
        Extraction.captures false (slot.next.dropWhile Text.isBlank ++ document row)
          (Extraction.dropBlankEnd (row.flatMap fun filled => filled.1.segments)) := by
  simp only [strands, Bool.and_eq_true, decide_eq_true_eq, Bool.not_eq_true'] at stranded
  obtain ⟨⟨⟨feed, opens⟩, solid⟩, barred⟩ := stranded
  have inner : ¬ (row.flatMap (fun filled => filled.1.segments) = [] ∧
      Text.isAllBlank slot.next) := by
    simp [solid]
  have text : document ((slot, value) :: row) = value ++ (slot.next ++ document row) := by
    simp [document, Filled.text]
  rw [reading, text, List.flatMap_cons]
  refine (congrArg _ (Extraction.dropBlankEnd_slot slot.path inner)).trans ?_
  exact captures_stranded feed blank opens (by simp [solid]) (isAway_of_bars barred single)

/-- Whether the literal behind a stranded slot that is empty is found again behind `tail`, what
is left of the literal that was missed. -/
def resumes (tail : Text) (slot : Slot) : Bool :=
  '\n' ∈ slot.next.takeWhile Text.isBlank && '\n' ∉ blankEnd (Text.trimEnd tail) &&
    barsIn (laterPieces (runs (slot.next.dropWhile Text.isBlank))) (Text.trimEnd tail)

/-- Behind the literal that is found again the reading goes on. -/
theorem captures_of_resumes {slot : Slot} {tail : Text} (resumed : resumes tail slot)
    (plain : IsPlain slot.next) (present : row ≠ []) :
    Extraction.captures false (tail ++ document ((slot, []) :: row))
        (Extraction.dropBlankEnd
          (((slot, []) :: row).flatMap fun filled => filled.1.segments)) =
      ⟨slot.path, none⟩ :: reading slot.next row := by
  simp only [resumes, Bool.and_eq_true, decide_eq_true_eq] at resumed
  obtain ⟨⟨opens, inLine⟩, barred⟩ := resumed
  have own := drop?_ofLiteral plain (document row)
  rw [ofLiteral_of_newline opens] at own
  have found := cutAt?_newline
    (isAway_of_refuses barred fun feed => absurd feed inLine) own
  have rest : row.flatMap (fun filled => filled.1.segments) ≠ [] := by
    obtain ⟨filled, later, rfl⟩ := List.exists_cons_of_ne_nil present
    simp [segments]
  have inner : ¬ (row.flatMap (fun filled => filled.1.segments) = [] ∧
      Text.isAllBlank slot.next) := fun last => rest last.1
  have text : document ((slot, []) :: row) = slot.next ++ document row := by
    simp [document, Filled.text]
  rw [text, List.flatMap_cons]
  refine (congrArg _ (Extraction.dropBlankEnd_slot slot.path inner)).trans ?_
  rw [Extraction.captures, ofLiteral_of_newline opens, found]
  rfl

end Slot

end Issuebook
