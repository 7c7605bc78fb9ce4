import Issuebook.Proofs.Text.Trimming
import Issuebook.Template.Extraction

/-!
# Anchors at their places

A literal whose white space is spaces, tabs and line feeds matches its own anchor, and what the
anchor leaves is given by the white space at its end (`drop?_ofLiteral`). The main statement is
`cutAt?_ofLiteral`: behind a text that `StaysApart` from the literal, the first place of the
anchor is the place of the literal.
-/

namespace Issuebook.Anchor

variable {char mark : Char} {literal text value rest after : Text} {pieces : List AnchorPiece}

/-- A literal whose white space is spaces, tabs and line feeds. -/
def IsPlain (literal : Text) : Prop :=
  ∀ char ∈ literal, Text.isBlank char → isGapChar char ∨ char = '\n'

instance (literal : Text) : Decidable (IsPlain literal) :=
  inferInstanceAs (Decidable (∀ char ∈ literal, _ → _))

/-- The white space at the end of a literal. -/
def blankEnd (literal : Text) : Text :=
  literal.rtakeWhile Text.isBlank

/-- What the anchor of a literal leaves of a text behind the literal. -/
def behind (literal rest : Text) : Text :=
  if blankEnd literal = [] then rest
  else if '\n' ∈ blankEnd literal then rest.dropWhile Text.isBlank
  else rest.dropWhile isGapChar

/-- The characters of a gap are white space. -/
theorem isBlank_of_isGapChar (gap : isGapChar char) : Text.isBlank char := by
  rcases (by simpa [isGapChar] using gap : char = ' ' ∨ char = '\t') with rfl | rfl <;> decide

/-- Where a text keeps something, what is behind it stays. -/
theorem dropWhile_append_of_exists {drop : Char → Bool} (kept : text.dropWhile drop ≠ [])
    (rest : Text) : (text ++ rest).dropWhile drop = text.dropWhile drop ++ rest := by
  rw [List.dropWhile_append, if_neg (by simpa using kept)]

/-- Where it keeps nothing, dropping goes on behind it. -/
theorem dropWhile_append_of_forall {drop : Char → Bool} (dropped : ∀ char ∈ text, drop char)
    (rest : Text) : (text ++ rest).dropWhile drop = rest.dropWhile drop := by
  rw [List.dropWhile_append, if_pos (by simpa using dropped)]

/-- Where a text is taken whole, taking goes on behind it. -/
theorem takeWhile_append_of_forall {take : Char → Bool} (taken : ∀ char ∈ text, take char)
    (rest : Text) : (text ++ rest).takeWhile take = text ++ rest.takeWhile take := by
  induction text with
  | nil => rfl
  | cons char text inductionHypothesis =>
      obtain ⟨first, later⟩ := List.forall_mem_cons.mp taken
      rw [List.cons_append, List.takeWhile_cons_of_pos first, inductionHypothesis later,
        List.cons_append]

/-- A head is dropped from what it stands in front of. -/
theorem dropHead?_append (head rest : Text) : Text.dropHead? head (head ++ rest) = some rest := by
  induction head with
  | nil => rfl
  | cons char head inductionHypothesis =>
      rw [List.cons_append, Text.dropHead?, if_pos rfl, inductionHypothesis]

/-! ## The white space at the end -/

/-- A text that is not blank has its own white space at the end. -/
theorem blankEnd_append_of_solid (front : Text) (solid : ¬ Text.isAllBlank text) :
    blankEnd (front ++ text) = blankEnd text := by
  induction text using List.reverseRecOn with
  | nil => exact absurd rfl solid
  | append_singleton text last inductionHypothesis =>
      unfold blankEnd at inductionHypothesis ⊢
      rw [← List.append_assoc]
      by_cases blank : Text.isBlank last
      · have rest : ¬ Text.isAllBlank text := fun allBlank => solid (by
          simp only [Text.isAllBlank, List.all_append] at allBlank ⊢
          simp [allBlank, blank])
        rw [List.rtakeWhile_concat_pos _ _ _ blank, List.rtakeWhile_concat_pos _ _ _ blank,
          inductionHypothesis rest]
      · rw [List.rtakeWhile_concat_neg _ _ _ blank, List.rtakeWhile_concat_neg _ _ _ blank]

/-- White space at the end is continued by white space. -/
theorem blankEnd_append_of_blank (front : Text) (blank : Text.isAllBlank text) :
    blankEnd (front ++ text) = blankEnd front ++ text := by
  induction text using List.reverseRecOn with
  | nil => rw [List.append_nil, List.append_nil]
  | append_singleton text last inductionHypothesis =>
      obtain ⟨earlier, final⟩ : Text.isAllBlank text ∧ Text.isBlank last := by
        simpa [Text.isAllBlank] using blank
      unfold blankEnd at inductionHypothesis ⊢
      rw [← List.append_assoc, List.rtakeWhile_concat_pos _ _ _ final,
        inductionHypothesis earlier, List.append_assoc]

/-- White space is all at its end. -/
theorem blankEnd_of_blank (blank : Text.isAllBlank text) : blankEnd text = text := by
  simpa [blankEnd] using blankEnd_append_of_blank [] blank

/-- A text without white space has none at its end. -/
theorem blankEnd_of_solid (solid : ∀ char ∈ text, ¬ Text.isBlank char) : blankEnd text = [] := by
  rw [blankEnd, List.rtakeWhile_eq_nil_iff]
  exact fun present => solid _ (List.getLast_mem present)

/-- Behind no literal everything remains. -/
@[simp] theorem behind_nil (rest : Text) : behind [] rest = rest :=
  rfl

/-- White space alone is taken from the front of what stands behind a literal. -/
theorem trim_behind (literal rest : Text) : Text.trim (behind literal rest) = Text.trim rest := by
  have taken {drop : Char → Bool} (blank : ∀ char, drop char → Text.isBlank char) :
      Text.trim (rest.dropWhile drop) = Text.trim rest := by
    induction rest with
    | nil => rfl
    | cons char rest inductionHypothesis =>
        by_cases dropped : drop char
        · rw [List.dropWhile_cons_of_pos dropped, inductionHypothesis,
            Text.trim_cons_of_blank (blank char dropped)]
        · rw [List.dropWhile_cons_of_neg dropped]
  unfold behind
  split_ifs
  · rfl
  · exact taken fun _ => id
  · exact taken fun _ => isBlank_of_isGapChar

/-- Behind a literal, the end of the text remains. -/
theorem behind_suffix (literal rest : Text) : behind literal rest <:+ rest := by
  unfold behind
  split_ifs
  · exact List.suffix_rfl
  · exact List.dropWhile_suffix _
  · exact List.dropWhile_suffix _

/-- Nothing behind a text is taken when something of the text stays. -/
theorem behind_append_of_exists (kept : behind literal text ≠ []) (rest : Text) :
    behind literal (text ++ rest) = behind literal text ++ rest := by
  unfold behind at kept ⊢
  split_ifs at kept ⊢
  · rfl
  · exact dropWhile_append_of_exists kept rest
  · exact dropWhile_append_of_exists kept rest

/-! ## A literal and its own anchor -/

/-- A text begins with its longest beginning of one kind, white space or not. -/
theorem runs_cons (char : Char) (rest : Text) :
    runs (char :: rest) =
      (char :: rest.takeWhile fun next => Text.isBlank next = Text.isBlank char) ::
        runs (rest.dropWhile fun next => Text.isBlank next = Text.isBlank char) := by
  induction rest generalizing char with
  | nil => rfl
  | cons next rest inductionHypothesis =>
      rw [runs, inductionHypothesis next, consRun]
      by_cases same : Text.isBlank char = Text.isBlank next
      · rw [if_pos same, List.takeWhile_cons_of_pos (by simp [same]),
          List.dropWhile_cons_of_pos (by simp [same]), same]
      · rw [if_neg same, List.takeWhile_cons_of_neg (by simpa using Ne.symm same),
          List.dropWhile_cons_of_neg (by simpa using Ne.symm same), inductionHypothesis next]

/-- A run drops itself, wherever it stands. -/
theorem dropPiece?_pieceOf (inside blank : Bool) {run : Text} (present : run ≠ [])
    (alike : ∀ char ∈ run, Text.isBlank char = blank) (plain : IsPlain run) (rest : Text) :
    dropPiece? (pieceOf inside run) (run ++ rest) = some (behind run rest) := by
  cases blank with
  | false =>
      have solid : Text.isAllBlank run = false := by
        obtain ⟨char, more, rfl⟩ := List.exists_cons_of_ne_nil present
        simp [Text.isAllBlank, alike char (by simp)]
      rw [pieceOf, solid, behind, blankEnd_of_solid fun char place => by simp [alike char place]]
      exact dropHead?_append run rest
  | true =>
      have allBlank : Text.isAllBlank run = true := by
        simpa [Text.isAllBlank] using alike
      rw [pieceOf, allBlank, behind, blankEnd_of_blank allBlank, if_neg present]
      by_cases feed : '\n' ∈ run
      · rw [if_pos feed]
        simp only [Bool.not_true, Bool.false_eq_true, if_false, if_pos feed, dropPiece?]
        rw [takeWhile_append_of_forall alike, dropWhile_append_of_forall alike,
          if_pos (List.mem_append_left _ feed)]
      · have gaps : ∀ char ∈ run, isGapChar char := fun char place =>
          (plain char place (alike char place)).resolve_right fun isFeed => feed (isFeed ▸ place)
        have starts : (run ++ rest).head?.any isGapChar := by
          obtain ⟨first, more, rfl⟩ := List.exists_cons_of_ne_nil present
          exact gaps first (by simp)
        rw [if_neg feed, ← dropWhile_append_of_forall gaps rest]
        cases inside with
        | false => simp [feed, dropPiece?]
        | true => simpa [feed, dropPiece?] using starts

/-- A run in front of another keeps what the other one begins with. -/
theorem behind_run {blank : Bool} {run : Text} (alike : ∀ char ∈ run, Text.isBlank char = blank)
    (other : text.head?.any fun char => Text.isBlank char ≠ blank) : behind run text = text := by
  obtain ⟨first, more, rfl⟩ : ∃ first more, text = first :: more := by
    cases text with
    | nil => simp at other
    | cons first more => exact ⟨first, more, rfl⟩
  have different : Text.isBlank first ≠ blank := by simpa using other
  unfold behind
  cases blank with
  | false => rw [blankEnd_of_solid fun char present => by simp [alike char present], if_pos rfl]
  | true =>
      have noGap : ¬ isGapChar first := fun gap => different (isBlank_of_isGapChar gap)
      split_ifs
      · rfl
      · exact List.dropWhile_cons_of_neg (by simpa using different)
      · exact List.dropWhile_cons_of_neg noGap

/-- The white space at the end of a text does not reach into a run of the other kind before it. -/
theorem blankEnd_append_run {blank : Bool} {run : Text}
    (alike : ∀ char ∈ run, Text.isBlank char = blank)
    (other : text.head?.any fun char => Text.isBlank char ≠ blank) :
    blankEnd (run ++ text) = blankEnd text := by
  cases blank with
  | true =>
      refine blankEnd_append_of_solid run fun allBlank => ?_
      cases text with
      | nil => simp at other
      | cons first more => simp [Text.isAllBlank] at allBlank other; simp [allBlank.1] at other
  | false =>
      by_cases solid : Text.isAllBlank text
      · rw [blankEnd_append_of_blank run solid, blankEnd_of_blank solid,
          blankEnd_of_solid fun char present => by simp [alike char present], List.nil_append]
      · exact blankEnd_append_of_solid run solid

/-- What a text leaves behind it is decided by what it ends with. -/
theorem behind_append_run {blank : Bool} {run : Text}
    (alike : ∀ char ∈ run, Text.isBlank char = blank)
    (other : text.head?.any fun char => Text.isBlank char ≠ blank) (rest : Text) :
    behind (run ++ text) rest = behind text rest := by
  rw [behind, behind, blankEnd_append_run alike other]

/-- The pieces of runs, the first of them first. -/
theorem laterPieces_cons (run : Text) (more : List Text) :
    laterPieces (run :: more) = pieceOf (!more.isEmpty) run :: laterPieces more := by
  cases more <;> rfl

/-- An anchor has a piece for each run of its literal. -/
theorem ofLiteral_of_runs {run : Text} {more : List Text} (shape : runs literal = run :: more) :
    ofLiteral literal = pieceOf more.isEmpty run :: laterPieces more := by
  rw [ofLiteral, shape]
  cases more <;> rfl

/-- The first run of a text and what stands behind it. -/
theorem exists_run (present : text ≠ []) : ∃ blank run more, text = run ++ more ∧ run ≠ [] ∧
    (∀ char ∈ run, Text.isBlank char = blank) ∧ runs text = run :: runs more ∧
    (more = [] ∨ more.head?.any fun char => Text.isBlank char ≠ blank) := by
  obtain ⟨first, rest, rfl⟩ := List.exists_cons_of_ne_nil present
  refine ⟨Text.isBlank first, _, _, ?_, List.cons_ne_nil _ _, ?_, runs_cons first rest, ?_⟩
  · rw [List.cons_append, List.takeWhile_append_dropWhile]
  · intro char place
    rcases List.mem_cons.mp place with rfl | place
    · rfl
    · simpa using List.mem_takeWhile_imp place
  · cases remaining : rest.dropWhile fun next => Text.isBlank next = Text.isBlank first with
    | nil => exact .inl rfl
    | cons next more =>
        have stops := List.head?_dropWhile_not
          (fun next => decide (Text.isBlank next = Text.isBlank first)) rest
        rw [remaining] at stops
        exact .inr (by simpa using stops)

/-- The pieces of the runs of a text, the first of them in either form, drop the text. -/
theorem drop?_runs (inside : Bool) {blank : Bool} {run : Text} (present : run ≠ [])
    (alike : ∀ char ∈ run, Text.isBlank char = blank) (plain : IsPlain run)
    (later : drop? (laterPieces (runs text)) (text ++ rest) = some (behind text rest))
    (other : text = [] ∨ text.head?.any fun char => Text.isBlank char ≠ blank) :
    drop? (pieceOf inside run :: laterPieces (runs text)) (run ++ text ++ rest) =
      some (behind (run ++ text) rest) := by
  rw [drop?, List.append_assoc, dropPiece?_pieceOf inside blank present alike plain,
    Option.bind_some]
  rcases other with rfl | other
  · rw [List.append_nil]
    rfl
  · have stays : behind run (text ++ rest) = text ++ rest := by
      refine behind_run alike ?_
      cases text with
      | nil => simp at other
      | cons first more => simpa using other
    rw [stays, later, behind_append_run alike other]

/-- The parts of a plain text are plain. -/
theorem IsPlain.parts {front : Text} (plain : IsPlain (front ++ text)) :
    IsPlain front ∧ IsPlain text :=
  List.forall_mem_append.mp plain

/-- The pieces of a plain text are found where it stands. -/
theorem drop?_laterPieces (plain : IsPlain text) (rest : Text) :
    drop? (laterPieces (runs text)) (text ++ rest) = some (behind text rest) := by
  induction measured : text.length using Nat.strong_induction_on generalizing text with
  | _ size inductionHypothesis =>
      by_cases present : text = []
      · subst present
        rfl
      · obtain ⟨blank, run, more, rfl, some, alike, shape, other⟩ := exists_run present
        have shorter : more.length < size := by
          have := List.length_pos_of_ne_nil some
          rw [← measured, List.length_append]
          omega
        have later := inductionHypothesis _ shorter plain.parts.2 rfl
        rw [shape, laterPieces_cons]
        exact drop?_runs _ some alike plain.parts.1 later other

/-- A literal matches its own anchor in front of any text. -/
theorem drop?_ofLiteral (plain : IsPlain literal) (rest : Text) :
    drop? (ofLiteral literal) (literal ++ rest) = some (behind literal rest) := by
  by_cases present : literal = []
  · subst present
    rfl
  · obtain ⟨blank, run, more, rfl, some, alike, shape, other⟩ := exists_run present
    rw [ofLiteral_of_runs shape]
    exact drop?_runs _ some alike plain.parts.1 (drop?_laterPieces plain.parts.2 rest) other

/-! ## The first place of an anchor -/

/-- The first place is where an anchor holds and did not hold before. -/
theorem cutAt?_append {front : Text}
    (absent : ∀ back, back <:+ front → back ≠ [] → drop? pieces (back ++ text) = none)
    (found : drop? pieces text = some after) :
    cutAt? pieces (front ++ text) = some (front, after) := by
  induction front with
  | nil =>
      cases text with
      | nil => simp [cutAt?, found]
      | cons char text => simp [cutAt?, found]
  | cons char front inductionHypothesis =>
      have here := absent (char :: front) List.suffix_rfl (List.cons_ne_nil _ _)
      rw [List.cons_append] at here ⊢
      rw [cutAt?, here]
      simp only [inductionHypothesis fun back ends =>
        absent back (ends.trans (List.suffix_cons _ _)), Option.map_some]

/-- An anchor that is found at no end of a text is not found in it. -/
theorem cutAt?_eq_none (absent : ∀ back, back <:+ text → drop? pieces back = none) :
    cutAt? pieces text = none := by
  induction text with
  | nil => rw [cutAt?, absent [] List.suffix_rfl, Option.map_none]
  | cons char text inductionHypothesis =>
      rw [cutAt?, absent _ List.suffix_rfl]
      simp only [inductionHypothesis fun back ends =>
        absent back (ends.trans (List.suffix_cons _ _)), Option.map_none]

/-- No line feed of a text is followed by the pieces, in front of `rest` and behind any further
white space. -/
def IsAway (pieces : List AnchorPiece) (text rest : Text) : Prop :=
  ∀ front back, text = front ++ '\n' :: back →
    drop? pieces ((back ++ rest).dropWhile Text.isBlank) = none

/-- An anchor that begins a line is away from a text without line feeds. -/
theorem isAway_of_single (single : '\n' ∉ text) (rest : Text) : IsAway pieces text rest := by
  rintro front back rfl
  simp at single

/-- It is away from the end of a text that it is away from. -/
theorem IsAway.of_suffix (away : IsAway pieces text rest) {back : Text} (ends : back <:+ text) :
    IsAway pieces back rest := by
  obtain ⟨front, rfl⟩ := ends
  rintro earlier later rfl
  exact away (front ++ earlier) later (by simp)

/-- A line feed is found in white space that has one, and all of that is dropped. -/
theorem drop?_newline_eq_some : drop? (.newline :: pieces) text = some after ↔
    '\n' ∈ text.takeWhile Text.isBlank ∧
      drop? pieces (text.dropWhile Text.isBlank) = some after := by
  rw [drop?, dropPiece?]
  split_ifs with feed <;> simp [feed]

/-- An anchor that begins with a line feed holds where a line feed is followed by the others. -/
theorem exists_of_drop?_newline (found : drop? (.newline :: pieces) text = some after) :
    ∃ front back, text = front ++ '\n' :: back ∧ Text.isAllBlank front ∧
      drop? pieces (back.dropWhile Text.isBlank) = some after := by
  obtain ⟨feed, found⟩ := drop?_newline_eq_some.mp found
  obtain ⟨front, back, split⟩ := List.append_of_mem feed
  have blank : ∀ char ∈ front ++ '\n' :: back, Text.isBlank char := by
    rw [← split]
    exact fun _ => List.mem_takeWhile_imp
  refine ⟨front, back ++ text.dropWhile Text.isBlank, ?_, ?_, ?_⟩
  · rw [← List.cons_append, ← List.append_assoc, ← split, List.takeWhile_append_dropWhile]
  · exact List.all_eq_true.mpr fun char place => blank char (List.mem_append_left _ place)
  · rw [dropWhile_append_of_forall fun char place => blank char (by simp [place]),
      List.dropWhile_idempotent]
    exact found

/-- An anchor that begins with a line feed is missed in a text that is away from the others. -/
theorem cutAt?_newline_eq_none (away : IsAway pieces text []) :
    cutAt? (.newline :: pieces) text = none := by
  refine cutAt?_eq_none fun back ends => ?_
  cases found : drop? (.newline :: pieces) back with
  | none => rfl
  | some after =>
      obtain ⟨front, later, rfl, -, follows⟩ := exists_of_drop?_newline found
      have missed := away.of_suffix ends front later rfl
      rw [List.append_nil, follows] at missed
      cases missed

/-- White space in front makes no difference to an anchor that begins with a line feed. -/
theorem drop?_newline_append {blank : Text} (allBlank : Text.isAllBlank blank)
    (found : drop? (.newline :: pieces) text = some after) :
    drop? (.newline :: pieces) (blank ++ text) = some after := by
  have each : ∀ char ∈ blank, Text.isBlank char := List.all_eq_true.mp allBlank
  obtain ⟨feed, found⟩ := drop?_newline_eq_some.mp found
  rw [drop?_newline_eq_some, takeWhile_append_of_forall each, dropWhile_append_of_forall each]
  exact ⟨List.mem_append_right _ feed, found⟩

/-- What a trimmed text ends with is not white space. -/
theorem solid_of_suffix_trimEnd {back : Text} (ends : back <:+ Text.trimEnd value)
    (present : back ≠ []) : ¬ Text.isAllBlank back := by
  intro allBlank
  have trimmed : Text.trimEnd value ≠ [] := fun gone =>
    present (List.suffix_nil.mp (gone ▸ ends))
  refine List.rdropWhile_last_not Text.isBlank value trimmed ?_
  have last : (Text.trimEnd value).getLast trimmed = back.getLast present :=
    (ends.getLast present).symm
  exact (congrArg Text.isBlank last).trans
    (List.all_eq_true.mp allBlank _ (List.getLast_mem present))

/-- Behind a text that is away from the other pieces, the first place of an anchor that begins
with a line feed takes the white space at the end of the text with it. -/
theorem cutAt?_newline (away : IsAway pieces (Text.trimEnd value) (blankEnd value ++ text))
    (found : drop? (.newline :: pieces) text = some after) :
    cutAt? (.newline :: pieces) (value ++ text) = some (Text.trimEnd value, after) := by
  have blank : Text.isAllBlank (blankEnd value) :=
    List.all_eq_true.mpr fun _ => List.mem_rtakeWhile_imp
  have parts : value = Text.trimEnd value ++ blankEnd value :=
    (List.rdropWhile_append_rtakeWhile).symm
  have shape : value ++ text = Text.trimEnd value ++ (blankEnd value ++ text) := by
    rw [← List.append_assoc, ← parts]
  rw [shape]
  refine cutAt?_append (fun back ends present => ?_) (drop?_newline_append blank found)
  have solid := solid_of_suffix_trimEnd ends present
  cases held : drop? (.newline :: pieces) (back ++ (blankEnd value ++ text)) with
  | none => rfl
  | some other =>
      obtain ⟨front, later, split, clear, follows⟩ := exists_of_drop?_newline held
      rcases List.append_eq_append_iff.mp split with ⟨covered, rfl, -⟩ | ⟨inner, rfl, behind⟩
      · refine absurd (List.all_eq_true.mpr fun char place => ?_) solid
        exact List.all_eq_true.mp clear char (List.mem_append_left _ place)
      · cases inner with
        | nil => exact absurd clear (by simpa using solid)
        | cons feed inner =>
            obtain ⟨rfl, rfl⟩ := List.cons.inj behind
            exact ((away.of_suffix ends front inner rfl).symm.trans follows).symm

/-! ## Literals behind a value -/

/-- A text that cannot be taken for the literal behind it. Where the literal begins with a line
feed, no line of the text begins with the first character of the literal that is not white
space; where it begins with such a character, the text does not have it. -/
def StaysApart (value literal : Text) : Prop :=
  if '\n' ∈ literal.takeWhile Text.isBlank then
    match literal.dropWhile Text.isBlank with
    | [] => '\n' ∉ value
    | mark :: _ => ∀ front back, value = front ++ '\n' :: back →
        (back.dropWhile Text.isBlank).head? ≠ some mark
  else
    match literal with
    | [] => False
    | mark :: _ => ¬ Text.isBlank mark ∧ mark ∉ value

/-- A text without line feeds stays apart from every literal that begins with one. -/
theorem staysApart_of_single (opens : '\n' ∈ literal.takeWhile Text.isBlank)
    (single : '\n' ∉ value) : StaysApart value literal := by
  unfold StaysApart
  rw [if_pos opens]
  split
  · exact single
  · rintro front back rfl
    simp at single

/-- The end of a value that stays apart from a literal stays apart from it. -/
theorem StaysApart.of_suffix (apart : StaysApart value literal) {back : Text}
    (ends : back <:+ value) : StaysApart back literal := by
  obtain ⟨front, rfl⟩ := ends
  unfold StaysApart at apart ⊢
  split_ifs at apart ⊢
  · split at apart
    · exact fun present => apart (List.mem_append_right _ present)
    · rintro earlier later rfl
      exact apart (front ++ earlier) later (by simp)
  · split at apart
    · exact apart
    · exact ⟨apart.1, fun present => apart.2 (List.mem_append_right _ present)⟩

/-- The anchor of a literal that begins with a line feed. -/
theorem ofLiteral_of_newline (opens : '\n' ∈ literal.takeWhile Text.isBlank) :
    ofLiteral literal = .newline :: laterPieces (runs (literal.dropWhile Text.isBlank)) := by
  obtain ⟨first, rest, rfl⟩ : ∃ first rest, literal = first :: rest := by
    cases literal with
    | nil => cases opens
    | cons first rest => exact ⟨first, rest, rfl⟩
  have blank : Text.isBlank first := by
    by_contra solid
    rw [List.takeWhile_cons_of_neg solid] at opens
    cases opens
  have alike : (fun next => decide (Text.isBlank next = Text.isBlank first)) = Text.isBlank := by
    funext next
    simp [blank]
  rw [List.takeWhile_cons_of_pos blank] at opens
  have piece (inside : Bool) :
      pieceOf inside (first :: rest.takeWhile Text.isBlank) = .newline := by
    have allBlank : Text.isAllBlank (first :: rest.takeWhile Text.isBlank) := by
      rw [Text.isAllBlank, List.all_cons, blank, Bool.true_and]
      exact List.all_eq_true.mpr fun _ => List.mem_takeWhile_imp
    rw [pieceOf, allBlank, if_neg (by simp), if_pos opens]
  rw [ofLiteral_of_runs (runs_cons first rest), alike, List.dropWhile_cons_of_pos blank, piece]

/-- A run that begins with a solid character is a word. -/
theorem pieceOf_of_solid (solid : ¬ Text.isBlank mark) (inside : Bool) (run : Text) :
    pieceOf inside (mark :: run) = .word (mark :: run) := by
  rw [pieceOf, if_pos (by simp [Text.isAllBlank, solid])]

/-- Pieces that begin with a word do not hold where its first character is not. -/
theorem drop?_laterPieces_eq_none (solid : ¬ Text.isBlank mark) (other : text.head? ≠ some mark)
    (rest : Text) : drop? (laterPieces (runs (mark :: rest))) text = none := by
  have dropped (run : Text) : Text.dropHead? (mark :: run) text = none := by
    cases text with
    | nil => rfl
    | cons first more => exact if_neg fun same => other (by rw [same]; rfl)
  rw [runs_cons, laterPieces_cons, pieceOf_of_solid solid, drop?, dropPiece?, dropped,
    Option.bind_none]

/-- A literal that begins with a word has the pieces of its runs. -/
theorem ofLiteral_of_word (solid : ¬ Text.isBlank mark) (rest : Text) :
    ofLiteral (mark :: rest) = laterPieces (runs (mark :: rest)) := by
  rw [ofLiteral_of_runs (runs_cons mark rest), runs_cons, laterPieces_cons,
    pieceOf_of_solid solid, pieceOf_of_solid solid]

/-- Lines that begin otherwise keep a value away from the anchor of a line. -/
theorem isAway_of_lines (solid : ¬ Text.isBlank mark)
    (apart : ∀ front back, value = front ++ '\n' :: back →
      (back.dropWhile Text.isBlank).head? ≠ some mark) (line rest : Text) :
    IsAway (laterPieces (runs (mark :: line))) (Text.trimEnd value) rest := by
  intro front back split
  have ends : '\n' :: back <:+ Text.trimEnd value := ⟨front, split.symm⟩
  have inner : ¬ Text.isAllBlank back := fun allBlank =>
    solid_of_suffix_trimEnd ends (List.cons_ne_nil _ _) (by
      rw [Text.isAllBlank, List.all_cons]
      exact Bool.and_eq_true_iff.mpr ⟨by decide, allBlank⟩)
  have kept : back.dropWhile Text.isBlank ≠ [] := Text.dropWhile_ne_nil inner
  have whole : value = front ++ '\n' :: (back ++ blankEnd value) := by
    rw [← List.cons_append, ← List.append_assoc, ← split]
    exact List.rdropWhile_append_rtakeWhile.symm
  have begins := apart front _ whole
  rw [dropWhile_append_of_exists kept] at begins ⊢
  refine drop?_laterPieces_eq_none solid ?_ line
  rwa [List.head?_append_of_ne_nil _ kept] at begins ⊢

/-- Behind a value that stays apart from it, a literal is where its anchor holds first. -/
theorem cutAt?_ofLiteral (plain : IsPlain literal) (apart : StaysApart value literal)
    (rest : Text) : ∃ before, Text.trim before = Text.trim value ∧
      cutAt? (ofLiteral literal) (value ++ (literal ++ rest)) =
        some (before, behind literal rest) := by
  have own := drop?_ofLiteral plain rest
  unfold StaysApart at apart
  split_ifs at apart with opens
  · have shape := ofLiteral_of_newline opens
    rw [shape] at own ⊢
    refine ⟨Text.trimEnd value, Text.trim_trimEnd value, cutAt?_newline ?_ own⟩
    cases line : literal.dropWhile Text.isBlank with
    | nil =>
        rw [line] at apart
        refine isAway_of_single (fun feed => apart ?_) _
        exact (List.rdropWhile_prefix Text.isBlank (l := value)).subset feed
    | cons mark body =>
        rw [line] at apart
        have solid : ¬ Text.isBlank mark := by
          have stops := List.head?_dropWhile_not Text.isBlank literal
          rw [line] at stops
          simpa using stops
        exact isAway_of_lines solid apart body _
  · cases literal with
    | nil => exact apart.elim
    | cons mark body =>
        refine ⟨value, rfl, cutAt?_append (fun back ends present => ?_) own⟩
        rw [ofLiteral_of_word apart.1]
        refine drop?_laterPieces_eq_none apart.1 ?_ body
        rw [List.head?_append_of_ne_nil _ present]
        exact fun begins => apart.2 (ends.subset (List.mem_of_head? begins))

end Issuebook.Anchor
