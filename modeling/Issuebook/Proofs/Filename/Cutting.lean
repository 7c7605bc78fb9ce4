import Issuebook.Filename.Matching
import Issuebook.Proofs.Entries
import Issuebook.Proofs.Text.Characters
import Issuebook.Proofs.Text.Order

/-!
# Cutting names

A name fits a pattern when it can be cut into parts, one for each piece: a literal is its own part,
at the end in any case of its letters, and a variable has a part of the form of its values, which is
not empty. Matching finds a cut whenever there is one, and of several the one in which the variables
are as short as can be, an earlier variable before a later one: `capture_finds_leastCut`.
-/

namespace Issuebook

namespace Filename

open Text

variable {strict : Bool} {pieces : List Piece} {parts others : List Text}
  {values : List (Text × Text)} {text value after : Text}

/-! ## Cuts -/

/-- Parts of a text that fit pieces, one part for each piece. -/
inductive Fits (strict : Bool) : List Piece → List Text → Prop where
  /-- No pieces have no parts. -/
  | nil : Fits strict [] []
  /-- A literal at the end is fitted by what differs from it in the case of letters alone. -/
  | ending {literal part : Text} (same : foldCase part = foldCase literal) :
      Fits strict [.literal literal] [part]
  /-- Any other literal is its own part. -/
  | literal {literal : Text} {next : Piece} {pieces : List Piece} {parts : List Text}
      (later : Fits strict (next :: pieces) parts) :
      Fits strict (.literal literal :: next :: pieces) (literal :: parts)
  /-- A variable has a part that is not empty and has the form that is asked of its values. -/
  | named {name value : Text} {shape : Shape} {pieces : List Piece} {parts : List Text}
      (present : value ≠ []) (form : accepts strict pieces name value)
      (later : Fits strict pieces parts) :
      Fits strict (.variable name shape :: pieces) (value :: parts)

/-- The values that parts give to the variables among pieces, with the names and in order. -/
def valuesOf : List Piece → List Text → List (Text × Text)
  | .variable name _ :: pieces, part :: parts => (name, part) :: valuesOf pieces parts
  | .literal _ :: pieces, _ :: parts => valuesOf pieces parts
  | _, _ => []

/-- The lengths of the parts of variables, in order. -/
def lengthsOf (pieces : List Piece) (parts : List Text) : List Nat :=
  (valuesOf pieces parts).map fun (_, value) => value.length

/-- A cut of a text into parts that fit pieces. -/
structure IsCut (strict : Bool) (pieces : List Piece) (text : Text) (parts : List Text) :
    Prop where
  /-- Every part fits its piece. -/
  fits : Fits strict pieces parts
  /-- The parts make up the text. -/
  whole : parts.flatten = text

/-- A cut that no other comes before: where the lengths of variables first differ, its own is
smaller. -/
structure IsLeastCut (strict : Bool) (pieces : List Piece) (text : Text) (parts : List Text) :
    Prop extends IsCut strict pieces text parts where
  /-- Its lengths come first. -/
  least : ∀ others, IsCut strict pieces text others →
    lexLe Nat.ble (lengthsOf pieces parts) (lengthsOf pieces others)

/-- Parts are known from the text that they make up and the lengths of the variables. -/
theorem Fits.unique (fits : Fits strict pieces parts) (fitting : Fits strict pieces others)
    (whole : parts.flatten = others.flatten)
    (lengths : lengthsOf pieces parts = lengthsOf pieces others) : parts = others := by
  induction fits generalizing others with
  | nil =>
      cases fitting
      rfl
  | ending =>
      obtain - | - := fitting
      simpa using whole
  | literal later inductionHypothesis =>
      obtain - | - | later' := fitting
      rw [inductionHypothesis later' (List.append_cancel_left whole) lengths]
  | named present form later inductionHypothesis =>
      obtain - | - | - | ⟨-, -, later'⟩ := fitting
      obtain ⟨first, rest⟩ := List.cons.inj lengths
      obtain ⟨rfl, behind⟩ := List.append_inj whole first
      rw [inductionHypothesis later' behind rest]

/-- There is at most one least cut. -/
theorem IsLeastCut.unique (one : IsLeastCut strict pieces text parts)
    (other : IsLeastCut strict pieces text others) : parts = others :=
  one.fits.unique other.fits (one.whole.trans other.whole.symm)
    (lexLe_antisymm isOrder_ble (one.least _ other.toIsCut) (other.least _ one.toIsCut))

/-- No piece cuts the empty text only. -/
theorem isLeastCut_nil (empty : text = []) : IsLeastCut strict [] text [] :=
  ⟨⟨.nil, empty.symm⟩, fun _ _ => rfl⟩

/-- A last literal cuts a text that is the same but for capitals. -/
theorem isLeastCut_ending {literal : Text} (same : foldCase text = foldCase literal) :
    IsLeastCut strict [.literal literal] text [text] :=
  ⟨⟨.ending same, List.append_nil _⟩, fun _ _ => rfl⟩

/-- In front of a least cut a literal makes a least cut. -/
theorem IsLeastCut.cons_literal {next : Piece} {literal : Text}
    (cut : IsLeastCut strict (next :: pieces) after parts) :
    IsLeastCut strict (.literal literal :: next :: pieces) (literal ++ after)
      (literal :: parts) where
  fits := .literal cut.fits
  whole := by rw [List.flatten_cons, cut.whole]
  least others other := by
    obtain ⟨fits, whole⟩ := other
    obtain - | - | later := fits
    exact cut.least _ ⟨later, List.append_cancel_left whole⟩

/-- In front of a least cut a value makes a least cut, if there is no cut with a shorter one. -/
theorem IsLeastCut.cons_named {name : Text} {shape : Shape} (present : value ≠ [])
    (form : accepts strict pieces name value) (cut : IsLeastCut strict pieces after parts)
    (shortest : ∀ shorter others, shorter.length < value.length →
      ¬ IsCut strict (.variable name shape :: pieces) (value ++ after) (shorter :: others)) :
    IsLeastCut strict (.variable name shape :: pieces) (value ++ after) (value :: parts) where
  fits := .named present form cut.fits
  whole := by rw [List.flatten_cons, cut.whole]
  least others other := by
    obtain ⟨fits, whole⟩ := other
    obtain - | - | - | @⟨_, first, _, _, others, present', form', later⟩ := fits
    change lexLe Nat.ble (value.length :: lengthsOf pieces parts)
      (first.length :: lengthsOf pieces others)
    rw [lexLe]
    split_ifs with same
    · obtain ⟨rfl, behind⟩ := List.append_inj whole same.symm
      exact cut.least _ ⟨later, behind⟩
    · rw [Nat.ble_eq]
      by_contra shorter
      exact shortest first others (Nat.lt_of_not_le shorter) ⟨.named present' form' later, whole⟩

/-- A last variable takes all of a text that it accepts. -/
theorem isLeastCut_single {name : Text} {shape : Shape} (present : text ≠ [])
    (form : accepts strict [] name text) :
    IsLeastCut strict [.variable name shape] text [text] := by
  have cut : IsLeastCut strict [.variable name shape] (text ++ []) [text] := by
    refine (isLeastCut_nil rfl).cons_named present form fun shorter others short other => ?_
    obtain ⟨fits, whole⟩ := other
    obtain - | - | - | ⟨-, -, later⟩ := fits
    cases later
    rw [List.flatten_cons, List.flatten_nil, List.append_nil, List.append_nil] at whole
    exact Nat.lt_irrefl _ (whole ▸ short)
  rwa [List.append_nil] at cut

/-! ## Cuts in two -/

/-- The cuts behind a front are all ways to take something more. -/
theorem mem_cutsFrom {front : Text} {cut : Text × Text} :
    cut ∈ cutsFrom front text ↔ ∃ taken, taken ≠ [] ∧ cut.1 = front ++ taken ∧
      text = taken ++ cut.2 := by
  induction text generalizing front with
  | nil =>
      refine iff_of_false List.not_mem_nil ?_
      rintro ⟨taken, present, -, whole⟩
      exact present (List.append_eq_nil_iff.mp whole.symm).1
  | cons char text inductionHypothesis =>
      rw [cutsFrom, List.mem_cons, inductionHypothesis]
      constructor
      · rintro (rfl | ⟨taken, present, first, rfl⟩)
        · exact ⟨[char], List.cons_ne_nil _ _, rfl, rfl⟩
        · exact ⟨char :: taken, List.cons_ne_nil _ _, by simp [first], rfl⟩
      · rintro ⟨taken, present, first, whole⟩
        cases taken with
        | nil => exact absurd rfl present
        | cons other taken =>
            obtain ⟨rfl, rest⟩ := List.cons.inj whole
            by_cases last : taken = []
            · subst last
              exact .inl (Prod.ext first rest.symm)
            · exact .inr ⟨taken, last, by simp [first], rest⟩

/-- The cuts of a text are all its divisions with something in front. -/
theorem mem_cuts : (value, after) ∈ cuts text ↔ value ≠ [] ∧ text = value ++ after := by
  rw [cuts, mem_cutsFrom]
  constructor
  · rintro ⟨taken, present, rfl, whole⟩
    exact ⟨present, whole⟩
  · rintro ⟨present, whole⟩
    exact ⟨value, present, rfl, whole⟩

/-- They are listed by growing length. -/
theorem pairwise_cutsFrom (front text : Text) :
    (cutsFrom front text).Pairwise fun one other => one.1.length < other.1.length := by
  induction text generalizing front with
  | nil => exact List.Pairwise.nil
  | cons char text inductionHypothesis =>
      refine List.Pairwise.cons (fun cut listed => ?_) (inductionHypothesis _)
      obtain ⟨taken, present, longer, -⟩ := mem_cutsFrom.mp listed
      have whole : cut.1.length = (front ++ [char]).length + taken.length := by
        rw [longer, List.length_append]
      exact whole ▸ Nat.lt_add_of_pos_right (List.length_pos_iff.mpr present)

/-- The first cut in two that something is found at has the shortest front of all. -/
theorem of_findSome?_cuts {α : Type} {look : Text × Text → Option α} {found : α}
    (hit : (cuts text).findSome? look = some found) :
    ∃ value after, value ≠ [] ∧ text = value ++ after ∧ look (value, after) = some found ∧
      ∀ shorter rest, shorter ≠ [] → text = shorter ++ rest → shorter.length < value.length →
        look (shorter, rest) = none := by
  obtain ⟨before, ⟨value, after⟩, behind, listed, here, missed⟩ :=
    List.findSome?_eq_some_iff.mp hit
  have cut : (value, after) ∈ cuts text := by simp [listed]
  obtain ⟨present, whole⟩ := mem_cuts.mp cut
  refine ⟨value, after, present, whole, here, fun shorter rest some split short => ?_⟩
  have place : (shorter, rest) ∈ before ++ (value, after) :: behind :=
    listed ▸ mem_cuts.mpr ⟨some, split⟩
  have order := pairwise_cutsFrom [] text
  rw [← cuts, listed, List.pairwise_append, List.pairwise_cons] at order
  rcases List.mem_append.mp place with place | place
  · exact missed _ place
  · rcases List.mem_cons.mp place with same | later
    · rw [(Prod.mk.inj same).1] at short
      exact absurd short (Nat.lt_irrefl _)
    · exact absurd short (Nat.lt_asymm (order.2.1.1 _ later))

/-! ## Matching -/

/-- Pieces are not matched where their literal in front is missing. -/
theorem capture_of_not_canBegin (missing : canBegin pieces text = false) :
    capture strict pieces text = none := by
  rcases pieces with - | ⟨literal | ⟨name, shape⟩, - | ⟨next, pieces⟩⟩
  · cases missing
  · exact if_neg (of_decide_eq_false missing)
  · have absent : dropHead? literal text = none :=
      Option.isNone_iff_eq_none.mp (Option.isSome_eq_false_iff.mp missing)
    rw [capture, absent]
  · cases missing
  · cases missing

/-- The look ahead at a literal passes over no cut that would match. -/
theorem capture_variable (name : Text) (shape : Shape) (next : Piece) (pieces : List Piece) :
    capture strict (.variable name shape :: next :: pieces) text =
      (cuts text).findSome? fun (value, after) =>
        if accepts strict (next :: pieces) name value then
          (capture strict (next :: pieces) after).map fun captured => (name, value) :: captured
        else none := by
  rw [capture]
  refine congrArg (List.findSome? · (cuts text)) (funext fun (value, after) => ?_)
  dsimp only
  cases ahead : canBegin (next :: pieces) after with
  | true => rw [Bool.true_and]
  | false => simp [capture_of_not_canBegin ahead]

/-- Pieces are matched by all parts that fit them. -/
theorem Fits.isSome_capture (fits : Fits strict pieces parts) :
    (capture strict pieces parts.flatten).isSome := by
  induction fits with
  | nil => rfl
  | ending same => simp [capture, same]
  | @literal literal next pieces parts later inductionHypothesis =>
      have dropped : dropHead? literal (literal ++ parts.flatten) = some parts.flatten :=
        dropHead?_eq_some.mpr rfl
      rw [List.flatten_cons, capture, dropped]
      exact inductionHypothesis
  | @named name value shape pieces parts present form later inductionHypothesis =>
      cases pieces with
      | nil =>
          obtain - | - := later
          simp [capture, present, form]
      | cons next pieces =>
          rw [List.flatten_cons, capture_variable, List.findSome?_isSome_iff]
          refine ⟨(value, parts.flatten), mem_cuts.mpr ⟨present, rfl⟩, ?_⟩
          dsimp only
          rw [if_pos form, Option.isSome_map]
          exact inductionHypothesis

/-- What is captured from a text are the values of the least cut. -/
theorem exists_isLeastCut (captured : capture strict pieces text = some values) :
    ∃ parts, IsLeastCut strict pieces text parts ∧ values = valuesOf pieces parts := by
  induction pieces generalizing text values with
  | nil =>
      rw [capture] at captured
      split_ifs at captured with empty
      obtain rfl := Option.some.inj captured
      exact ⟨[], isLeastCut_nil (List.isEmpty_iff.mp empty), rfl⟩
  | cons piece pieces inductionHypothesis =>
      rcases piece with literal | ⟨name, shape⟩ <;> rcases pieces with - | ⟨next, pieces⟩
      · rw [capture] at captured
        split_ifs at captured with same
        obtain rfl := Option.some.inj captured
        exact ⟨[text], isLeastCut_ending same, rfl⟩
      · rw [capture] at captured
        split at captured
        · next after dropped =>
            obtain rfl := dropHead?_eq_some.mp dropped
            obtain ⟨parts, cut, rfl⟩ := inductionHypothesis captured
            exact ⟨literal :: parts, cut.cons_literal, rfl⟩
        · cases captured
      · rw [capture] at captured
        split_ifs at captured with accepted
        obtain rfl := Option.some.inj captured
        obtain ⟨present, form⟩ := Bool.and_eq_true_iff.mp accepted
        exact ⟨[text], isLeastCut_single (by simpa using present) form, rfl⟩
      · rw [capture_variable] at captured
        obtain ⟨value, after, present, rfl, found, missed⟩ := of_findSome?_cuts captured
        dsimp only at found missed
        split_ifs at found with form
        obtain ⟨later, read, rfl⟩ := Option.map_eq_some_iff.mp found
        obtain ⟨parts, cut, rfl⟩ := inductionHypothesis read
        refine ⟨value :: parts, cut.cons_named present form fun shorter others short other => ?_,
          rfl⟩
        -- With a shorter value the rest would have been matched before.
        obtain ⟨fits, whole⟩ := other
        obtain - | - | - | ⟨present, form, later⟩ := fits
        have none := missed shorter others.flatten present whole.symm short
        rw [if_pos form, Option.map_eq_none_iff] at none
        have some := later.isSome_capture
        rw [none] at some
        cases some

/-- Matching finds the least cut: nothing is captured exactly where there is no cut. -/
theorem capture_eq_some_iff : capture strict pieces text = some values ↔
    ∃ parts, IsLeastCut strict pieces text parts ∧ values = valuesOf pieces parts := by
  refine ⟨exists_isLeastCut, ?_⟩
  rintro ⟨parts, cut, rfl⟩
  have found : (capture strict pieces text).isSome := cut.whole ▸ cut.fits.isSome_capture
  obtain ⟨values, captured⟩ := Option.isSome_iff_exists.mp found
  obtain ⟨others, other, rfl⟩ := exists_isLeastCut captured
  rw [captured, cut.unique other]

/-- Nothing is captured exactly when there is no cut. -/
theorem capture_eq_none_iff : capture strict pieces text = none ↔
    ∀ parts, ¬ IsCut strict pieces text parts := by
  constructor
  · intro missed parts cut
    have found := cut.fits.isSome_capture
    rw [cut.whole, missed] at found
    cases found
  · intro uncut
    rw [Option.eq_none_iff_forall_ne_some]
    intro values captured
    obtain ⟨parts, cut, -⟩ := exists_isLeastCut captured
    exact uncut parts cut.toIsCut

/-! ## Identifiers -/

/-- A name has a value exactly when a variable has the name. -/
theorem mem_keys_valuesOf {name : Text} (fits : Fits strict pieces parts) :
    name ∈ Entries.keys (valuesOf pieces parts) ↔ pieces.any (Piece.isNamed name) := by
  induction fits with
  | nil | ending => simp [valuesOf, Entries.keys, Piece.isNamed]
  | literal later inductionHypothesis =>
      rw [valuesOf, inductionHypothesis, List.any_cons (a := Piece.literal _), Piece.isNamed,
        Bool.false_or]
  | @named found _ _ _ _ _ _ later inductionHypothesis =>
      rw [valuesOf, Entries.keys, List.map_cons, List.mem_cons, List.any_cons, Bool.or_eq_true,
        ← inductionHypothesis]
      refine or_congr ?_ Iff.rfl
      rw [Piece.isNamed, beq_iff_eq, eq_comm]

/-- Where a pattern has a variable for identifiers, one is found exactly in what can be cut. -/
theorem captureId_eq_none_iff (named : pieces.any (Piece.isNamed "id")) :
    captureId strict pieces text = none ↔ ∀ parts, ¬ IsCut strict pieces text parts := by
  rw [← capture_eq_none_iff, captureId, Option.bind_eq_none_iff]
  refine ⟨fun missed => ?_, fun missed values captured => absurd captured (by simp [missed])⟩
  rw [Option.eq_none_iff_forall_ne_some]
  intro values captured
  obtain ⟨parts, cut, rfl⟩ := exists_isLeastCut captured
  have present : Entries.has "id" (Entries.ofList (valuesOf pieces parts)) = true :=
    Entries.has_putAll (.inr ((mem_keys_valuesOf cut.fits).mpr named))
  rw [Entries.has, missed _ captured] at present
  cases present

/-- A name has no identifier exactly when the pattern has none, or no cut fits. -/
theorem idOf_eq_none_iff {pattern : Text} (read : Pattern.read pattern = .ok pieces) :
    idOf text pattern = .ok none ↔
      pieces.any (Piece.isNamed "id") = false ∨
        ∀ strict parts, ¬ IsCut strict pieces text parts := by
  rw [idOf, read]
  dsimp only [Except.map]
  cases named : pieces.any (Piece.isNamed "id") with
  | false => exact iff_of_true rfl (.inl rfl)
  | true =>
      rw [if_pos rfl, or_iff_right Bool.true_eq_false.mp, Bool.forall_bool,
        ← captureId_eq_none_iff named, ← captureId_eq_none_iff named]
      cases captureId true pieces text <;> simp

/-- The last value of a variable with a name. -/
def lastValue? (name : Text) (pieces : List Piece) (parts : List Text) : Option Text :=
  Entries.get? name (valuesOf pieces parts).reverse

/-- Matching finds a cut whenever there is one, of several the least, and of a repeated variable
the last value. So no identifier is found in a name exactly when the pattern has no variable for
it, or the name cannot be cut with either form of identifiers. -/
theorem capture_finds_leastCut (pieces : List Piece) (text : Text) :
    (∀ strict, capture strict pieces text = none ↔ ∀ parts, ¬ IsCut strict pieces text parts) ∧
      (∀ strict values, capture strict pieces text = some values ↔
        ∃ parts, IsLeastCut strict pieces text parts ∧ values = valuesOf pieces parts ∧
          ∀ name, (Entries.ofList values).get? name = lastValue? name pieces parts) ∧
      ∀ pattern, Pattern.read pattern = .ok pieces → (idOf text pattern = .ok none ↔
        pieces.any (Piece.isNamed "id") = false ∨
          ∀ strict parts, ¬ IsCut strict pieces text parts) := by
  refine ⟨fun strict => capture_eq_none_iff, fun strict values => ?_,
    fun pattern read => idOf_eq_none_iff read⟩
  rw [capture_eq_some_iff]
  refine exists_congr fun parts => and_congr_right fun cut => ?_
  refine ⟨?_, And.left⟩
  rintro rfl
  exact ⟨rfl, fun name => Entries.get?_ofList _⟩

/-- A pattern with two variables side by side, and one of them twice. -/
def twofoldPieces : List Piece :=
  [.variable "type" .preserve, .variable "id" .preserve, .literal "-", .variable "id" .slugify,
   .literal ".md"]

/-- A pattern with two identifiers takes the second. -/
theorem twofoldPieces_cut : Pattern.read "[type][id]-[id].md" = .ok twofoldPieces ∧
    (∃ parts, IsLeastCut true twofoldPieces "ab-c-d.MD" parts ∧
      lastValue? "id" twofoldPieces parts = some "c-d") ∧
    ∀ strict parts, ¬ IsCut strict twofoldPieces "ab-c-d.txt" parts := by
  have read : Pattern.read "[type][id]-[id].md" = .ok twofoldPieces := by decide +kernel
  obtain ⟨-, found, -⟩ := capture_finds_leastCut twofoldPieces "ab-c-d.MD"
  obtain ⟨-, -, unnamed⟩ := capture_finds_leastCut twofoldPieces "ab-c-d.txt"
  obtain ⟨parts, cut, -, last⟩ :=
    (found true [("type".toList, "a"), ("id".toList, "b"), ("id".toList, "c-d")]).mp
      (by decide +kernel)
  refine ⟨read, ⟨parts, cut, (last "id").symm⟩, ?_⟩
  exact ((unnamed _ read).mp (by decide +kernel)).resolve_left (by decide)

end Filename

end Issuebook
