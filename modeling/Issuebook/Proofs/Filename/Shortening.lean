import Issuebook.Proofs.Filename.Rendering
import Mathlib.Algebra.Order.BigOperators.Group.List
import Mathlib.Tactic.Linarith

/-!
# Shortening names

A name that is too long gets a shorter title. What the name is too long is taken from the first
title, and what is left of that stands in the place of every title. So the name fits when no title
is shown shorter than the first, and otherwise exactly when the shorter title fits as often as there
are titles: `apply_isShort_iff`.
-/

namespace Issuebook

namespace Pattern

variable {pattern text : Text} {position skip : Nat} {previous : Option Char} {pieces : List Piece}

/-- The literals of a pattern are not empty. -/
theorem literal_ne_nil_of_scan (made : scan pattern position previous skip text = .ok pieces) :
    .literal [] ∉ pieces := by
  induction text generalizing position previous skip pieces with
  | nil =>
      unfold scan at made
      obtain rfl := Except.ok.inj made
      exact List.not_mem_nil
  | cons char text inductionHypothesis =>
      cases skip with
      | succ skip =>
          rw [scan] at made
          exact inductionHypothesis made
      | zero =>
          rw [scan] at made
          split_ifs at made
          · split at made
            · cases made
            · split_ifs at made
              obtain ⟨later, scanned, rfl⟩ := Fault.map_eq_ok.mp made
              exact List.not_mem_cons_of_ne_of_not_mem Piece.noConfusion
                (inductionHypothesis scanned)
          · obtain ⟨later, scanned, rfl⟩ := Fault.map_eq_ok.mp made
            have solid := inductionHypothesis scanned
            unfold consLiteral
            split
            · exact List.not_mem_cons_of_ne_of_not_mem (by simp)
                (List.not_mem_of_not_mem_cons solid)
            · exact List.not_mem_cons_of_ne_of_not_mem (by simp) solid

end Pattern

namespace Filename

variable {today : Date} {issue : Issue} {pieces : List Piece} {values others : Text → Shape → Text}
  {title text literal value : Text} {shape : Shape} {shown shownOther : Nat}

/-! ## Names with other values -/

/-- The characters of the values that pieces show. -/
def valuesLength (values : Text → Shape → Text) : List Piece → Nat
  | [] => 0
  | .literal _ :: pieces => valuesLength values pieces
  | .variable name shape :: pieces => (values name shape).length + valuesLength values pieces

/-- Two texts end with the same literal, at their beginning or behind something else. -/
def EndAlike (one other : Text) : Prop :=
  ∃ front frontOther literal, one = front ++ literal ∧ other = frontOther ++ literal ∧
    (front = [] ↔ frontOther = []) ∧ (literal = [] → front = [])

/-- Texts that end alike are both empty, or have a common end with something in front of both or
neither. -/
theorem EndAlike.cases {one other : Text} (alike : EndAlike one other) :
    (one = [] ∧ other = []) ∨ ∃ front frontOther rest last, one = front ++ rest ++ [last] ∧
      other = frontOther ++ rest ++ [last] ∧ (front = [] ↔ frontOther = []) := by
  obtain ⟨front, frontOther, literal, rfl, rfl, same, start⟩ := alike
  rcases List.eq_nil_or_concat literal with rfl | ⟨rest, last, rfl⟩
  · have empty := start rfl
    exact .inl ⟨by rw [empty]; rfl, by rw [same.mp empty]; rfl⟩
  · exact .inr ⟨front, frontOther, rest, last, by simp, by simp, same⟩

/-- Two names under way that differ in the characters of their values only; so far they show
values of `shown` and of `shownOther` characters. -/
structure Progress.Alike (shown shownOther : Nat) (one other : Progress) : Prop where
  /-- A delimiter is dropped next in both or in neither. -/
  drops : one.dropsDelimiter = other.dropsDelimiter
  /-- A literal comes last in both or in neither. -/
  after : one.afterLiteral = other.afterLiteral
  /-- Both are empty, or neither is. -/
  empty : one.rendered = [] ↔ other.rendered = []
  /-- A delimiter is only dropped at the beginning. -/
  start : one.dropsDelimiter → one.rendered = []
  /-- Behind a literal both end with it. -/
  ends : one.afterLiteral → EndAlike one.rendered other.rendered
  /-- The other characters are as many in both. -/
  balance : one.rendered.length + shownOther = other.rendered.length + shown

namespace Progress.Alike

variable {one other : Progress}

/-- A literal keeps two runs alike. -/
theorem addLiteral (alike : Alike shown shownOther one other) (solid : literal ≠ []) :
    Alike shown shownOther (one.addLiteral literal) (other.addLiteral literal) := by
  obtain ⟨drops, -, empty, start, -, balance⟩ := alike
  unfold Progress.addLiteral
  rw [← drops]
  dsimp only
  set kept := if one.dropsDelimiter && literal.head?.any isDelimiter then literal.tail else literal
    with same
  have whole : kept = [] → one.rendered = [] := by
    intro nothing
    by_cases dropped : one.dropsDelimiter
    · exact start dropped
    · rw [if_neg (by simp [dropped])] at same
      exact absurd (same.symm.trans nothing) solid
  exact {
    drops := rfl
    after := rfl
    empty := by rw [List.append_eq_nil_iff, List.append_eq_nil_iff, empty]
    start := fun dropped => nomatch dropped
    ends := fun _ => ⟨_, _, kept, rfl, rfl, empty, whole⟩
    balance := by
      rw [List.length_append, List.length_append]
      omega }

/-- Nothing is taken back in both. -/
theorem keep (alike : Alike shown shownOther one other) :
    Alike shown shownOther ⟨one.rendered, one.dropsDelimiter || one.rendered.isEmpty, false⟩
      ⟨other.rendered, other.dropsDelimiter || other.rendered.isEmpty, false⟩ where
  drops := by
    have sameEmpty : one.rendered.isEmpty = other.rendered.isEmpty := by
      rw [Bool.eq_iff_iff, List.isEmpty_iff, List.isEmpty_iff]
      exact alike.empty
    rw [alike.drops, sameEmpty]
  after := rfl
  empty := alike.empty
  start dropped := by
    rcases Bool.or_eq_true_iff.mp dropped with before | empty
    · exact alike.start before
    · exact List.isEmpty_iff.mp empty
  ends impossible := nomatch impossible
  balance := alike.balance

/-- The last character of a literal is taken back in both. -/
theorem takeBack (alike : Alike shown shownOther one other) {front frontOther rest : Text}
    {last : Char} (whole : one.rendered = front ++ rest ++ [last])
    (wholeOther : other.rendered = frontOther ++ rest ++ [last])
    (same : front = [] ↔ frontOther = []) :
    Alike shown shownOther ⟨one.rendered.dropLast, one.dropsDelimiter, false⟩
      ⟨other.rendered.dropLast, other.dropsDelimiter, false⟩ where
  drops := alike.drops
  after := rfl
  empty := by
    rw [whole, wholeOther, List.dropLast_concat, List.dropLast_concat, List.append_eq_nil_iff,
      List.append_eq_nil_iff, same]
  start dropped := by
    dsimp only at dropped ⊢
    rw [alike.start dropped]
    rfl
  ends impossible := nomatch impossible
  balance := by
    have balance := alike.balance
    simp only [whole, wholeOther, List.length_append, List.length_singleton] at balance
    dsimp only
    rw [whole, wholeOther, List.dropLast_concat, List.dropLast_concat, List.length_append,
      List.length_append]
    omega

/-- Without a value the same delimiter is taken back in both, or nothing is. -/
theorem addNothing (alike : Alike shown shownOther one other) :
    Alike shown shownOther (one.addValue []) (other.addValue []) := by
  rw [Progress.addValue_nil, Progress.addValue_nil, ← alike.after]
  by_cases behind : one.afterLiteral
  · rcases (alike.ends behind).cases with ⟨empty, emptyOther⟩ |
      ⟨front, frontOther, rest, last, whole, wholeOther, same⟩
    · rw [empty, emptyOther]
      simpa [empty, emptyOther] using alike.keep
    · have lasts : other.rendered.getLast? = one.rendered.getLast? := by
        rw [whole, wholeOther, List.getLast?_concat, List.getLast?_concat]
      rw [lasts]
      split_ifs
      · exact alike.takeBack whole wholeOther same
      · exact alike.keep
  · rw [if_neg (by simp [behind]), if_neg (by simp [behind])]
    exact alike.keep

/-- So do values of which both are empty or none is. -/
theorem addValue {value valueOther : Text} (alike : Alike shown shownOther one other)
    (same : value = [] ↔ valueOther = []) :
    Alike (shown + value.length) (shownOther + valueOther.length) (one.addValue value)
      (other.addValue valueOther) := by
  by_cases nothing : value = []
  · rw [nothing, same.mp nothing]
    exact alike.addNothing
  · have balance := alike.balance
    rw [Progress.addValue_of_ne_nil nothing, Progress.addValue_of_ne_nil (same.not.mp nothing)]
    exact {
      drops := rfl
      after := rfl
      empty := by
        rw [List.append_eq_nil_iff, List.append_eq_nil_iff]
        exact iff_of_false (fun empty => nothing empty.2) fun empty => same.not.mp nothing empty.2
      start := fun impossible => nomatch impossible
      ends := fun impossible => nomatch impossible
      balance := by
        rw [List.length_append, List.length_append]
        omega }

/-- So do all pieces of a pattern. -/
theorem foldl (solid : .literal [] ∉ pieces)
    (same : ∀ name shape, .variable name shape ∈ pieces →
      (values name shape = [] ↔ others name shape = []))
    (alike : Alike shown shownOther one other) :
    Alike (shown + valuesLength values pieces) (shownOther + valuesLength others pieces)
      (pieces.foldl (Progress.add values) one) (pieces.foldl (Progress.add others) other) := by
  induction pieces generalizing shown shownOther one other with
  | nil => exact alike
  | cons piece pieces inductionHypothesis =>
      obtain ⟨here, rest⟩ := List.ne_and_not_mem_of_not_mem_cons solid
      have later : ∀ name shape, .variable name shape ∈ pieces →
          (values name shape = [] ↔ others name shape = []) :=
        fun name shape listed => same name shape (List.mem_cons_of_mem _ listed)
      rcases piece with literal | ⟨name, shape⟩
      · refine inductionHypothesis rest later (alike.addLiteral ?_)
        rintro rfl
        exact here rfl
      · rw [valuesLength, valuesLength, ← Nat.add_assoc, ← Nat.add_assoc]
        exact inductionHypothesis rest later (alike.addValue (same name shape List.mem_cons_self))

end Progress.Alike

/-- Names whose variables are empty in both or in neither are as long as their values. -/
theorem length_assemble (solid : .literal [] ∉ pieces)
    (same : ∀ name shape, .variable name shape ∈ pieces →
      (values name shape = [] ↔ others name shape = [])) :
    (assemble values pieces).length + valuesLength others pieces =
      (assemble others pieces).length + valuesLength values pieces := by
  have start : Progress.Alike 0 0 .start .start :=
    { drops := rfl
      after := rfl
      empty := Iff.rfl
      start := fun _ => rfl
      ends := fun impossible => nomatch impossible
      balance := rfl }
  have balance := (start.foldl solid same).balance
  rwa [Nat.zero_add, Nat.zero_add] at balance

/-! ## Titles -/

/-- The shapes of the titles among pieces. -/
def titleShapes (pieces : List Piece) : List Shape :=
  pieces.filterMap fun piece =>
    match piece with
    | .variable name shape => if name = ("title" : Text) then some shape else none
    | .literal _ => none

/-- The shape that the program looks for is the first shape of a title. -/
theorem titleShape?_eq (pieces : List Piece) : titleShape? pieces = (titleShapes pieces).head? :=
  (List.head?_filterMap ..).symm

/-- A variable in front adds its shape if it is the title. -/
theorem titleShapes_variable (name : Text) (shape : Shape) (pieces : List Piece) :
    titleShapes (.variable name shape :: pieces) =
      if name = ("title" : Text) then shape :: titleShapes pieces else titleShapes pieces := by
  unfold titleShapes
  split_ifs with named
  · exact List.filterMap_cons_some (if_pos named)
  · exact List.filterMap_cons_none (if_neg named)

/-- A shape of a title is that of a variable. -/
theorem mem_titleShapes :
    shape ∈ titleShapes pieces ↔ .variable ("title" : Text) shape ∈ pieces := by
  unfold titleShapes
  rw [List.mem_filterMap]
  constructor
  · rintro ⟨literal | ⟨name, found⟩, listed, titled⟩
    · cases titled
    · dsimp only at titled
      split_ifs at titled with named
      rwa [← named, ← Option.some.inj titled]
  · exact fun listed => ⟨_, listed, rfl⟩

/-- The characters of the titles that pieces show. -/
def titlesLength (values : Text → Shape → Text) (pieces : List Piece) : Nat :=
  ((titleShapes pieces).map fun shape => (values ("title" : Text) shape).length).sum

/-- Values that differ in titles only are as long as their titles. -/
theorem valuesLength_add_titlesLength (pieces : List Piece)
    (same : ∀ name shape, name ≠ ("title" : Text) → values name shape = others name shape) :
    valuesLength values pieces + titlesLength others pieces =
      valuesLength others pieces + titlesLength values pieces := by
  unfold titlesLength
  induction pieces with
  | nil => rfl
  | cons piece pieces inductionHypothesis =>
      rcases piece with literal | ⟨name, shape⟩
      · exact inductionHypothesis
      · rw [valuesLength, valuesLength, titleShapes_variable]
        split_ifs with named
        · rw [List.map_cons, List.map_cons, List.sum_cons, List.sum_cons, named]
          omega
        · rw [same name shape named]
          omega

/-- Names that differ in their titles only are as long as their titles, where a title is empty in
both or in neither. -/
theorem length_assemble_add_titlesLength (solid : .literal [] ∉ pieces)
    (same : ∀ name shape, name ≠ ("title" : Text) → values name shape = others name shape)
    (filled : ∀ shape ∈ titleShapes pieces,
      (values ("title" : Text) shape = [] ↔ others ("title" : Text) shape = [])) :
    (assemble values pieces).length + titlesLength others pieces =
      (assemble others pieces).length + titlesLength values pieces := by
  have lengths := valuesLength_add_titlesLength pieces same
  have names := length_assemble solid fun name shape listed => by
    by_cases named : name = ("title" : Text)
    · subst named
      exact filled shape (mem_titleShapes.mpr listed)
    · rw [same name shape named]
  omega

/-- With another title, the title is that one. -/
theorem valuesWithTitle_title (title : Text) (shape : Shape) :
    valuesWithTitle today issue title ("title" : Text) shape = title :=
  if_pos rfl

/-- All other values stay. -/
theorem valuesWithTitle_of_ne {name : Text} (other : name ≠ ("title" : Text)) (title : Text)
    (shape : Shape) :
    valuesWithTitle today issue title name shape = issueValues today issue name shape :=
  if_neg other

/-- The title of an issue is shown in the shape of its variable. -/
theorem issueValues_title (shape : Shape) :
    issueValues today issue ("title" : Text) shape = shaped shape issue.title :=
  rfl

/-- All titles together are as long as one, times their number. -/
theorem titlesLength_valuesWithTitle (title : Text) (pieces : List Piece) :
    titlesLength (valuesWithTitle today issue title) pieces =
      (titleShapes pieces).length * title.length := by
  simp only [titlesLength, valuesWithTitle_title, List.map_const', List.sum_replicate_nat]

/-! ## Shorter titles -/

/-- A cut title is empty, or it has room. -/
theorem length_cutAtWord (text : Text) (limit : Int) :
    cutAtWord text limit = [] ∨ ((cutAtWord text limit).length : Int) ≤ limit := by
  unfold cutAtWord
  split_ifs with fits full
  · exact .inr fits
  · exact .inl rfl
  · right
    have trimmed {text : Text} (room : text.length ≤ limit.toNat) :
        ((Text.trimEndBy (fun char => char == ' ' || char == '-') text).length : Int) ≤ limit := by
      have shorter : (Text.trimEndBy (fun char => char == ' ' || char == '-') text).length ≤
          text.length :=
        (List.rdropWhile_prefix _ _).length_le
      omega
    dsimp only
    split
    · split_ifs
      · exact trimmed ((List.length_take_le' _ _).trans (List.length_take_le _ _))
      · exact trimmed (List.length_take_le _ _)
    · exact trimmed (List.length_take_le _ _)

/-- The characters of a name besides its titles, when they are not empty. -/
def frameLength (today : Date) (issue : Issue) (pieces : List Piece) : Int :=
  (assemble (valuesWithTitle today issue ['t']) pieces).length - (titleShapes pieces).length

/-- A name is as long as its frame and its titles. -/
theorem length_assemble_valuesWithTitle (solid : .literal [] ∉ pieces) (filled : title ≠ []) :
    ((assemble (valuesWithTitle today issue title) pieces).length : Int) =
      frameLength today issue pieces + (titleShapes pieces).length * title.length := by
  have lengths : (assemble (valuesWithTitle today issue title) pieces).length +
      titlesLength (valuesWithTitle today issue ['t']) pieces =
        (assemble (valuesWithTitle today issue ['t']) pieces).length +
          titlesLength (valuesWithTitle today issue title) pieces := by
    refine length_assemble_add_titlesLength solid (fun name shape other => ?_) fun shape _ => ?_
    · rw [valuesWithTitle_of_ne other, valuesWithTitle_of_ne other]
    · rw [valuesWithTitle_title, valuesWithTitle_title]
      exact iff_of_false filled (List.cons_ne_nil _ _)
  rw [titlesLength_valuesWithTitle, titlesLength_valuesWithTitle, List.length_singleton,
    Nat.mul_one] at lengths
  unfold frameLength
  rw [← Nat.cast_mul]
  omega

/-- What a name is too long is taken from each title, so it is enough when no title is shown
shorter than the one it was taken from. -/
theorem length_assemble_shortTitle (solid : .literal [] ∉ pieces)
    (listed : shape ∈ titleShapes pieces)
    (least : ∀ other ∈ titleShapes pieces,
      (shaped shape issue.title).length ≤ (shaped other issue.title).length)
    (long : lengthLimit < (assemble (issueValues today issue) pieces).length)
    (left : shortTitle today issue pieces shape ≠ []) :
    (assemble (valuesWithTitle today issue (shortTitle today issue pieces shape)) pieces).length ≤
      lengthLimit := by
  have filled : ∀ other ∈ titleShapes pieces, shaped other issue.title ≠ [] := by
    intro other present empty
    have short := least other present
    rw [empty] at short
    have nothing : shaped shape issue.title = [] :=
      List.length_eq_zero_iff.mp (Nat.le_zero.mp short)
    refine left (List.subset_nil.mp ?_)
    exact nothing ▸ cutAtWord_subset _ _
  have lengths :
      (assemble (valuesWithTitle today issue (shortTitle today issue pieces shape)) pieces).length +
        titlesLength (issueValues today issue) pieces =
          (assemble (issueValues today issue) pieces).length +
            titlesLength (valuesWithTitle today issue (shortTitle today issue pieces shape))
              pieces := by
    refine length_assemble_add_titlesLength solid
      (fun name other different => valuesWithTitle_of_ne different _ other) fun other present => ?_
    rw [valuesWithTitle_title, issueValues_title]
    exact iff_of_false left (filled other present)
  have sum : (titleShapes pieces).length * (shaped shape issue.title).length ≤
      titlesLength (issueValues today issue) pieces := by
    rw [← List.length_map fun other => (issueValues today issue ("title" : Text) other).length]
    exact List.card_nsmul_le_sum _ _ (List.forall_mem_map.mpr least)
  have cut := (length_cutAtWord _ _).resolve_left left
  rw [← shortTitle] at cut
  have count : 1 ≤ (titleShapes pieces).length := List.length_pos_of_mem listed
  rw [titlesLength_valuesWithTitle] at lengths
  zify at lengths sum long count ⊢
  have each := Int.mul_le_mul_of_nonneg_left cut (Int.natCast_nonneg (titleShapes pieces).length)
  have once := Int.mul_le_mul_of_nonneg_right count (Int.sub_nonneg_of_le (Int.le_of_lt long))
  linarith

/-- Without taken names a pattern with a title gives a name, and the whole one where that fits.
Where the name without any title would fit, the one that is given does exactly if the whole one
fits, or nothing is left of the title, or what is left fits as often as there are titles. That is so
when no title is shown shorter than the first. -/
theorem apply_isShort_iff {pattern : Text} (read : Pattern.read pattern = .ok pieces)
    (titled : titleShape? pieces = some shape)
    (bare : (assemble (valuesWithTitle today issue []) pieces).length ≤ lengthLimit) :
    ∃ name, apply today pattern issue [] = .ok name ∧
      ((assemble (issueValues today issue) pieces).length ≤ lengthLimit →
        name = assemble (issueValues today issue) pieces) ∧
      (name.length ≤ lengthLimit ↔
        (assemble (issueValues today issue) pieces).length ≤ lengthLimit ∨
        shortTitle today issue pieces shape = [] ∨
        frameLength today issue pieces +
          (titleShapes pieces).length * (shortTitle today issue pieces shape).length ≤
            lengthLimit) ∧
      ((∀ other ∈ titleShapes pieces,
          (shaped shape issue.title).length ≤ (shaped other issue.title).length) →
        name.length ≤ lengthLimit) := by
  have solid := Pattern.literal_ne_nil_of_scan read
  refine ⟨fit today issue pieces, by rw [apply, read]; rfl, ?_⟩
  rw [fit_eq_assemble]
  unfold shownValues
  rw [titled]
  dsimp only
  split_ifs with fits
  · exact ⟨fun _ => rfl, iff_of_true fits (.inl fits), fun _ => fits⟩
  · refine ⟨fun impossible => absurd impossible fits, ?_, fun least => ?_⟩
    · rw [or_iff_right fits]
      by_cases nothing : shortTitle today issue pieces shape = []
      · rw [nothing]
        exact iff_of_true bare (.inl rfl)
      · rw [or_iff_right nothing, ← length_assemble_valuesWithTitle solid nothing, Int.ofNat_le]
    · by_cases nothing : shortTitle today issue pieces shape = []
      · rwa [nothing]
      · rw [titleShape?_eq] at titled
        exact length_assemble_shortTitle solid (List.mem_of_mem_head? titled) least
          (Nat.lt_of_not_le fits) nothing

/-- An issue whose title repeats a word a number of times. -/
def wordyIssue (word : Text) (times : Nat) : Issue :=
  { (default : Issue) with
    id := "todo-abc"
    title := (List.replicate times word).flatten }

/-- A title in a directory and behind the identifier. -/
def folderPieces : List Piece :=
  [.variable "title" .preserve, .literal "/", .variable "id" .preserve, .literal "-",
   .variable "title" .slugify, .literal ".md"]

/-- A pattern with two titles, cut to be short enough. -/
theorem folderPieces_isShort : Pattern.read "[title]/[id]-[title].md" = .ok folderPieces ∧
    ∃ name, apply ⟨2024, 1, 1⟩ "[title]/[id]-[title].md" (wordyIssue "word " 12) [] = .ok name ∧
      lengthLimit <
        (assemble (issueValues ⟨2024, 1, 1⟩ (wordyIssue "word " 12)) folderPieces).length ∧
      name.length ≤ lengthLimit := by
  have read : Pattern.read "[title]/[id]-[title].md" = .ok folderPieces := by decide +kernel
  have bare : (assemble (valuesWithTitle ⟨2024, 1, 1⟩ (wordyIssue "word " 12) [])
      folderPieces).length ≤ lengthLimit := by
    decide +kernel
  have least : ∀ other ∈ titleShapes folderPieces,
      (shaped .preserve (wordyIssue "word " 12).title).length ≤
        (shaped other (wordyIssue "word " 12).title).length := by
    decide +kernel
  obtain ⟨name, applied, -, -, short⟩ := apply_isShort_iff read rfl bare
  exact ⟨read, name, applied, by decide +kernel, short least⟩

/-- A directory with the slug of a title for its name. -/
def slugPieces : List Piece :=
  [.variable "id" .preserve, .literal "-", .variable "title" .slugify, .literal "/",
   .variable "title" .preserve, .literal ".md"]

/-- Without the slashes between its letters a title is shorter than its slug. What is left of the
slug is too long to stand in the place of both. -/
theorem slashed_not_isShort : Pattern.read "[id]-[title]/[title].md" = .ok slugPieces ∧
    titleShape? slugPieces = some .slugify ∧
    (assemble (valuesWithTitle ⟨2024, 1, 1⟩ (wordyIssue "a/" 40) []) slugPieces).length ≤
      lengthLimit ∧
    (apply ⟨2024, 1, 1⟩ "[id]-[title]/[title].md" (wordyIssue "a/" 40) []).map List.length =
      .ok (lengthLimit + 3) := by
  decide +kernel

end Filename

end Issuebook
