import Issuebook.Proofs.Filename.Delimiters
import Mathlib.Data.List.Chain

/-!
# Spellings of patterns

A pattern is read without loss: its pieces stand for parts of it that make it up, of a variable only
the case and the white space around its name are settled, and how a variable is spelled gives its
shape. A pattern that cannot be read has a bracket behind a part that can be, and no variable begins
at that bracket. Both together are `read_settles`: every pattern is one or the other.
-/

namespace Issuebook.Pattern

variable {pattern front text rest name written : Text} {position : Nat} {previous : Option Char}
  {char : Char} {piece : Piece} {pieces : List Piece} {shape : Shape}
  {spellings : List (Piece × Text)} {fault : Fault}

/-! ## Pieces and how they are spelled -/

/-- Whether the first character of a name is a capital letter. -/
def isCapitalized (written : Text) : Bool :=
  (Text.trim written).head?.any Text.isCapital

/-- The shape of a variable, by what is written between its brackets and the character before. -/
structure IsShapeOf (previous : Option Char) (written : Text) (shape : Shape) : Prop where
  /-- A capital letter comes first. -/
  capitalize : shape = .capitalize ↔ isCapitalized written
  /-- Another one does, behind a dash. -/
  slugify : shape = .slugify ↔ ¬ isCapitalized written ∧ previous = some '-'
  /-- Another one does, behind something else. -/
  preserve : shape = .preserve ↔ ¬ isCapitalized written ∧ previous ≠ some '-'

/-- A part of a pattern spells a piece, behind the character before it. -/
def Spells (previous : Option Char) : Piece → Text → Prop
  | .literal literal, text => text = literal
  | .variable name shape, text => ∃ written, text = bracketed written ∧ ']' ∉ written ∧
      ¬ Text.isAllBlank written ∧ name = Text.lower (Text.trim written) ∧
      IsShapeOf previous written shape

/-- Whether a piece is a literal. -/
def isLiteral : Piece → Bool
  | .literal _ => true
  | .variable _ _ => false

/-- Pieces with their literals as long as they can be. -/
structure IsNormal (pieces : List Piece) : Prop where
  /-- No literal is empty. -/
  solid : .literal [] ∉ pieces
  /-- No variable begins in a literal. -/
  plain : ∀ literal, .literal literal ∈ pieces → '[' ∉ literal
  /-- Two literals are not neighbors. -/
  apart : pieces.IsChain fun one other => isLiteral one → ¬ isLiteral other

/-- Pieces with the parts of a text that spell them, where the text stands behind `front`. -/
structure AreSpelled (front text : Text) (spellings : List (Piece × Text)) : Prop where
  /-- The parts make up the text. -/
  whole : text = spellings.flatMap Prod.snd
  /-- The pieces are as few as they can be. -/
  normal : IsNormal (spellings.map Prod.fst)
  /-- Each part spells its piece where it stands. -/
  spelled : ∀ before piece part after, spellings = before ++ (piece, part) :: after →
    Spells (front ++ before.flatMap Prod.snd).getLast? piece part

/-- The pieces that a whole pattern spells. -/
def IsReading (pattern : Text) (pieces : List Piece) : Prop :=
  ∃ spellings, pieces = spellings.map Prod.fst ∧ AreSpelled [] pattern spellings

/-- A bracket begins no variable, and how it fails to. -/
inductive Fails (pattern : Text) (position : Nat) (rest : Text) : Fault → Prop
  /-- No bracket closes it. -/
  | unclosed (absent : ']' ∉ rest) : Fails pattern position rest (.unclosedBracket position pattern)
  /-- White space is all there is before the next bracket that closes it. -/
  | blank (name after : Text) (cut : rest = name ++ ']' :: after) (closed : ']' ∉ name)
      (blank : Text.isAllBlank name) :
      Fails pattern position rest (.emptyVariable position pattern)

/-- A text behind `front` has a bracket that begins no variable, and is spelled up to it. -/
def IsTorn (pattern front text : Text) (fault : Fault) : Prop :=
  ∃ spellings read rest, AreSpelled front read spellings ∧ text = read ++ '[' :: rest ∧
    Fails pattern (front ++ read).length rest fault

/-- The shape that the program takes is the one that the spelling means. -/
theorem isShapeOf_shapeOf (previous : Option Char) (written : Text) :
    IsShapeOf previous written (shapeOf previous written) := by
  unfold shapeOf
  rw [← isCapitalized]
  split_ifs with capital dashed <;> constructor <;> simp [*]

/-- A spelling means one shape. -/
theorem IsShapeOf.eq_shapeOf (shaped : IsShapeOf previous written shape) :
    shape = shapeOf previous written := by
  have model := isShapeOf_shapeOf previous written
  cases shape with
  | capitalize => exact (model.capitalize.mpr (shaped.capitalize.mp rfl)).symm
  | slugify => exact (model.slugify.mpr (shaped.slugify.mp rfl)).symm
  | preserve => exact (model.preserve.mpr (shaped.preserve.mp rfl)).symm

/-- Closed brackets with a name spell their variable. -/
theorem spells_spelled (previous : Option Char) (closed : ']' ∉ written)
    (named : ¬ Text.isAllBlank written) :
    Spells previous (spelled previous written) (bracketed written) :=
  ⟨written, rfl, closed, named, rfl, isShapeOf_shapeOf previous written⟩

/-! ## Pieces in front of others -/

/-- No piece is normal. -/
theorem isNormal_nil : IsNormal [] where
  solid := List.not_mem_nil
  plain _ absent := nomatch absent
  apart := .nil

/-- A variable in front keeps pieces normal. -/
theorem isNormal_cons_variable :
    IsNormal (.variable name shape :: pieces) ↔ IsNormal pieces := by
  constructor
  · rintro ⟨solid, plain, apart⟩
    exact ⟨List.not_mem_of_not_mem_cons solid, fun literal listed =>
      plain literal (List.mem_cons_of_mem _ listed), (List.isChain_cons.mp apart).2⟩
  · rintro ⟨solid, plain, apart⟩
    exact ⟨by simpa using solid, by simpa using plain,
      List.isChain_cons.mpr ⟨fun _ _ impossible => (nomatch impossible), apart⟩⟩

/-- So does a literal that is not empty, has no bracket and stands in front of a variable. -/
theorem isNormal_cons_literal :
    IsNormal (.literal text :: pieces) ↔
      text ≠ [] ∧ '[' ∉ text ∧ (∀ next ∈ pieces.head?, ¬ isLiteral next) ∧ IsNormal pieces := by
  constructor
  · rintro ⟨solid, plain, apart⟩
    obtain ⟨next, apart⟩ := List.isChain_cons.mp apart
    refine ⟨?_, plain text List.mem_cons_self, fun piece first => next piece first rfl,
      List.not_mem_of_not_mem_cons solid, fun literal listed =>
        plain literal (List.mem_cons_of_mem _ listed), apart⟩
    rintro rfl
    exact solid List.mem_cons_self
  · rintro ⟨full, here, next, solid, plain, apart⟩
    refine ⟨?_, ?_, List.isChain_cons.mpr ⟨fun piece first _ => next piece first, apart⟩⟩
    · exact List.not_mem_cons_of_ne_of_not_mem (by simpa using Ne.symm full) solid
    · intro literal listed
      rcases List.mem_cons.mp listed with same | listed
      · rwa [Piece.literal.inj same]
      · exact plain literal listed

/-- Nothing spells no piece. -/
theorem areSpelled_nil (front : Text) : AreSpelled front [] [] where
  whole := rfl
  normal := isNormal_nil
  spelled before piece part after whole := by
    cases List.append_ne_nil_of_right_ne_nil before (List.cons_ne_nil _ _) whole.symm

/-- The part that comes first is spelled behind the front, and the others behind both. -/
theorem areSpelled_cons {part : Text} :
    AreSpelled front (part ++ text) ((piece, part) :: spellings) ↔
      Spells front.getLast? piece part ∧ IsNormal (piece :: spellings.map Prod.fst) ∧
        AreSpelled (front ++ part) text spellings := by
  constructor
  · rintro ⟨whole, normal, spelled⟩
    refine ⟨by simpa using spelled [] piece part spellings rfl, normal, ?_, ?_, ?_⟩
    · exact List.append_cancel_left whole
    · cases piece with
      | literal literal => exact (isNormal_cons_literal.mp normal).2.2.2
      | «variable» name shape => exact isNormal_cons_variable.mp normal
    · rintro before next own after rfl
      simpa using spelled ((piece, part) :: before) next own after rfl
  · rintro ⟨here, normal, whole, -, spelled⟩
    refine ⟨by rw [whole]; rfl, normal, ?_⟩
    rintro before next own after split
    cases before with
    | nil =>
        obtain ⟨same, -⟩ := List.cons.inj split
        obtain ⟨rfl, rfl⟩ := Prod.mk.inj same
        simpa using here
    | cons other before =>
        obtain ⟨rfl, rfl⟩ := List.cons.inj split
        simpa using spelled before next own after rfl

/-! ## Reading what is spelled -/

/-- Puts a piece in front of others, in which a literal grows. -/
def prepend : Piece → List Piece → List Piece
  | .literal text, pieces => text.foldr consLiteral pieces
  | .variable name shape, pieces => .variable name shape :: pieces

/-- Characters in front of a variable become one literal. -/
theorem foldr_consLiteral (full : text ≠ []) (next : ∀ piece ∈ pieces.head?, ¬ isLiteral piece) :
    text.foldr consLiteral pieces = .literal text :: pieces := by
  induction text with
  | nil => exact absurd rfl full
  | cons char text inductionHypothesis =>
      rw [List.foldr_cons]
      cases text with
      | cons second text =>
          rw [inductionHypothesis (List.cons_ne_nil _ _)]
          rfl
      | nil =>
          cases pieces with
          | nil => rfl
          | cons piece pieces =>
              cases piece with
              | literal literal => cases next (.literal literal) rfl rfl
              | «variable» name shape => rfl

/-- Normal pieces do not grow together. -/
theorem IsNormal.foldr_prepend (normal : IsNormal pieces) : pieces.foldr prepend [] = pieces := by
  induction pieces with
  | nil => rfl
  | cons piece pieces inductionHypothesis =>
      rw [List.foldr_cons]
      cases piece with
      | literal text =>
          obtain ⟨full, -, next, normal⟩ := isNormal_cons_literal.mp normal
          rw [inductionHypothesis normal]
          exact foldr_consLiteral full next
      | «variable» name shape =>
          rw [inductionHypothesis (isNormal_cons_variable.mp normal)]
          rfl

/-- What holds no bracket is put in front, character by character. -/
theorem scan_plain_append (plain : '[' ∉ text) (rest : Text) :
    scan pattern position previous 0 (text ++ rest) =
      (scan pattern (position + text.length) (text.getLast?.or previous) 0 rest).map
        (text.foldr consLiteral ·) := by
  induction text generalizing position previous with
  | nil => exact (congrFun Except.map_id _).symm
  | cons char text inductionHypothesis =>
      obtain ⟨here, later⟩ := List.ne_and_not_mem_of_not_mem_cons plain
      have last : (char :: text).getLast?.or previous = text.getLast?.or (some char) := by
        rw [List.getLast?_cons]
        cases text.getLast? <;> rfl
      rw [List.cons_append, scan, if_neg (Ne.symm here), inductionHypothesis later, last,
        List.length_cons, Nat.add_assoc, Nat.add_comm 1]
      cases scan pattern (position + (text.length + 1)) (text.getLast?.or (some char)) 0 rest <;>
        rfl

/-- A part that spells a piece is read as this piece. -/
theorem scan_part {part : Text} (plain : ∀ literal, piece = .literal literal → '[' ∉ literal)
    (spells : Spells previous piece part) (rest : Text) :
    scan pattern position previous 0 (part ++ rest) =
      (scan pattern (position + part.length) (part.getLast?.or previous) 0 rest).map
        (prepend piece) := by
  cases piece with
  | literal literal =>
      obtain rfl : part = literal := spells
      exact scan_plain_append (plain part rfl) rest
  | «variable» name shape =>
      obtain ⟨written, rfl, closed, named, rfl, shaped⟩ := spells
      obtain rfl := shaped.eq_shapeOf
      have last : (bracketed written).getLast? = some ']' := List.getLast?_concat
      rw [scan_bracketed closed named, last, Option.some_or]
      simp only [bracketed, List.length_append, List.length_cons, List.length_nil]
      rfl

/-- Parts that spell pieces are read as these, whatever comes behind them. -/
theorem scan_spelled (pattern : Text) (position : Nat)
    (spelled : AreSpelled front text spellings) (rest : Text) :
    scan pattern position front.getLast? 0 (text ++ rest) =
      (scan pattern (position + text.length) (front ++ text).getLast? 0 rest).map
        ((spellings.map Prod.fst).foldr prepend ·) := by
  induction spellings generalizing front text position with
  | nil =>
      obtain rfl : text = [] := spelled.whole
      rw [List.append_nil]
      exact (congrFun Except.map_id _).symm
  | cons spelling spellings inductionHypothesis =>
      obtain ⟨piece, part⟩ := spelling
      obtain rfl : text = part ++ spellings.flatMap Prod.snd := spelled.whole
      obtain ⟨here, normal, later⟩ := areSpelled_cons.mp spelled
      have plain : ∀ literal, piece = .literal literal → '[' ∉ literal := by
        rintro literal rfl
        exact normal.plain literal List.mem_cons_self
      rw [List.append_assoc, scan_part plain here, ← List.getLast?_append,
        inductionHypothesis _ later, List.length_append, ← Nat.add_assoc, ← List.append_assoc]
      cases scan pattern (position + part.length + (spellings.flatMap Prod.snd).length)
        (front ++ part ++ spellings.flatMap Prod.snd).getLast? 0 rest <;> rfl

/-- A pattern that is spelled is read as what it spells. -/
theorem read_of_isReading (reading : IsReading pattern pieces) : read pattern = .ok pieces := by
  obtain ⟨spellings, rfl, spelled⟩ := reading
  have scanned := scan_spelled pattern 0 spelled []
  rw [List.append_nil] at scanned
  rw [read, ← List.getLast?_nil, scanned]
  exact congrArg Except.ok spelled.normal.foldr_prepend

/-- A bracket that fails ends the scan with its fault. -/
theorem scan_of_fails (fails : Fails pattern position rest fault) :
    scan pattern position previous 0 ('[' :: rest) = .error fault := by
  rw [scan, if_pos rfl]
  cases fails with
  | unclosed absent => rw [Text.cutAtChar?_eq_none.mpr absent]
  | blank name after cut closed blank =>
      rw [cut, Text.cutAtChar?_append closed]
      exact if_pos blank

/-- A torn pattern is read as its fault. -/
theorem read_of_isTorn (torn : IsTorn pattern [] pattern fault) : read pattern = .error fault := by
  obtain ⟨spellings, front, rest, spelled, whole, fails⟩ := torn
  have scanned := scan_spelled pattern 0 spelled ('[' :: rest)
  rw [List.nil_append] at fails
  rw [Nat.zero_add, List.nil_append, scan_of_fails fails, ← whole] at scanned
  exact scanned

/-! ## Every pattern is spelled or torn -/

/-- A variable in front of what is spelled is spelled, too. -/
theorem AreSpelled.cons_variable (closed : ']' ∉ name) (named : ¬ Text.isAllBlank name)
    (spelled : AreSpelled (front ++ bracketed name) text spellings) :
    AreSpelled front (bracketed name ++ text)
      ((Pattern.spelled front.getLast? name, bracketed name) :: spellings) :=
  areSpelled_cons.mpr ⟨spells_spelled _ closed named,
    isNormal_cons_variable.mpr spelled.normal, spelled⟩

/-- A character in front belongs to the literal that comes first, or is one of its own. -/
theorem AreSpelled.cons_char (plain : char ≠ '[')
    (spelled : AreSpelled (front ++ [char]) text spellings) :
    ∃ longer, AreSpelled front (char :: text) longer := by
  have alone (next : ∀ piece ∈ (spellings.map Prod.fst).head?, ¬ isLiteral piece) :
      AreSpelled front ([char] ++ text) ((.literal [char], [char]) :: spellings) :=
    areSpelled_cons.mpr ⟨show [char] = [char] from rfl, isNormal_cons_literal.mpr
      ⟨List.cons_ne_nil _ _, by simpa using Ne.symm plain, next, spelled.normal⟩, spelled⟩
  cases spellings with
  | nil => exact ⟨_, alone fun _ absent => nomatch absent⟩
  | cons spelling spellings =>
      obtain ⟨piece, part⟩ := spelling
      obtain rfl : text = part ++ spellings.flatMap Prod.snd := spelled.whole
      cases piece with
      | «variable» name shape =>
          refine ⟨_, alone ?_⟩
          rintro piece same
          obtain rfl := Option.some.inj same
          exact Bool.false_ne_true
      | literal literal =>
          obtain ⟨same, normal, later⟩ := areSpelled_cons.mp spelled
          obtain rfl : part = literal := same
          obtain ⟨-, without, next, normal⟩ := isNormal_cons_literal.mp normal
          rw [List.append_assoc] at later
          have grown : AreSpelled front ((char :: part) ++ spellings.flatMap Prod.snd)
              ((.literal (char :: part), char :: part) :: spellings) :=
            areSpelled_cons.mpr ⟨show char :: part = char :: part from rfl,
              isNormal_cons_literal.mpr ⟨List.cons_ne_nil _ _,
                List.not_mem_cons_of_ne_of_not_mem (Ne.symm plain) without, next, normal⟩, later⟩
          exact ⟨_, grown⟩

/-- What is spelled or torn stays so when more is spelled in front of it. -/
theorem spelled_or_torn_of (part : Text)
    (grow : ∀ {read spellings}, AreSpelled (front ++ part) read spellings →
      ∃ longer, AreSpelled front (part ++ read) longer)
    (later : (∃ spellings, AreSpelled (front ++ part) text spellings) ∨
      ∃ fault, IsTorn pattern (front ++ part) text fault) :
    (∃ spellings, AreSpelled front (part ++ text) spellings) ∨
      ∃ fault, IsTorn pattern front (part ++ text) fault := by
  rcases later with ⟨spellings, spelled⟩ | ⟨fault, spellings, read, rest, spelled, rfl, fails⟩
  · exact .inl (grow spelled)
  · obtain ⟨longer, spelled⟩ := grow spelled
    refine .inr ⟨fault, longer, part ++ read, rest, spelled, (List.append_assoc ..).symm, ?_⟩
    rwa [← List.append_assoc]

/-- A bracket that fails tears the pattern. -/
theorem isTorn_of_fails (fails : Fails pattern front.length rest fault) :
    IsTorn pattern front ('[' :: rest) fault :=
  ⟨[], [], rest, areSpelled_nil front, rfl, by rwa [List.append_nil]⟩

/-- Every pattern is spelled or torn. -/
theorem spelled_or_torn (pattern front text : Text) :
    (∃ spellings, AreSpelled front text spellings) ∨ ∃ fault, IsTorn pattern front text fault := by
  -- Behind a variable less is left of the text, but not one character less.
  induction length : text.length using Nat.strong_induction_on generalizing front text with
  | _ size inductionHypothesis =>
      cases text with
      | nil => exact .inl ⟨[], areSpelled_nil front⟩
      | cons char rest =>
          rw [List.length_cons] at length
          by_cases bracket : char = '['
          · subst bracket
            cases cut : Text.cutAtChar? ']' rest with
            | none =>
                exact .inr ⟨_, isTorn_of_fails (.unclosed (Text.cutAtChar?_eq_none.mp cut))⟩
            | some parts =>
                obtain ⟨name, after⟩ := parts
                have closed := Text.notMem_of_cutAtChar? cut
                obtain rfl := Text.eq_of_cutAtChar? cut
                by_cases blank : Text.isAllBlank name
                · exact .inr ⟨_, isTorn_of_fails (.blank name after rfl closed blank)⟩
                · have split : '[' :: (name ++ ']' :: after) = bracketed name ++ after := by
                    simp [bracketed]
                  have less : after.length < size := by
                    rw [← length, List.length_append, List.length_cons]
                    omega
                  rw [split]
                  exact spelled_or_torn_of (bracketed name)
                    (fun spelled => ⟨_, spelled.cons_variable closed blank⟩)
                    (inductionHypothesis _ less _ _ rfl)
          · exact spelled_or_torn_of [char] (fun spelled => spelled.cons_char bracket)
              (inductionHypothesis _ (by omega) _ _ rfl)

/-- A pattern is read as pieces exactly when these are in normal form and its parts spell them, one
behind the other; and reading it fails exactly when, behind a part that spells pieces, a bracket is
never closed or closed behind white space only. -/
theorem read_settles (pattern : Text) :
    (∀ pieces, read pattern = .ok pieces ↔ IsReading pattern pieces) ∧
      ∀ fault, read pattern = .error fault ↔ IsTorn pattern [] pattern fault := by
  rcases spelled_or_torn pattern [] pattern with ⟨spellings, spelled⟩ | ⟨fault, torn⟩
  · have reading : IsReading pattern (spellings.map Prod.fst) := ⟨spellings, rfl, spelled⟩
    have done := read_of_isReading reading
    refine ⟨fun pieces => ⟨fun made => ?_, read_of_isReading⟩,
      fun fault => ⟨fun failed => ?_, read_of_isTorn⟩⟩
    · rwa [← Except.ok.inj (done.symm.trans made)]
    · cases done.symm.trans failed
  · have failed := read_of_isTorn torn
    refine ⟨fun pieces => ⟨fun made => ?_, read_of_isReading⟩,
      fun other => ⟨fun failedToo => ?_, read_of_isTorn⟩⟩
    · cases failed.symm.trans made
    · rwa [← Except.error.inj (failed.symm.trans failedToo)]

end Issuebook.Pattern
