import Issuebook.Proofs.Template.Anchors
import Issuebook.Proofs.Text.Characters
import Mathlib.Data.List.Chain

/-!
# What anchors match

The texts that an anchor stands for, told piece by piece and not by the search. The search takes
all the white space that a piece allows and never goes back. That is no loss where words part the
white space, so an anchor is found in a text exactly when a part of the text matches it
(`isSome_cutAt?_iff`). What an anchor matches has the words of the anchor (`Matches.solids_eq`), and
all white space in it is tame (`Matches.isTame`): spaces and tabs, or white space with a line feed.

So a literal matches its own anchor exactly when its white space is tame (`matches_own_iff`), and it
is found wherever it stands exactly when that holds between its words (`isSome_cutAt?_own_iff`).
-/

namespace Issuebook

/-! ## White space and what it parts -/

namespace Text

variable {text : Text}

/-- The characters of a text that are no white space. -/
def solids (text : Text) : Text :=
  text.filter fun char => !isBlank char

/-- The solid characters of two texts are those of the one and then those of the other. -/
@[simp] theorem solids_append (front back : Text) :
    solids (front ++ back) = solids front ++ solids back :=
  List.filter_append front back

/-- White space has no solid character. -/
theorem solids_of_isAllBlank (blank : isAllBlank text) : solids text = [] :=
  List.filter_eq_nil_iff.mpr fun char present => by simp [List.all_eq_true.mp blank char present]

/-- A text of solid characters has them all. -/
theorem solids_of_solid (solid : ∀ char ∈ text, ¬ isBlank char) : solids text = text :=
  List.filter_eq_self.mpr fun char present => by simp [solid char present]

/-- Only white space has no solid character. -/
theorem solids_eq_nil_iff : solids text = [] ↔ isAllBlank text := by
  simp [solids, isAllBlank]

/-- A character between words stands in the part of a text that has white space alone around it. -/
theorem exists_between {before after front back : Text} {char : Char}
    (split : before ++ (text ++ after) = front ++ char :: back) (blankBefore : isAllBlank before)
    (blankAfter : isAllBlank after) (solidFront : ¬ isAllBlank front)
    (solidBack : ¬ isAllBlank back) :
    ∃ inner rest,
      text = inner ++ char :: rest ∧ front = before ++ inner ∧ back = rest ++ after := by
  rcases List.append_eq_append_iff.mp split with ⟨inner, rfl, later⟩ | ⟨inner, rfl, -⟩
  · rcases List.append_eq_append_iff.mp later with ⟨rest, -, rfl⟩ | ⟨rest, rfl, ends⟩
    · rw [isAllBlank, List.all_append, List.all_cons, Bool.and_eq_true, Bool.and_eq_true]
        at blankAfter
      exact absurd blankAfter.2.2 solidBack
    · cases rest with
      | nil =>
          rw [List.nil_append] at ends
          rw [← ends, isAllBlank, List.all_cons, Bool.and_eq_true] at blankAfter
          exact absurd blankAfter.2 solidBack
      | cons first rest =>
          obtain ⟨rfl, rfl⟩ := List.cons.inj ends
          exact ⟨inner, rest, rfl, rfl, rfl⟩
  · rw [isAllBlank, List.all_append, Bool.and_eq_true] at blankBefore
    exact absurd blankBefore.1 solidFront

end Text

namespace Anchor

variable {char : Char} {text front back before after rest : Text}

/-- White space that an anchor can stand for, at a place of a text: a space or a tab, or any white
space with a line feed in the white space around it. -/
def IsTameAt (before : Text) (char : Char) (after : Text) : Prop :=
  isGapChar char ∨ '\n' ∈ blankEnd before ++ (char :: after).takeWhile Text.isBlank

/-- A text whose white space is tame. -/
def IsTame (text : Text) : Prop :=
  ∀ before char after, text = before ++ char :: after → Text.isBlank char →
    IsTameAt before char after

/-- The white space at the end of a text is also at the end of a longer one. -/
theorem blankEnd_subset_append (front text : Text) : blankEnd text ⊆ blankEnd (front ++ text) := by
  by_cases blank : Text.isAllBlank text
  · rw [blankEnd_append_of_blank front blank, blankEnd_of_blank blank]
    exact List.subset_append_right _ _
  · rw [blankEnd_append_of_solid front blank]
    exact List.Subset.refl _

/-- What is taken from a text is also taken from one that goes on. -/
theorem takeWhile_subset_append (take : Char → Bool) (text rest : Text) :
    text.takeWhile take ⊆ (text ++ rest).takeWhile take := by
  rw [List.takeWhile_append]
  split_ifs with whole
  · exact List.Subset.trans (List.takeWhile_prefix take).subset (List.subset_append_left _ _)
  · exact List.Subset.refl _

/-- More text around it leaves white space tame. -/
theorem IsTameAt.within (tame : IsTameAt before char after) (front rest : Text) :
    IsTameAt (front ++ before) char (after ++ rest) := by
  refine tame.imp_right fun feed => ?_
  rw [← List.cons_append]
  rcases List.mem_append.mp feed with ahead | behind
  · exact List.mem_append_left _ (blankEnd_subset_append front before ahead)
  · exact List.mem_append_right _ (takeWhile_subset_append Text.isBlank _ rest behind)

end Anchor

/-! ## Texts of an anchor -/

namespace AnchorPiece

variable {piece : AnchorPiece} {text : Text}

/-- The texts that a piece of an anchor stands for. -/
inductive Matches : AnchorPiece → Text → Prop
  /-- A word stands for itself. -/
  | word (text : Text) : Matches (.word text) text
  /-- A line break, for any white space with a line feed in it. -/
  | newline {text : Text} (blank : Text.isAllBlank text) (feed : '\n' ∈ text) :
    Matches .newline text
  /-- A gap, for one space or tab or more of them. -/
  | gap {text : Text} (present : text ≠ []) (gaps : ∀ char ∈ text, Anchor.isGapChar char) :
    Matches .gap text
  /-- A margin, for spaces and tabs, if any. -/
  | margin {text : Text} (gaps : ∀ char ∈ text, Anchor.isGapChar char) : Matches .margin text

/-- Whether a piece is a word. -/
def isWord : AnchorPiece → Bool
  | .word _ => true
  | _ => false

/-- The characters of a word, and none of white space. -/
def letters : AnchorPiece → Text
  | .word text => text
  | _ => []

/-- A piece that is white space, or a word of characters that are none. -/
def IsSound (piece : AnchorPiece) : Prop :=
  piece.isWord → piece.letters ≠ [] ∧ ∀ char ∈ piece.letters, ¬ Text.isBlank char

/-- A space of an anchor matches white space only. -/
theorem Matches.isAllBlank (held : piece.Matches text) (space : piece.isWord = false) :
    Text.isAllBlank text := by
  cases held with
  | word => cases space
  | newline blank feed => exact blank
  | gap present gaps | margin gaps =>
      exact List.all_eq_true.mpr fun char place => Anchor.isBlank_of_isGapChar (gaps char place)

/-- A sound piece of an anchor matches texts with its letters. -/
theorem Matches.solids_eq (held : piece.Matches text) (sound : piece.IsSound) :
    text.solids = piece.letters := by
  cases shape : piece.isWord with
  | false =>
      rw [Text.solids_of_isAllBlank (held.isAllBlank shape)]
      cases piece with
      | word => cases shape
      | newline | gap | margin => rfl
  | true =>
      cases held with
      | word => exact Text.solids_of_solid (sound rfl).2
      | newline | gap | margin => cases shape

/-- White space that a piece stands for is tame, whatever stands around it. -/
theorem Matches.isTameAt (held : piece.Matches text) (sound : piece.IsSound) {char : Char}
    {before after : Text} (split : text = before ++ char :: after) (blank : Text.isBlank char) :
    Anchor.IsTameAt before char after := by
  have listed : char ∈ text := by simp [split]
  cases held with
  | word => exact absurd blank ((sound rfl).2 char listed)
  | gap present gaps | margin gaps => exact .inl (gaps char listed)
  | newline allBlank feed =>
      have parts := split ▸ allBlank
      simp only [Text.isAllBlank, List.all_append, Bool.and_eq_true] at parts
      right
      rwa [Anchor.blankEnd_of_blank parts.1,
        List.takeWhile_eq_self_iff.mpr (List.all_eq_true.mp parts.2), ← split]

end AnchorPiece

namespace Anchor

variable {piece : AnchorPiece} {pieces : List AnchorPiece}
  {text front back before after rest : Text}

/-- The texts that pieces stand for, one after the other. -/
inductive Matches : List AnchorPiece → Text → Prop
  | nil : Matches [] []
  | cons {piece : AnchorPiece} {pieces : List AnchorPiece} {front back : Text}
    (first : piece.Matches front) (later : Matches pieces back) :
    Matches (piece :: pieces) (front ++ back)

/-- Pieces of which no two neighbours are white space. -/
structure IsRegular (pieces : List AnchorPiece) : Prop where
  /-- Words have no white space in them. -/
  sound : ∀ piece ∈ pieces, piece.IsSound
  /-- Of two neighbours one is a word. -/
  apart : pieces.IsChain fun one other => one.isWord ∨ other.isWord

/-- The pieces behind the first are regular, too. -/
theorem IsRegular.tail (regular : IsRegular (piece :: pieces)) : IsRegular pieces where
  sound := fun other listed => regular.sound other (List.mem_cons_of_mem _ listed)
  apart := regular.apart.tail

/-- Sound pieces match texts with their letters. -/
theorem Matches.solids_eq (held : Matches pieces text)
    (sound : ∀ piece ∈ pieces, piece.IsSound) :
    text.solids = pieces.flatMap AnchorPiece.letters := by
  induction held with
  | nil => rfl
  | cons first later inductionHypothesis =>
      obtain ⟨here, sound⟩ := List.forall_mem_cons.mp sound
      rw [Text.solids_append, first.solids_eq here, inductionHypothesis sound, List.flatMap_cons]

/-- All white space in what an anchor matches is tame. -/
theorem Matches.isTame (held : Matches pieces text) (sound : ∀ piece ∈ pieces, piece.IsSound) :
    IsTame text := by
  induction held with
  | nil => exact fun before char after split => by simp at split
  | @cons piece pieces front back first later inductionHypothesis =>
      obtain ⟨here, sound⟩ := List.forall_mem_cons.mp sound
      intro before char after split blank
      rcases List.append_eq_append_iff.mp split with ⟨inner, rfl, behind⟩ | ⟨inner, whole, behind⟩
      · have tame := inductionHypothesis sound inner char after behind blank
        simpa using tame.within front []
      · cases inner with
        | nil =>
            have tame := inductionHypothesis sound [] char after behind.symm blank
            rw [List.append_nil] at whole
            simpa [whole] using tame.within front []
        | cons first inner =>
            obtain ⟨rfl, rfl⟩ := List.cons.inj behind
            simpa using (first.isTameAt here whole blank).within [] back

/-! ## The search -/

/-- What is dropped for a piece is a text that the piece matches. -/
theorem exists_of_dropPiece? (dropped : dropPiece? piece text = some after) :
    ∃ taken, text = taken ++ after ∧ piece.Matches taken := by
  cases piece with
  | word word => exact ⟨word, Text.dropHead?_eq_some.mp dropped, .word word⟩
  | newline =>
      obtain ⟨feed, same⟩ := Option.ite_none_right_eq_some.mp dropped
      obtain rfl := Option.some.inj same
      refine ⟨_, List.takeWhile_append_dropWhile.symm, .newline ?_ feed⟩
      exact List.all_eq_true.mpr fun _ => List.mem_takeWhile_imp
  | gap =>
      obtain ⟨begins, same⟩ := Option.ite_none_right_eq_some.mp dropped
      obtain rfl := Option.some.inj same
      refine ⟨_, List.takeWhile_append_dropWhile.symm, .gap ?_ fun _ => List.mem_takeWhile_imp⟩
      cases text with
      | nil => cases begins
      | cons first text =>
          rw [List.takeWhile_cons_of_pos (by simpa using begins)]
          exact List.cons_ne_nil _ _
  | margin =>
      obtain rfl := Option.some.inj dropped
      exact ⟨_, List.takeWhile_append_dropWhile.symm, .margin fun _ => List.mem_takeWhile_imp⟩

/-- What is dropped for several pieces is a text that they match. -/
theorem exists_of_drop? (dropped : drop? pieces text = some after) :
    ∃ taken, text = taken ++ after ∧ Matches pieces taken := by
  induction pieces generalizing text with
  | nil => exact ⟨[], Option.some.inj dropped, .nil⟩
  | cons piece pieces inductionHypothesis =>
      obtain ⟨rest, first, later⟩ := Option.bind_eq_some_iff.mp dropped
      obtain ⟨front, rfl, held⟩ := exists_of_dropPiece? first
      obtain ⟨back, rfl, others⟩ := inductionHypothesis later
      exact ⟨front ++ back, (List.append_assoc _ _ _).symm, .cons held others⟩

/-- A text is what stands before an anchor, what the anchor takes, and what stands after it. -/
theorem exists_of_cutAt? (found : cutAt? pieces text = some (before, after)) :
    ∃ taken, text = before ++ (taken ++ after) ∧ Matches pieces taken := by
  induction text generalizing before with
  | nil =>
      obtain ⟨rest, dropped, same⟩ := Option.map_eq_some_iff.mp found
      obtain ⟨rfl, rfl⟩ := Prod.mk.inj same
      exact exists_of_drop? dropped
  | cons char text inductionHypothesis =>
      rw [cutAt?] at found
      split at found
      · rename_i rest dropped
        obtain ⟨rfl, rfl⟩ := Prod.mk.inj (Option.some.inj found)
        exact exists_of_drop? dropped
      · obtain ⟨⟨front, rest⟩, later, same⟩ := Option.map_eq_some_iff.mp found
        obtain ⟨rfl, rfl⟩ := Prod.mk.inj same
        obtain ⟨taken, whole, held⟩ := inductionHypothesis later
        exact ⟨taken, by rw [whole, List.cons_append], held⟩

/-- White space that a piece takes beyond its own is not missed by the pieces behind it. -/
theorem exists_drop?_dropWhile {drop : Char → Bool} (regular : IsRegular (piece :: pieces))
    (space : piece.isWord = false) (blank : ∀ char, drop char → Text.isBlank char)
    (held : Matches pieces back) (found : drop? pieces (back ++ rest) = some after) :
    ∃ after, drop? pieces ((back ++ rest).dropWhile drop) = some after := by
  cases held with
  | nil => exact ⟨_, rfl⟩
  | @cons next pieces front back first later =>
      have word : next.isWord := by simpa [space] using regular.apart.rel
      cases first with
      | newline | gap | margin => cases word
      | word =>
          obtain ⟨present, solid⟩ := regular.sound _ (by simp) word
          obtain ⟨char, more, rfl⟩ := List.exists_cons_of_ne_nil present
          have stays : ¬ drop char := mt (blank char) (solid char List.mem_cons_self)
          refine ⟨after, ?_⟩
          simpa only [List.cons_append, List.dropWhile_cons_of_neg stays] using found

/-- What pieces match they drop, in front of any text. -/
theorem Matches.exists_drop? (held : Matches pieces text) (regular : IsRegular pieces)
    (rest : Text) : ∃ after, drop? pieces (text ++ rest) = some after := by
  induction held with
  | nil => exact ⟨rest, rfl⟩
  | @cons piece pieces front back first later inductionHypothesis =>
      obtain ⟨after, found⟩ := inductionHypothesis regular.tail
      rw [List.append_assoc]
      cases first with
      | word =>
          rw [drop?, dropPiece?, dropHead?_append, Option.bind_some]
          exact ⟨after, found⟩
      | newline blank feed =>
          rw [drop?, dropPiece?, takeWhile_append_of_forall (List.all_eq_true.mp blank),
            dropWhile_append_of_forall (List.all_eq_true.mp blank),
            if_pos (List.mem_append_left _ feed), Option.bind_some]
          exact exists_drop?_dropWhile regular rfl (fun _ => id) later found
      | gap present gaps =>
          have begins : (front ++ (back ++ rest)).head?.any isGapChar := by
            obtain ⟨first, more, rfl⟩ := List.exists_cons_of_ne_nil present
            exact gaps first List.mem_cons_self
          rw [drop?, dropPiece?, if_pos begins, dropWhile_append_of_forall gaps, Option.bind_some]
          exact exists_drop?_dropWhile regular rfl (fun _ => isBlank_of_isGapChar) later found
      | margin gaps =>
          rw [drop?, dropPiece?, dropWhile_append_of_forall gaps, Option.bind_some]
          exact exists_drop?_dropWhile regular rfl (fun _ => isBlank_of_isGapChar) later found

/-- An anchor is found where it holds, or before. -/
theorem exists_cutAt? (held : drop? pieces text = some after) (front : Text) :
    ∃ before after, cutAt? pieces (front ++ text) = some (before, after) ∧ before <+: front := by
  induction front with
  | nil =>
      refine ⟨[], after, ?_, List.prefix_rfl⟩
      exact cutAt?_append (by simp) held
  | cons char front inductionHypothesis =>
      rw [List.cons_append, cutAt?]
      cases here : drop? pieces (char :: (front ++ text)) with
      | some after => exact ⟨[], after, rfl, List.nil_prefix⟩
      | none =>
          obtain ⟨before, after, found, starts⟩ := inductionHypothesis
          exact ⟨char :: before, after, by rw [found]; rfl, List.cons_prefix_cons.mpr ⟨rfl, starts⟩⟩

/-- An anchor is found where a part of the text matches it, or before. -/
theorem Matches.exists_cutAt? (held : Matches pieces text) (regular : IsRegular pieces)
    (front rest : Text) : ∃ before after,
      cutAt? pieces (front ++ (text ++ rest)) = some (before, after) ∧ before <+: front := by
  obtain ⟨after, dropped⟩ := held.exists_drop? regular rest
  exact Anchor.exists_cutAt? dropped front

/-- An anchor is found in a text exactly when a part of the text matches it. -/
theorem isSome_cutAt?_iff (regular : IsRegular pieces) (text : Text) :
    (cutAt? pieces text).isSome ↔ ∃ part, part <:+: text ∧ Matches pieces part := by
  constructor
  · intro found
    obtain ⟨⟨before, after⟩, found⟩ := Option.isSome_iff_exists.mp found
    obtain ⟨taken, rfl, held⟩ := exists_of_cutAt? found
    exact ⟨taken, ⟨before, after, List.append_assoc _ _ _⟩, held⟩
  · rintro ⟨part, ⟨front, rest, rfl⟩, held⟩
    obtain ⟨before, after, found, -⟩ := held.exists_cutAt? regular front rest
    rw [List.append_assoc, found]
    rfl

/-! ## The runs of a literal -/

variable {blank : Bool} {char : Char} {literal run more : Text}

/-- A text begins with a run: characters that are all white space or all not, and no more of them
behind. -/
structure IsFirstRun (blank : Bool) (run more : Text) : Prop where
  /-- The run is not empty. -/
  present : run ≠ []
  /-- Its characters are of one kind. -/
  alike : ∀ char ∈ run, Text.isBlank char = blank
  /-- What stands behind it begins with the other kind. -/
  other : more = [] ∨ more.head?.any fun char => Text.isBlank char ≠ blank
  /-- It is the first of the runs. -/
  shape : runs (run ++ more) = run :: runs more

/-- Every text that is not empty begins with a run. -/
theorem exists_isFirstRun (present : text ≠ []) :
    ∃ blank run more, text = run ++ more ∧ IsFirstRun blank run more := by
  obtain ⟨blank, run, more, rfl, some, alike, shape, other⟩ := exists_run present
  exact ⟨blank, run, more, rfl, some, alike, other, shape⟩

/-- Induction on the runs of a text. -/
@[elab_as_elim]
theorem runs_induction {motive : Text → Prop} (nil : motive [])
    (run : ∀ blank run more, IsFirstRun blank run more → motive more → motive (run ++ more))
    (text : Text) : motive text := by
  induction measured : text.length using Nat.strong_induction_on generalizing text with
  | _ size inductionHypothesis =>
      by_cases present : text = []
      · exact present ▸ nil
      · obtain ⟨blank, front, more, rfl, first⟩ := exists_isFirstRun present
        refine run blank front more first (inductionHypothesis _ ?_ more rfl)
        have := List.length_pos_of_ne_nil first.present
        rw [← measured, List.length_append]
        omega

/-- A text whose white space in front of words is tame. -/
def IsTameAhead (text : Text) : Prop :=
  ∀ before char after, text = before ++ char :: after → Text.isBlank char →
    ¬ Text.isAllBlank after → IsTameAt before char after

/-- A run that its piece stands for: a word, or white space that has a line feed or is spaces and
tabs throughout. -/
def IsTameRun (run : Text) : Prop :=
  Text.isAllBlank run → '\n' ∈ run ∨ ∀ char ∈ run, isGapChar char

namespace IsFirstRun

/-- A run of white space is white space, and one of solid characters is not. -/
theorem isAllBlank_iff (first : IsFirstRun blank run more) : Text.isAllBlank run ↔ blank := by
  obtain ⟨char, rest, rfl⟩ := List.exists_cons_of_ne_nil first.present
  have kind := first.alike char List.mem_cons_self
  cases blank with
  | true => simpa [Text.isAllBlank] using first.alike
  | false => simp [Text.isAllBlank, kind]

/-- Behind a run of white space stands a word, if anything. -/
theorem solid_more (first : IsFirstRun true run more) (present : more ≠ []) :
    ∃ char rest, more = char :: rest ∧ ¬ Text.isBlank char := by
  obtain ⟨char, rest, rfl⟩ := List.exists_cons_of_ne_nil present
  exact ⟨char, rest, rfl, by simpa using first.other⟩

/-- What stands between the first run and white space behind it begins with the other kind, or it is
nothing, and the run is a word. -/
theorem before_cases (first : IsFirstRun blank run more) (split : more = before ++ char :: after)
    (space : Text.isBlank char) :
    (before = [] ∧ blank = false) ∨ before.head?.any fun char => Text.isBlank char ≠ blank := by
  have other := first.other.resolve_left (by simp [split])
  cases before with
  | nil =>
      rw [split, List.nil_append] at other
      exact .inl ⟨rfl, by simpa [space] using other⟩
  | cons next before => exact .inr (by simpa [split] using other)

/-- A word stands before white space that is not in the first run. -/
theorem solid_before (first : IsFirstRun blank run more) (split : more = before ++ char :: after)
    (space : Text.isBlank char) : ¬ Text.isAllBlank (run ++ before) := by
  rw [Text.isAllBlank, List.all_append, ← Text.isAllBlank, Bool.and_eq_true, first.isAllBlank_iff]
  rintro ⟨rfl, allBlank⟩
  rcases first.before_cases split space with ⟨-, impossible⟩ | begins
  · cases impossible
  · cases before with
    | nil => cases begins
    | cons next before =>
        have solid : ¬ Text.isBlank next := by simpa using begins
        exact solid (List.all_eq_true.mp allBlank next List.mem_cons_self)

/-- Whether white space behind the first run is tame does not depend on the run. -/
theorem isTameAt_iff (first : IsFirstRun blank run more) (split : more = before ++ char :: after)
    (space : Text.isBlank char) :
    IsTameAt (run ++ before) char after ↔ IsTameAt before char after := by
  have same : blankEnd (run ++ before) = blankEnd before := by
    rcases first.before_cases split space with ⟨rfl, rfl⟩ | begins
    · rw [List.append_nil]
      exact blankEnd_of_solid fun char listed => by simp [first.alike char listed]
    · exact blankEnd_append_run first.alike begins
  rw [IsTameAt, IsTameAt, same]

/-- Behind the first run of a tame text, the rest is tame. -/
theorem isTame_more (first : IsFirstRun blank run more) (tame : IsTame (run ++ more)) :
    IsTame more := by
  intro before char after split space
  refine (first.isTameAt_iff split space).mp (tame _ _ _ ?_ space)
  rw [split, List.append_assoc]

/-- A run whose white space is tame stands for itself. -/
theorem isTameRun (first : IsFirstRun blank run more)
    (tame : ∀ before char after, run = before ++ char :: after → Text.isBlank char →
      IsTameAt before char (after ++ more)) : IsTameRun run := by
  intro allBlank
  obtain rfl := first.isAllBlank_iff.mp allBlank
  refine or_iff_not_imp_left.mpr fun single char listed => ?_
  obtain ⟨before, after, rfl⟩ := List.append_of_mem listed
  refine (tame before char after rfl (first.alike char listed)).resolve_right fun feed => single ?_
  have stops : more.takeWhile Text.isBlank = [] := by
    cases more with
    | nil => rfl
    | cons next more => exact List.takeWhile_cons_of_neg (by simpa using first.other)
  rw [← List.cons_append, List.takeWhile_append_of_pos fun char place =>
    first.alike char (List.mem_append_right _ place), stops, List.append_nil] at feed
  rcases List.mem_append.mp feed with ahead | behind
  · exact List.mem_append_left _ ((List.rtakeWhile_suffix Text.isBlank _).subset ahead)
  · exact List.mem_append_right _ behind

/-- The first run of a tame text is tame. -/
theorem isTameRun_of_isTame (first : IsFirstRun blank run more) (tame : IsTame (run ++ more)) :
    IsTameRun run := by
  refine first.isTameRun fun before char after split blank => tame before char _ ?_ blank
  rw [split, List.append_assoc, List.cons_append]

/-- The same for texts that are tame in front of words. -/
theorem isTameAhead_more (first : IsFirstRun blank run more) (tame : IsTameAhead (run ++ more)) :
    IsTameAhead more := by
  intro before char after split space solid
  refine (first.isTameAt_iff split space).mp (tame _ _ _ ?_ space solid)
  rw [split, List.append_assoc]

/-- A run that its piece does not stand for has no words behind it. -/
theorem eq_nil_of_not_isTameRun (first : IsFirstRun blank run more)
    (tame : IsTameAhead (run ++ more)) (wild : ¬ IsTameRun run) : more = [] := by
  by_contra present
  obtain rfl := first.isAllBlank_iff.mp (Classical.not_imp.mp wild).1
  obtain ⟨next, rest, rfl, solid⟩ := first.solid_more present
  refine wild (first.isTameRun fun before char after split blank => tame before char _ ?_ blank ?_)
  · rw [split, List.append_assoc, List.cons_append]
  · simp [Text.isAllBlank, solid]

/-- The piece of a run is a word where the run is. -/
theorem pieceOf_cases (first : IsFirstRun blank run more) (inside : Bool) :
    (blank = false ∧ pieceOf inside run = .word run) ∨
      (blank = true ∧ '\n' ∈ run ∧ pieceOf inside run = .newline) ∨
      (blank = true ∧ '\n' ∉ run ∧ pieceOf inside run = if inside then .gap else .margin) := by
  have kind := first.isAllBlank_iff
  unfold pieceOf
  cases blank with
  | false => exact .inl ⟨rfl, by simp [kind]⟩
  | true =>
      by_cases feed : '\n' ∈ run
      · exact .inr (.inl ⟨rfl, feed, by simp [kind, feed]⟩)
      · exact .inr (.inr ⟨rfl, feed, by simp [kind, feed]⟩)

/-- The piece made of a tame run matches it. -/
theorem pieceOf_matches (first : IsFirstRun blank run more) (tame : IsTameRun run)
    (inside : Bool) : (pieceOf inside run).Matches run := by
  rcases first.pieceOf_cases inside with ⟨-, shape⟩ | ⟨rfl, feed, shape⟩ | ⟨rfl, single, shape⟩
  · rw [shape]
    exact .word run
  · rw [shape]
    exact .newline (first.isAllBlank_iff.mpr rfl) feed
  · have gaps := (tame (first.isAllBlank_iff.mpr rfl)).resolve_left single
    rw [shape]
    cases inside with
    | false => exact .margin gaps
    | true => exact .gap first.present gaps

/-- A run that does not stand for itself has a gap or a margin in its place. -/
theorem pieceOf_of_not_isTameRun (first : IsFirstRun blank run more) (wild : ¬ IsTameRun run)
    (inside : Bool) : pieceOf inside run = if inside then .gap else .margin := by
  obtain ⟨allBlank, wild⟩ := Classical.not_imp.mp wild
  rcases first.pieceOf_cases inside with ⟨rfl, -⟩ | ⟨-, feed, -⟩ | ⟨-, -, shape⟩
  · cases first.isAllBlank_iff.mp allBlank
  · exact absurd (.inl feed) wild
  · exact shape

/-- The piece made of a run is sound. -/
theorem isSound_pieceOf (first : IsFirstRun blank run more) (inside : Bool) :
    (pieceOf inside run).IsSound := by
  rcases first.pieceOf_cases inside with ⟨rfl, shape⟩ | ⟨-, -, shape⟩ | ⟨-, -, shape⟩
  · rw [shape]
    exact fun _ => ⟨first.present, fun char listed => by simp [first.alike char listed]⟩
  · rw [shape]
    exact fun word => nomatch word
  · rw [shape]
    cases inside <;> exact fun word => nomatch word

/-- Its letters are the solid characters of the run. -/
theorem letters_pieceOf (first : IsFirstRun blank run more) (inside : Bool) :
    (pieceOf inside run).letters = run.solids := by
  rcases first.pieceOf_cases inside with ⟨rfl, shape⟩ | ⟨rfl, -, shape⟩ | ⟨rfl, -, shape⟩
  · rw [shape, Text.solids_of_solid fun char listed => by simp [first.alike char listed]]
    rfl
  · rw [shape, Text.solids_of_isAllBlank (first.isAllBlank_iff.mpr rfl)]
    rfl
  · rw [shape, Text.solids_of_isAllBlank (first.isAllBlank_iff.mpr rfl)]
    cases inside <;> rfl

/-- With a run in front, pieces of later runs stay regular. -/
theorem isRegular_pieces (first : IsFirstRun blank run more)
    (later : IsRegular (laterPieces (runs more))) (inside : Bool) :
    IsRegular (pieceOf inside run :: laterPieces (runs more)) where
  sound := List.forall_mem_cons.mpr ⟨first.isSound_pieceOf inside, later.sound⟩
  apart := by
    refine List.isChain_cons.mpr ⟨fun next listed => ?_, later.apart⟩
    rcases first.pieceOf_cases inside with ⟨-, shape⟩ | ⟨rfl, -⟩ | ⟨rfl, -⟩
    · exact .inl (by rw [shape]; rfl)
    all_goals
      right
      by_cases last : more = []
      · rw [last] at listed
        cases listed
      · obtain ⟨char, rest, rfl, solid⟩ := first.solid_more last
        rw [runs_cons, laterPieces_cons, pieceOf_of_solid solid, List.head?_cons] at listed
        obtain rfl := Option.some.inj listed
        rfl

end IsFirstRun

/-! ## The anchor of a literal -/

/-- The pieces of all runs are regular. -/
theorem isRegular_laterPieces (text : Text) : IsRegular (laterPieces (runs text)) := by
  induction text using runs_induction with
  | nil => exact ⟨by simp [runs, laterPieces], .nil⟩
  | run blank run more first inductionHypothesis =>
      rw [first.shape, laterPieces_cons]
      exact first.isRegular_pieces inductionHypothesis _

/-- Their letters are the solid characters of the text. -/
theorem letters_laterPieces (text : Text) :
    (laterPieces (runs text)).flatMap AnchorPiece.letters = text.solids := by
  induction text using runs_induction with
  | nil => rfl
  | run blank run more first inductionHypothesis =>
      rw [first.shape, laterPieces_cons, List.flatMap_cons, first.letters_pieceOf,
        inductionHypothesis, Text.solids_append]

/-- No two neighbours among the pieces of a literal are white space. -/
theorem isRegular_ofLiteral (literal : Text) : IsRegular (ofLiteral literal) := by
  by_cases present : literal = []
  · subst present
    exact isRegular_laterPieces []
  · obtain ⟨blank, run, more, rfl, first⟩ := exists_isFirstRun present
    rw [ofLiteral_of_runs first.shape]
    exact first.isRegular_pieces (isRegular_laterPieces more) _

/-- The letters of an anchor are the solid characters of its literal. -/
theorem letters_ofLiteral (literal : Text) :
    (ofLiteral literal).flatMap AnchorPiece.letters = literal.solids := by
  by_cases present : literal = []
  · subst present
    rfl
  · obtain ⟨blank, run, more, rfl, first⟩ := exists_isFirstRun present
    rw [ofLiteral_of_runs first.shape, List.flatMap_cons, first.letters_pieceOf,
      letters_laterPieces, Text.solids_append]

/-- What the anchor of a literal matches has the words of the literal. -/
theorem solids_of_matches (held : Matches (ofLiteral literal) text) :
    text.solids = literal.solids := by
  rw [held.solids_eq (isRegular_ofLiteral literal).sound, letters_ofLiteral]

/-- A literal whose white space is tame but for its ends. Where it has no words, a space, a tab or a
line feed in it is enough. -/
structure IsTameInside (literal : Text) : Prop where
  /-- White space between words is tame. -/
  within : ∀ before char after, literal = before ++ char :: after → Text.isBlank char →
    ¬ Text.isAllBlank before → ¬ Text.isAllBlank after → IsTameAt before char after
  /-- White space alone is not without a space, a tab and a line feed. -/
  alone : Text.isAllBlank literal → ∃ char ∈ literal, isGapChar char ∨ char = '\n'

/-- A tame text is tame inside. -/
theorem IsTame.isTameInside (tame : IsTame literal) (present : literal ≠ []) :
    IsTameInside literal where
  within := fun before char after split blank _ _ => tame before char after split blank
  alone := by
    intro blank
    obtain ⟨char, rest, rfl⟩ := List.exists_cons_of_ne_nil present
    rcases tame [] char rest rfl (List.all_eq_true.mp blank char List.mem_cons_self) with gap | feed
    · exact ⟨char, List.mem_cons_self, .inl gap⟩
    · exact ⟨'\n', (List.takeWhile_prefix Text.isBlank).subset feed, .inr rfl⟩

/-- Behind its first run, a text that is tame inside is tame in front of words. -/
theorem IsTameInside.isTameAhead_more (inside : IsTameInside (run ++ more))
    (first : IsFirstRun blank run more) : IsTameAhead more := by
  intro before char after split space solid
  refine (first.isTameAt_iff split space).mp
    (inside.within _ _ _ ?_ space (first.solid_before split space) solid)
  rw [split, List.append_assoc]

/-- The pieces behind the first one match the beginning of a text whose white space in front of
words is tame, and all of it where it is tame throughout. -/
theorem exists_matches_laterPieces (text : Text) (tame : IsTameAhead text) :
    ∃ part rest, text = part ++ rest ∧ Matches (laterPieces (runs text)) part ∧
      (IsTame text → rest = []) := by
  have nothing : AnchorPiece.margin.Matches [] := .margin (by simp)
  induction text using runs_induction with
  | nil => exact ⟨[], [], rfl, .nil, fun _ => rfl⟩
  | run blank run more first inductionHypothesis =>
      rw [first.shape, laterPieces_cons]
      by_cases own : IsTameRun run
      · obtain ⟨part, rest, rfl, held, whole⟩ := inductionHypothesis (first.isTameAhead_more tame)
        exact ⟨run ++ part, rest, (List.append_assoc _ _ _).symm,
          .cons (first.pieceOf_matches own _) held, fun all => whole (first.isTame_more all)⟩
      · obtain rfl := first.eq_nil_of_not_isTameRun tame own
        rw [first.pieceOf_of_not_isTameRun own]
        exact ⟨[], run, List.append_nil run, .cons nothing .nil,
          fun all => absurd (first.isTameRun_of_isTame all) own⟩

/-- The anchor of a literal that is tame but for its ends matches a part of it, and all of it where
it is tame throughout. -/
theorem IsTameInside.exists_matches (inside : IsTameInside literal) (present : literal ≠ []) :
    ∃ before part after, literal = before ++ (part ++ after) ∧ Matches (ofLiteral literal) part ∧
      (IsTame literal → part = literal) := by
  obtain ⟨blank, run, more, rfl, first⟩ := exists_isFirstRun present
  obtain ⟨part, rest, behind, held, whole⟩ :=
    exists_matches_laterPieces more (inside.isTameAhead_more first)
  rw [ofLiteral_of_runs first.shape]
  by_cases own : IsTameRun run
  · refine ⟨[], run ++ part, rest, by simp [behind], .cons (first.pieceOf_matches own _) held,
      fun all => ?_⟩
    rw [behind, whole (first.isTame_more all), List.append_nil]
  · have wild (all : IsTame (run ++ more)) : False := own (first.isTameRun_of_isTame all)
    rw [first.pieceOf_of_not_isTameRun own]
    cases more with
    | nil =>
        -- white space alone: a gap takes one of the spaces and tabs in it
        rw [List.append_nil] at inside
        obtain ⟨char, listed, usable⟩ := inside.alone (Classical.not_imp.mp own).1
        have gap : AnchorPiece.gap.Matches [char] := by
          refine .gap (List.cons_ne_nil _ _) (List.forall_mem_singleton.mpr ?_)
          exact usable.resolve_right fun feed => own fun _ => .inl (feed ▸ listed)
        obtain ⟨before, after, split⟩ := List.append_of_mem listed
        exact ⟨before, [char], after, by simp [split], .cons gap .nil, fun all => (wild all).elim⟩
    | cons next more =>
        have nothing : AnchorPiece.margin.Matches [] := .margin (by simp)
        rw [runs_cons] at held ⊢
        exact ⟨run, part, rest, by rw [behind], .cons nothing held, fun all => (wild all).elim⟩

/-- The anchor of a literal matches the literal as a whole exactly when its white space is tame. -/
theorem matches_own_iff (present : literal ≠ []) :
    Matches (ofLiteral literal) literal ↔ IsTame literal := by
  refine ⟨fun held => held.isTame (isRegular_ofLiteral literal).sound, fun tame => ?_⟩
  obtain ⟨before, part, after, -, held, whole⟩ := (tame.isTameInside present).exists_matches present
  exact whole tame ▸ held

/-- White space alone has a single piece. -/
theorem ofLiteral_of_isAllBlank (present : literal ≠ []) (allBlank : Text.isAllBlank literal) :
    ofLiteral literal = [pieceOf true literal] := by
  obtain ⟨blank, run, more, rfl, first⟩ := exists_isFirstRun present
  obtain ⟨blankRun, blankMore⟩ : Text.isAllBlank run ∧ Text.isAllBlank more := by
    simpa [Text.isAllBlank] using allBlank
  obtain rfl := first.isAllBlank_iff.mp blankRun
  cases more with
  | nil =>
      rw [ofLiteral_of_runs first.shape, List.append_nil]
      rfl
  | cons next more =>
      have solid : ¬ Text.isBlank next := by simpa using first.other
      exact absurd (List.all_eq_true.mp blankMore next List.mem_cons_self) solid

/-- A part of a literal that its anchor matches has all the words of the literal, and its white
space is tame. -/
theorem isTameInside_of_matches (present : literal ≠ [])
    (split : literal = before ++ (text ++ after)) (held : Matches (ofLiteral literal) text) :
    IsTameInside literal where
  within := by
    intro front char back place space solidFront solidBack
    have same := congrArg List.length (solids_of_matches held)
    rw [split, Text.solids_append, Text.solids_append, List.length_append, List.length_append]
      at same
    have blankBefore : Text.isAllBlank before :=
      Text.solids_eq_nil_iff.mp (List.length_eq_zero_iff.mp (by omega))
    have blankAfter : Text.isAllBlank after :=
      Text.solids_eq_nil_iff.mp (List.length_eq_zero_iff.mp (by omega))
    obtain ⟨inner, rest, rfl, rfl, rfl⟩ :=
      Text.exists_between (split.symm.trans place) blankBefore blankAfter solidFront solidBack
    have tame := held.isTame (isRegular_ofLiteral literal).sound inner char rest rfl space
    exact tame.within before after
  alone := by
    intro allBlank
    by_cases feed : '\n' ∈ literal
    · exact ⟨'\n', feed, .inr rfl⟩
    · have piece : pieceOf true literal = .gap := by
        rw [pieceOf, allBlank, Bool.not_true, if_neg Bool.false_ne_true, if_neg feed, if_pos rfl]
      rw [ofLiteral_of_isAllBlank present allBlank, piece] at held
      cases held with
      | cons first later =>
          cases first with
          | gap some gaps =>
              obtain ⟨char, more, rfl⟩ := List.exists_cons_of_ne_nil some
              exact ⟨char, by simp [split], .inl (gaps char List.mem_cons_self)⟩

/-- A literal is found in every document that holds it exactly when it is tame but for its ends. -/
theorem isSome_cutAt?_own_iff (present : literal ≠ []) :
    (∀ front rest, (cutAt? (ofLiteral literal) (front ++ (literal ++ rest))).isSome) ↔
      IsTameInside literal := by
  have regular := isRegular_ofLiteral literal
  constructor
  · intro found
    obtain ⟨part, ⟨before, after, whole⟩, held⟩ := (isSome_cutAt?_iff regular _).mp (found [] [])
    rw [List.append_nil, List.nil_append, List.append_assoc] at whole
    exact isTameInside_of_matches present whole.symm held
  · intro inside front rest
    obtain ⟨before, part, after, whole, held, -⟩ := inside.exists_matches present
    refine (isSome_cutAt?_iff regular _).mpr ⟨part, ⟨front ++ before, after ++ rest, ?_⟩, held⟩
    conv_rhs => rw [whole]
    simp only [List.append_assoc]

/-- The search for a literal does not pass a value that stands behind the literal. -/
theorem IsTameInside.exists_cutAt? {value : Text} (inside : IsTameInside literal)
    (present : literal ≠ []) (solid : ¬ Text.isAllBlank value) (front rest : Text) :
    ∃ before after, cutAt? (ofLiteral literal) (front ++ (literal ++ (value ++ rest))) =
      some (before, after) ∧ rest <:+ after := by
  obtain ⟨lead, part, trail, whole, held, -⟩ := inside.exists_matches present
  have shape : front ++ (literal ++ (value ++ rest)) =
      (front ++ lead) ++ (part ++ (trail ++ (value ++ rest))) := by
    conv_lhs => rw [whole]
    simp only [List.append_assoc]
  rw [shape]
  obtain ⟨before, after, found, gap, starts⟩ :=
    held.exists_cutAt? (isRegular_ofLiteral literal) (front ++ lead) (trail ++ (value ++ rest))
  refine ⟨before, after, found, ?_⟩
  obtain ⟨taken, split, taking⟩ := exists_of_cutAt? found
  have here : rest <:+ before ++ (taken ++ after) := by
    rw [← split]
    exact ⟨front ++ lead ++ part ++ trail ++ value, by simp only [List.append_assoc]⟩
  have there : after <:+ before ++ (taken ++ after) :=
    ⟨before ++ taken, List.append_assoc _ _ _⟩
  -- taking more would need more words than the literal has
  refine (List.suffix_or_suffix_of_suffix here there).resolve_right fun beyond => solid ?_
  obtain ⟨inner, rfl⟩ := beyond
  have more : before ++ (gap ++ (part ++ (trail ++ (value ++ inner)))) ++ after =
      before ++ taken ++ after := by
    rw [← starts] at split
    simpa only [List.append_assoc] using split
  obtain rfl := List.append_cancel_left (List.append_cancel_right more)
  have same := congrArg List.length ((solids_of_matches taking).trans (solids_of_matches held).symm)
  simp only [Text.solids_append, List.length_append] at same
  exact Text.solids_eq_nil_iff.mp (List.length_eq_zero_iff.mp (by omega))

end Anchor

end Issuebook
