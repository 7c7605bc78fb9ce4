import Issuebook.Proofs.Text.Characters
import Issuebook.Proofs.Text.Trimming
import Mathlib.Data.List.Chain

/-!
# Cleaned texts

What cleaning leaves of a text cannot steer a path: nothing that separates or reserves is in it, no
two dots or dashes stand together, and no white space is at its ends (`isHarmless_safeName`). The
ends are trimmed of white space, of dashes and dots, and of white space again, once each. So a dash
or a dot stays at an end when white space parts it from one that was trimmed, and the next cleaning
takes it away: `safeName_settles_iff`.
-/

namespace Issuebook.Text

variable {char mark other : Char} {text core part : Text} {drop test : Char → Bool}

/-! ## Trimmed ends -/

/-- Neither end of a text passes a test. -/
structure IsTrimmedOf (test : Char → Bool) (text : Text) : Prop where
  /-- The first character does not. -/
  first : ∀ char ∈ text.head?, test char = false
  /-- The last character does not. -/
  last : ∀ char ∈ text.getLast?, test char = false

/-- A text that is trimmed at both ends is so read backwards. -/
theorem IsTrimmedOf.reverse (trimmed : IsTrimmedOf test text) : IsTrimmedOf test text.reverse where
  first := List.head?_reverse (l := text) ▸ trimmed.last
  last := List.getLast?_reverse (l := text) ▸ trimmed.first

/-- What remains begins with a character that is kept. -/
theorem first_of_dropWhile (drop : Char → Bool) (text : Text) :
    ∀ char ∈ (text.dropWhile drop).head?, drop char = false := by
  intro char first
  have dropped := List.head?_dropWhile_not drop text
  rw [first] at dropped
  exact dropped

/-- A text that begins so stays. -/
theorem dropWhile_of_first (kept : ∀ char ∈ text.head?, drop char = false) :
    text.dropWhile drop = text := by
  cases text with
  | nil => rfl
  | cons first text => exact List.dropWhile_cons_of_neg (by simp [kept first rfl])

/-- A text is trimmed after trimming. -/
theorem isTrimmedOf_trimBy (drop : Char → Bool) (text : Text) :
    IsTrimmedOf drop (trimBy drop text) := by
  constructor
  · intro char first
    obtain ⟨rest, shape⟩ := List.rdropWhile_prefix drop (text.dropWhile drop)
    refine first_of_dropWhile drop text char ?_
    rw [← shape, List.head?_append]
    exact Option.or_eq_some_iff.mpr (.inl first)
  · intro char last
    rw [trimBy, trimEndBy, List.getLast?_reverse] at last
    exact first_of_dropWhile drop _ char last

/-- Trimming leaves the part of a text whose ends fail the test, between two that pass it
throughout. -/
theorem trimBy_eq_iff : trimBy drop text = core ↔ ∃ before after, text = before ++ core ++ after ∧
    (∀ char ∈ before, drop char) ∧ (∀ char ∈ after, drop char) ∧ IsTrimmedOf drop core := by
  constructor
  · rintro rfl
    refine ⟨text.takeWhile drop, (text.dropWhile drop).rtakeWhile drop, ?_,
      fun _ => List.mem_takeWhile_imp, fun _ => List.mem_rtakeWhile_imp,
      isTrimmedOf_trimBy drop text⟩
    have back : trimBy drop text ++ (text.dropWhile drop).rtakeWhile drop = text.dropWhile drop :=
      List.rdropWhile_append_rtakeWhile
    rw [List.append_assoc, back, List.takeWhile_append_dropWhile]
  · rintro ⟨before, after, rfl, dropBefore, dropAfter, trimmed⟩
    rw [trimBy, trimStartBy, List.append_assoc, List.dropWhile_append_of_pos dropBefore]
    cases core with
    | nil =>
        rw [List.nil_append, List.dropWhile_eq_nil_iff.mpr dropAfter]
        rfl
    | cons first core =>
        have kept : ∀ char ∈ (first :: core ++ after).head?, drop char = false := trimmed.first
        rw [dropWhile_of_first kept, trimEndBy, List.reverse_append, List.dropWhile_append_of_pos
            fun char listed => dropAfter char (List.mem_reverse.mp listed),
          dropWhile_of_first trimmed.reverse.first, List.reverse_reverse]

/-- What is dropped at the front reaches to the first character that is kept. -/
theorem trimBy_append_of_first {front : Text} (dropFront : ∀ char ∈ front, drop char)
    (kept : ∀ char ∈ text.head?, drop char = false) :
    trimBy drop (front ++ text) = trimEndBy drop text := by
  rw [trimBy, trimStartBy, List.dropWhile_append_of_pos dropFront, dropWhile_of_first kept]

/-- What is dropped at the end does not reach past a character that is kept. -/
theorem trimEndBy_append_of_kept (kept : ∃ char ∈ text, drop char = false) (front : Text) :
    trimEndBy drop (front ++ text) = front ++ trimEndBy drop text := by
  have left : (text.reverse.dropWhile drop).isEmpty = false := by
    obtain ⟨char, present, outside⟩ := kept
    rw [List.isEmpty_eq_false_iff, Ne, List.dropWhile_eq_nil_iff]
    exact fun all => absurd (all char (List.mem_reverse.mpr present)) (by simp [outside])
  rw [trimEndBy, trimEndBy, List.reverse_append, List.dropWhile_append, left,
    if_neg Bool.false_ne_true, List.reverse_append, List.reverse_reverse]

/-- Trimming changes nothing exactly when the text is trimmed already. -/
theorem trimBy_eq_self_iff : trimBy drop text = text ↔ IsTrimmedOf drop text := by
  constructor
  · intro same
    exact same ▸ isTrimmedOf_trimBy drop text
  · intro trimmed
    exact trimBy_eq_iff.mpr ⟨[], [], by simp, nofun, nofun, trimmed⟩

/-- Trimming works the same from both ends. -/
theorem trimBy_reverse (drop : Char → Bool) (text : Text) :
    trimBy drop text.reverse = (trimBy drop text).reverse := by
  obtain ⟨before, after, whole, dropBefore, dropAfter, trimmed⟩ :=
    trimBy_eq_iff.mp (Eq.refl (trimBy drop text))
  refine trimBy_eq_iff.mpr ⟨after.reverse, before.reverse, ?_, by simpa using dropAfter,
    by simpa using dropBefore, trimmed.reverse⟩
  conv_lhs => rw [whole]
  simp

/-- What trimming leaves is a part of the text. -/
theorem trimBy_isInfix (drop : Char → Bool) (text : Text) : trimBy drop text <:+: text :=
  (List.rdropWhile_prefix drop _).isInfix.trans (List.dropWhile_suffix drop).isInfix

/-! ## Marks side by side -/

/-- Two characters that are not both the same mark. -/
def IsApart (mark : Char) (one other : Char) : Prop :=
  ¬ (one = mark ∧ other = mark)

/-- Marks stand apart when no two stand side by side. -/
theorem isChain_isApart_iff : text.IsChain (IsApart mark) ↔ ¬ [mark, mark] <:+: text := by
  rw [List.isChain_iff_forall_rel_of_append_cons_cons]
  constructor
  · rintro apart ⟨before, after, whole⟩
    exact apart (by simpa using whole.symm) ⟨rfl, rfl⟩
  · rintro absent one other before after rfl ⟨rfl, rfl⟩
    exact absent ⟨before, after, by simp⟩

/-- Right behind a run no other begins. -/
theorem first_of_replaceRunsFrom_true (replacement text : Text) :
    ∀ char ∈ (replaceRunsFrom test replacement true text).head?, test char = false := by
  induction text with
  | nil => exact nofun
  | cons first text inductionHypothesis =>
      rw [replaceRunsFrom]
      by_cases inside : test first
      · rw [if_pos inside]
        exact inductionHypothesis
      · rw [if_neg inside]
        rintro _ ⟨⟩
        simpa using inside

/-- After runs were replaced, a text begins with the mark or with its own first character. -/
theorem first_of_replaceRunsFrom_false (text : Text) :
    ∀ char ∈ (replaceRunsFrom test [mark] false text).head?,
      char = mark ∨ test char = false ∧ char ∈ text.head? := by
  cases text with
  | nil => exact nofun
  | cons first text =>
      rw [replaceRunsFrom]
      by_cases inside : test first
      · rw [if_pos inside]
        rintro _ ⟨⟩
        exact .inl rfl
      · rw [if_neg inside]
        rintro _ ⟨⟩
        exact .inr ⟨by simpa using inside, rfl⟩

/-- Where each run becomes one mark, what was outside the runs has its neighbour still, or the
mark. -/
theorem isChain_replaceRuns {relation : Char → Char → Prop}
    (front : ∀ char, test char = false → relation char mark)
    (back : ∀ char, test char = false → relation mark char)
    (source : text.IsChain fun one other => test one = false → test other = false →
      relation one other) :
    (replaceRuns test [mark] text).IsChain relation := by
  suffices each : ∀ within, (replaceRunsFrom test [mark] within text).IsChain relation from
    each false
  induction text with
  | nil => exact fun _ => .nil
  | cons first text inductionHypothesis =>
      obtain ⟨beside, source⟩ := List.isChain_cons.mp source
      intro within
      rw [replaceRunsFrom]
      split_ifs with inside
      · exact inductionHypothesis source true
      · exact List.isChain_cons.mpr ⟨fun char listed =>
            back char (first_of_replaceRunsFrom_true _ _ char listed),
          inductionHypothesis source true⟩
      · have outside : test first = false := by simpa using inside
        refine List.isChain_cons.mpr ⟨fun char listed => ?_, inductionHypothesis source false⟩
        rcases first_of_replaceRunsFrom_false text char listed with rfl | ⟨other, next⟩
        · exact front first outside
        · exact beside char next outside other

/-- Squeezing leaves no two of the mark together. -/
theorem isChain_squeeze (mark : Char) (text : Text) :
    (squeeze mark text).IsChain (IsApart mark) := by
  refine isChain_replaceRuns (fun char outside same => ?_) (fun char outside same => ?_) ?_
  · exact of_decide_eq_false outside same.1
  · exact of_decide_eq_false outside same.2
  · refine List.Pairwise.isChain (List.pairwise_of_forall fun one other outside _ same => ?_)
    exact of_decide_eq_false outside same.1

/-- What keeps apart from another mark is kept apart by squeezing. -/
theorem IsApart.squeeze (apart : text.IsChain (IsApart other)) (different : mark ≠ other) :
    (Text.squeeze mark text).IsChain (IsApart other) :=
  isChain_replaceRuns (fun _ _ same => different same.2) (fun _ _ same => different same.1)
    (apart.imp fun _ _ beside _ _ => beside)

/-- Of a mark that is not repeated nothing is squeezed. -/
theorem squeeze_of_isApart (apart : text.IsChain (IsApart mark)) :
    Text.squeeze mark text = text := by
  suffices each : ∀ within, (within = true → ∀ char ∈ text.head?, char ≠ mark) →
      replaceRunsFrom (· = mark) [mark] within text = text from each false (by rintro ⟨⟩)
  induction text with
  | nil => exact fun _ _ => rfl
  | cons first text inductionHypothesis =>
      obtain ⟨beside, apart⟩ := List.isChain_cons.mp apart
      intro within behind
      rw [replaceRunsFrom]
      by_cases inside : first = mark
      · have alone : within = false := by
          cases within with
          | false => rfl
          | true => exact absurd inside (behind rfl first rfl)
        rw [if_pos (decide_eq_true inside), alone, inductionHypothesis apart true, inside]
        · rfl
        · exact fun _ char next same => beside char next ⟨inside, same⟩
      · rw [if_neg (by simpa using inside), inductionHypothesis apart false (by rintro ⟨⟩)]

/-- Without long runs, marks stand apart. -/
theorem isChain_dropLongRuns (mark : Char) (text : Text) :
    (dropLongRuns mark text).IsChain (IsApart mark) := by
  suffices each : ∀ length, (dropLongRunsFrom mark length text).IsChain (IsApart mark) from each 0
  have single (length : Nat) : (endRun mark length).IsChain (IsApart mark) := by
    unfold endRun
    split_ifs
    · exact .singleton mark
    · exact .nil
  induction text with
  | nil => exact single
  | cons first text inductionHypothesis =>
      intro length
      rw [dropLongRunsFrom]
      split_ifs with inside
      · exact inductionHypothesis _
      · refine List.isChain_append.mpr ⟨single length, List.isChain_cons.mpr ⟨?_,
          inductionHypothesis 0⟩, ?_⟩
        · exact fun _ _ same => inside same.1
        · rintro _ _ _ ⟨⟩ same
          exact inside same.2

/-- Where no mark is repeated, no run is long. -/
theorem dropLongRuns_of_isApart (apart : text.IsChain (IsApart mark)) :
    dropLongRuns mark text = text := by
  suffices each : dropLongRunsFrom mark 0 text = text ∧
      ((∀ char ∈ text.head?, char ≠ mark) → dropLongRunsFrom mark 1 text = mark :: text) from each.1
  induction text with
  | nil => exact ⟨rfl, fun _ => rfl⟩
  | cons first text inductionHypothesis =>
      obtain ⟨beside, apart⟩ := List.isChain_cons.mp apart
      obtain ⟨outside, behind⟩ := inductionHypothesis apart
      by_cases inside : first = mark
      · refine ⟨?_, fun other => absurd inside (other first rfl)⟩
        rw [dropLongRunsFrom, if_pos inside, behind fun char next same =>
          beside char next ⟨inside, same⟩, inside]
      · refine ⟨?_, fun _ => ?_⟩
        · rw [dropLongRunsFrom, if_neg inside, outside]
          rfl
        · rw [dropLongRunsFrom, if_neg inside, outside]
          rfl

/-! ## What is left of a text -/

/-- The characters that end neither a name nor a part of one: the dash and the dot. -/
def isMark (char : Char) : Bool :=
  char == '-' || char == '.'

/-- A text as it is cleaned but for its ends. -/
def cleanedWithin (text : Text) : Text :=
  squeeze '-' ((dropLongRuns '.' (text.filter fun char =>
    !(char.val == 0 || char == '\\' || reservedChars.contains char))).map fun char =>
      if char = '/' then '-' else char)

/-- A safe name is the cleaned inside, trimmed three times. -/
theorem safeName_eq (text : Text) :
    safeName text = trim (trimBy isMark (trim (cleanedWithin text))) :=
  rfl

/-- A text in which nothing can steer a path, and whose ends are no white space. -/
structure IsHarmless (text : Text) : Prop where
  /-- The character zero is not in it. -/
  zeroFree : IsZeroFree text
  /-- No backslash is in it. -/
  backslash : '\\' ∉ text
  /-- No slash is in it. -/
  slash : '/' ∉ text
  /-- No reserved character is in it. -/
  reserved : ∀ char ∈ reservedChars, char ∉ text
  /-- No two dots stand together. -/
  dots : ¬ ['.', '.'] <:+: text
  /-- No two dashes stand together. -/
  dashes : ¬ ['-', '-'] <:+: text
  /-- Its ends are no white space. -/
  blank : IsTrimmedOf isBlank text

/-- A mark at an edge is not white space. -/
theorem not_isBlank_of_isMark (marked : isMark char = true) : isBlank char = false := by
  rcases Bool.or_eq_true_iff.mp marked with dash | dot
  · rw [eq_of_beq dash]
    rfl
  · rw [eq_of_beq dot]
    rfl

/-- White space is no such mark. -/
theorem not_isMark_of_isBlank (blank : isBlank char = true) : isMark char = false := by
  by_contra marked
  rw [not_isBlank_of_isMark (by simpa using marked)] at blank
  cases blank

/-- What is left inside a text passed the filter, or is a dash for a slash. -/
theorem mem_cleanedWithin (present : char ∈ cleanedWithin text) : char ≠ '/' ∧
    (char.val == 0 || char == '\\' || reservedChars.contains char) = false := by
  rcases mem_replaceRuns present with dash | ⟨dashed, -⟩
  · rw [List.mem_singleton.mp dash]
    decide
  · obtain ⟨old, kept, rfl⟩ := List.mem_map.mp dashed
    split_ifs with slash
    · decide
    · refine ⟨slash, ?_⟩
      rcases mem_dropLongRunsFrom kept with rfl | filtered
      · decide
      · simpa using (List.mem_filter.mp filtered).2

/-- In the cleaned inside no two dots stand side by side. -/
theorem isChain_dots_cleanedWithin (text : Text) :
    (cleanedWithin text).IsChain (IsApart '.') := by
  refine IsApart.squeeze ?_ (by decide)
  have dotted {char : Char} (same : (if char = '/' then '-' else char) = '.') : char = '.' := by
    split_ifs at same
    · cases same
    · exact same
  exact (List.isChain_map _).mpr ((isChain_dropLongRuns '.' _).imp fun one other apart same =>
    apart ⟨dotted same.1, dotted same.2⟩)

/-- A safe name is harmless. -/
theorem isHarmless_safeName (text : Text) : IsHarmless (safeName text) := by
  have part : safeName text <:+: cleanedWithin text :=
    (trimBy_isInfix _ _).trans ((trimBy_isInfix _ _).trans (trimBy_isInfix _ _))
  have kept (char : Char) (present : char ∈ safeName text) :=
    mem_cleanedWithin (part.subset present)
  refine ⟨fun char present zero => ?_, fun present => ?_, fun present => (kept _ present).1 rfl,
    fun char reserved present => ?_, ?_, ?_, isTrimmedOf_trimBy isBlank _⟩
  · have passed := (kept char present).2
    simp [zero] at passed
  · exact absurd (kept _ present).2 (by decide)
  · have passed := (kept char present).2
    simp [reserved] at passed
  · exact fun pair => isChain_isApart_iff.mp (isChain_dots_cleanedWithin text) (pair.trans part)
  · exact fun pair => isChain_isApart_iff.mp (isChain_squeeze '-' _) (pair.trans part)

/-- In a harmless text there is nothing to clean but its ends. -/
theorem IsHarmless.cleanedWithin (harmless : IsHarmless text) : Text.cleanedWithin text = text := by
  have filtered : (text.filter fun char =>
      !(char.val == 0 || char == '\\' || reservedChars.contains char)) = text := by
    refine List.filter_eq_self.mpr fun char present => ?_
    have zero := harmless.zeroFree char present
    have backslash : char ≠ '\\' := fun same => harmless.backslash (same ▸ present)
    have reserved : char ∉ reservedChars := fun listed => harmless.reserved char listed present
    simp [zero, backslash, reserved]
  have dashed : (text.map fun char => if char = '/' then '-' else char) = text := by
    refine (List.map_congr_left fun char present => if_neg ?_).trans (List.map_id text)
    exact fun same => harmless.slash (same ▸ present)
  rw [Text.cleanedWithin, filtered, dropLongRuns_of_isApart (isChain_isApart_iff.mpr harmless.dots),
    dashed, squeeze_of_isApart (isChain_isApart_iff.mpr harmless.dashes)]

/-- Another cleaning leaves a harmless text as it is when no dash or dot is at its ends. -/
theorem IsHarmless.safeName_eq_self_iff (harmless : IsHarmless text) :
    safeName text = text ↔ IsTrimmedOf isMark text := by
  have whole : trim text = text := trimBy_eq_self_iff.mpr harmless.blank
  rw [safeName_eq, harmless.cleanedWithin, whole, ← trimBy_eq_self_iff]
  constructor
  · intro same
    refine (trimBy_isInfix isMark text).eq_of_length_le ?_
    calc text.length = (trim (trimBy isMark text)).length := by rw [same]
      _ ≤ (trimBy isMark text).length := (trimBy_isInfix isBlank _).length_le
  · intro same
    rw [same, whole]

/-! ## Marks behind white space -/

/-- White space parts marks at the front of a text from another mark, and behind that one there is
more than marks, white space at the end apart. -/
def HidesMark (text : Text) : Prop :=
  ∃ around marks blanks mark rest, text = around ++ marks ++ blanks ++ mark :: rest ∧
    (∀ char ∈ around, isBlank char) ∧
    (marks ≠ [] ∧ ∀ char ∈ marks, isMark char) ∧
    (blanks ≠ [] ∧ ∀ char ∈ blanks, isBlank char) ∧
    isMark mark ∧ ∃ char ∈ trimEnd rest, isMark char = false

/-- Nothing is trimmed behind a solid last character. -/
theorem trimEnd_of_last (solid : ∀ char ∈ text.getLast?, isBlank char = false) :
    trimEnd text = text := by
  rw [trimEnd_eq, List.rdropWhile_eq_self_iff]
  intro present
  simp [solid _ (List.getLast?_eq_some_getLast present)]

/-- A mark that is left at the front was hidden by white space from the second trimming. -/
theorem hidesMark_of_first {mark : Char} (first : mark ∈ (trim (trimBy isMark (trim text))).head?)
    (marked : isMark mark) : HidesMark text := by
  -- The three trimmings, from the outermost to the innermost.
  obtain ⟨around, behind, whole, blankAround, blankBehind, outer⟩ :=
    trimBy_eq_iff.mp (Eq.refl (trim text))
  obtain ⟨marks, after, middle, marksFront, -, bare⟩ :=
    trimBy_eq_iff.mp (Eq.refl (trimBy isMark (trim text)))
  obtain ⟨blanks, last, inner, blankFront, -, -⟩ :=
    trimBy_eq_iff.mp (Eq.refl (trim (trimBy isMark (trim text))))
  obtain ⟨rest, core⟩ := List.head?_eq_some_iff.mp first
  rw [core] at inner
  rw [inner] at middle bare
  rw [middle] at whole outer
  have parted : blanks ≠ [] := by
    rintro rfl
    exact absurd marked (by simp [bare.first mark rfl])
  have trimmed : marks ≠ [] := by
    rintro rfl
    obtain ⟨blank, blanks, rfl⟩ := List.exists_cons_of_ne_nil parted
    exact absurd (blankFront blank List.mem_cons_self) (by simp [outer.first blank rfl])
  have ends : rest ++ last ≠ [] := by
    intro empty
    obtain ⟨rfl, rfl⟩ := List.append_eq_nil_iff.mp empty
    exact absurd marked (by simp [bare.last mark (by simp)])
  have solid : ∀ char ∈ (rest ++ last ++ after).getLast?, isBlank char = false := by
    intro char listed
    refine outer.last char ?_
    have shape : marks ++ (blanks ++ mark :: rest ++ last) ++ after =
        marks ++ blanks ++ [mark] ++ (rest ++ last ++ after) := by simp
    rw [shape, List.getLast?_append, listed]
    rfl
  have other : isMark ((rest ++ last).getLast ends) = false := by
    refine bare.last _ ?_
    have shape : blanks ++ mark :: rest ++ last = blanks ++ [mark] ++ (rest ++ last) := by simp
    rw [shape, List.getLast?_append, List.getLast?_eq_some_getLast ends]
    rfl
  refine ⟨around, marks, blanks, mark, rest ++ last ++ after ++ behind, by simpa using whole,
    blankAround, ⟨trimmed, marksFront⟩, ⟨parted, blankFront⟩, marked, _, ?_, other⟩
  rw [trimEnd_append_of_isAllBlank _ (List.all_eq_true.mpr blankBehind), trimEnd_of_last solid]
  exact List.mem_append_left _ (List.getLast_mem ends)

/-- A text that hides a mark at its front begins with one after cleaning. -/
theorem HidesMark.first (hides : HidesMark text) :
    ∃ char ∈ (trim (trimBy isMark (trim text))).head?, isMark char := by
  obtain ⟨around, marks, blanks, mark, rest, rfl, blankAround, ⟨trimmed, marksFront⟩,
    ⟨parted, blankFront⟩, marked, char, kept, other⟩ := hides
  have markSolid : isBlank mark = false := not_isBlank_of_isMark marked
  have outer : trim (around ++ marks ++ blanks ++ mark :: rest) =
      marks ++ (blanks ++ mark :: trimEnd rest) := by
    have solid : ∀ char ∈ (marks ++ (blanks ++ mark :: rest)).head?, isBlank char = false := by
      obtain ⟨first, marks, rfl⟩ := List.exists_cons_of_ne_nil trimmed
      rintro _ ⟨⟩
      exact not_isBlank_of_isMark (marksFront first List.mem_cons_self)
    have back : trimEnd (mark :: rest) = mark :: trimEnd rest :=
      trimEnd_cons_of_not_blank (by simp [markSolid]) rest
    rw [List.append_assoc, List.append_assoc]
    refine (trimBy_append_of_first blankAround solid).trans ?_
    rw [← List.append_assoc, trimEndBy_append_of_kept ⟨mark, List.mem_cons_self, markSolid⟩,
      ← trimEnd, back, List.append_assoc]
  have inner : trimBy isMark (marks ++ (blanks ++ mark :: trimEnd rest)) =
      blanks ++ mark :: trimEndBy isMark (trimEnd rest) := by
    have bare : ∀ char ∈ (blanks ++ mark :: trimEnd rest).head?, isMark char = false := by
      obtain ⟨first, blanks, rfl⟩ := List.exists_cons_of_ne_nil parted
      rintro _ ⟨⟩
      exact not_isMark_of_isBlank (blankFront first List.mem_cons_self)
    rw [trimBy_append_of_first marksFront bare, List.append_cons,
      trimEndBy_append_of_kept ⟨char, kept, other⟩, ← List.append_cons]
  have core : trim (blanks ++ mark :: trimEndBy isMark (trimEnd rest)) =
      mark :: trimEnd (trimEndBy isMark (trimEnd rest)) :=
    (trimBy_append_of_first blankFront (by rintro _ ⟨⟩; exact markSolid)).trans
      (trimEnd_cons_of_not_blank (by simp [markSolid]) _)
  exact ⟨mark, by rw [outer, inner, core]; rfl, marked⟩

/-- It begins with a mark after cleaning exactly when it hides one at the front. -/
theorem first_of_trimmed : (∃ char ∈ (trim (trimBy isMark (trim text))).head?, isMark char) ↔
    HidesMark text :=
  ⟨fun ⟨_, first, marked⟩ => hidesMark_of_first first marked, HidesMark.first⟩

/-- It ends with one exactly when it hides one at the end. -/
theorem last_of_trimmed : (∃ char ∈ (trim (trimBy isMark (trim text))).getLast?, isMark char) ↔
    HidesMark text.reverse := by
  rw [← first_of_trimmed]
  simp only [trim, trimBy_reverse, List.head?_reverse]

/-- Whatever a text was, cleaning leaves it harmless. It leaves a text that another cleaning does
not change exactly when no dash or dot is left at an end; and one is left exactly when white space
hides it there. -/
theorem safeName_settles_iff (text : Text) : IsHarmless (safeName text) ∧
    (safeName (safeName text) = safeName text ↔ IsTrimmedOf isMark (safeName text)) ∧
    (IsTrimmedOf isMark (safeName text) ↔
      ¬ HidesMark (cleanedWithin text) ∧ ¬ HidesMark (cleanedWithin text).reverse) := by
  refine ⟨isHarmless_safeName text, (isHarmless_safeName text).safeName_eq_self_iff, ?_⟩
  rw [safeName_eq, ← first_of_trimmed, ← last_of_trimmed]
  constructor
  · rintro ⟨first, last⟩
    constructor
    · rintro ⟨char, listed, marked⟩
      exact absurd marked (by simp [first char listed])
    · rintro ⟨char, listed, marked⟩
      exact absurd marked (by simp [last char listed])
  · rintro ⟨first, last⟩
    constructor
    · exact fun char listed => by simpa using fun marked => first ⟨char, listed, marked⟩
    · exact fun char listed => by simpa using fun marked => last ⟨char, listed, marked⟩

/-- A dash in front of white space stays at the end, and another cleaning takes it away. -/
theorem partedDash_stays : safeName "a- -" = "a-" ∧ ¬ IsTrimmedOf isMark (safeName "a- -") ∧
    safeName (safeName "a- -") ≠ safeName "a- -" := by
  have once : safeName "a- -" = "a-" := by decide +kernel
  have twice : safeName "a-" = "a" := by decide +kernel
  rw [once, twice]
  exact ⟨rfl, fun trimmed => Bool.noConfusion (trimmed.2 '-' rfl), by decide⟩

end Issuebook.Text
