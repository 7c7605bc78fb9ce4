import Issuebook.Proofs.Text.Trimming
import Issuebook.Text.Basic
import Mathlib.Data.List.Basic
import Mathlib.Tactic.SplitIfs

/-!
# Lines of a text

Cutting a text at its line boundaries and joining lines by line feeds. The main statements
are `lines_terminated`, which reads back lines that were each ended by a line feed, and
`lines_append_feed`, which cuts a text at a line feed inside it.
-/

namespace Issuebook.Text

variable {char : Char} {line text : Text}

/-- A text without line boundaries. -/
def IsSingleLine (text : Text) : Prop :=
  ∀ char ∈ text, ¬ isLineBreak char

instance (text : Text) : Decidable (IsSingleLine text) :=
  List.decidableBAll _ _

/-- Lines, each ended by a line feed. -/
def terminated (lines : List Text) : Text :=
  lines.flatMap fun line => line ++ ['\n']

/-- No line is no text. -/
@[simp] theorem terminated_nil : terminated [] = [] := rfl

/-- The first line stands in front, with its line feed. -/
@[simp] theorem terminated_cons (line : Text) (lines : List Text) :
    terminated (line :: lines) = line ++ '\n' :: terminated lines := by
  simp [terminated]

/-- Lines behind others stand behind them. -/
@[simp] theorem terminated_append (first second : List Text) :
    terminated (first ++ second) = terminated first ++ terminated second := by
  simp [terminated]

/-- A line break is white space. -/
theorem isBlank_of_isLineBreak (ends : isLineBreak char) : isBlank char := by
  simp only [isLineBreak, isBlank, Bool.or_eq_true, Bool.and_eq_true, decide_eq_true_eq,
    beq_iff_eq] at ends ⊢
  omega

/-- The empty text has no lines. -/
@[simp] theorem lines_nil : lines [] = [] := by
  simp [lines]

/-- A carriage return makes no difference in front of a line feed. -/
theorem lines_return_feed (text : Text) : lines ('\r' :: '\n' :: text) = lines ('\n' :: text) := by
  have feed : isLineBreak '\n' := by decide
  rw [lines, lines, if_pos feed]
  simp

/-- A character in front belongs to the first line. -/
theorem lines_cons_of_not_break (inLine : ¬ isLineBreak char) (text : Text) :
    lines (char :: text) = consLine char (lines text) := by
  rw [lines, if_neg inLine]
  rintro rest rfl
  exact absurd (by decide) inLine

/-- A line break in front ends an empty line. -/
theorem lines_cons_of_break (ends : isLineBreak char) (text : Text)
    (alone : char = '\r' → text.head? ≠ some '\n') :
    lines (char :: text) = [] :: lines text := by
  rw [lines, if_pos ends]
  rintro rest rfl rfl
  exact alone rfl rfl

/-- So does a line feed. -/
@[simp] theorem lines_feed (text : Text) : lines ('\n' :: text) = [] :: lines text :=
  lines_cons_of_break (by decide) text fun isReturn => absurd isReturn (by decide)

/-- Every character that ends a line begins an empty first line, or is swallowed by the line
feed behind it. -/
theorem lines_cons_cases (char : Char) (text : Text) :
    (¬ isLineBreak char ∧ lines (char :: text) = consLine char (lines text)) ∨
    (isLineBreak char ∧ lines (char :: text) = [] :: lines text) ∨
    (char = '\r' ∧ lines (char :: text) = lines text) := by
  by_cases ends : isLineBreak char
  · by_cases pair : char = '\r' ∧ text.head? = some '\n'
    · obtain ⟨rfl, feed⟩ := pair
      obtain ⟨rest, rfl⟩ := List.head?_eq_some_iff.mp feed
      exact .inr (.inr ⟨rfl, lines_return_feed rest⟩)
    · exact .inr (.inl ⟨ends, lines_cons_of_break ends text fun isReturn feed =>
        pair ⟨isReturn, feed⟩⟩)
  · exact .inl ⟨ends, lines_cons_of_not_break ends text⟩

/-- A line with its line feed is the first of the lines. -/
theorem lines_single_append (single : IsSingleLine line) (text : Text) :
    lines (line ++ '\n' :: text) = line :: lines text := by
  induction line with
  | nil => simp
  | cons char line inductionHypothesis =>
      have rest := inductionHypothesis fun other present => single other (by simp [present])
      rw [List.cons_append, lines_cons_of_not_break (single char (by simp)), rest, consLine]

/-- Lines that are each ended by a line feed are read back, in front of any text. -/
theorem lines_terminated_append {lines : List Text} (single : ∀ line ∈ lines, IsSingleLine line)
    (text : Text) : Text.lines (terminated lines ++ text) = lines ++ Text.lines text := by
  induction lines with
  | nil => simp
  | cons line lines inductionHypothesis =>
      have rest := inductionHypothesis fun other present => single other (by simp [present])
      rw [terminated_cons, List.append_assoc, List.cons_append,
        lines_single_append (single line (by simp)), rest, List.cons_append]

/-- Lines that were terminated are read back. -/
theorem lines_terminated {lines : List Text} (single : ∀ line ∈ lines, IsSingleLine line) :
    Text.lines (terminated lines) = lines := by
  simpa using lines_terminated_append single []

/-- Without carriage returns nothing changes. -/
theorem withLineFeeds_of_absent (absent : '\r' ∉ text) : withLineFeeds text = text := by
  induction text with
  | nil => rfl
  | cons char text inductionHypothesis =>
      obtain ⟨here, later⟩ := List.ne_and_not_mem_of_not_mem_cons absent
      rw [withLineFeeds, if_neg (Ne.symm here), inductionHypothesis later]
      exact fun _ same => absurd same.symm here

/-- Carriage returns that are read as line feeds end the same lines. -/
theorem lines_withLineFeeds (text : Text) : lines (withLineFeeds text) = lines text := by
  induction text using withLineFeeds.induct with
  | case1 => rfl
  | case2 rest inductionHypothesis =>
      rw [withLineFeeds, lines_feed, inductionHypothesis, lines_return_feed, lines_feed]
  | case3 char rest apart inductionHypothesis =>
      rw [withLineFeeds.eq_3 char rest apart]
      by_cases isReturn : char = '\r'
      · subst isReturn
        have alone : rest.head? ≠ some '\n' := by
          intro feed
          obtain ⟨later, shape⟩ := List.head?_eq_some_iff.mp feed
          exact apart later rfl shape
        rw [if_pos rfl, lines_feed, inductionHypothesis,
          lines_cons_of_break (by decide) rest fun _ => alone]
      · rw [if_neg isReturn]
        by_cases ends : isLineBreak char
        · rw [lines_cons_of_break ends _ fun same => absurd same isReturn,
            lines_cons_of_break ends _ fun same => absurd same isReturn, inductionHypothesis]
        · rw [lines_cons_of_not_break ends, lines_cons_of_not_break ends, inductionHypothesis]

/-- A character in front of several parts belongs to the first. -/
theorem consLine_append (char : Char) {first : List Text} (present : first ≠ [])
    (second : List Text) : consLine char (first ++ second) = consLine char first ++ second := by
  cases first with
  | nil => exact absurd rfl present
  | cons line lines => rfl

/-- It is put before the first line. -/
theorem consLine_eq (char : Char) (lines : List Text) :
    consLine char lines = (char :: lines.headD []) :: lines.tail := by
  cases lines <;> rfl

/-- Text without line boundaries stays in front of the first line behind it. -/
theorem lines_append_of_single (present : line ≠ []) (single : IsSingleLine line) (text : Text) :
    lines (line ++ text) = (line ++ (lines text).headD []) :: (lines text).tail := by
  induction line with
  | nil => exact absurd rfl present
  | cons char line inductionHypothesis =>
      have inLine : ¬ isLineBreak char := single char (by simp)
      have rest : IsSingleLine line := fun other place => single other (by simp [place])
      rw [List.cons_append, lines_cons_of_not_break inLine]
      by_cases last : line = []
      · subst last
        exact consLine_eq char _
      · rw [inductionHypothesis last rest]
        rfl

/-- A text without line breaks is its only line. -/
theorem lines_of_single (present : text ≠ []) (single : IsSingleLine text) :
    lines text = [text] := by
  simpa using lines_append_of_single present single []

/-- A text that is not empty has a line. -/
theorem lines_ne_nil (present : text ≠ []) : lines text ≠ [] := by
  induction text with
  | nil => exact absurd rfl present
  | cons char text inductionHypothesis =>
      rcases lines_cons_cases char text with ⟨_, shape⟩ | ⟨_, shape⟩ | ⟨rfl, shape⟩
      · rw [shape]
        cases lines text <;> simp [consLine]
      · simp [shape]
      · cases text with
        | nil => simp [lines, isLineBreak] at shape
        | cons next rest => exact shape ▸ inductionHypothesis (by simp)

/-- A line feed separates what stands before it from what stands behind it. -/
theorem lines_append_feed (first second : Text) :
    lines (first ++ '\n' :: second) = lines (first ++ ['\n']) ++ lines second := by
  induction first with
  | nil => simp
  | cons char first inductionHypothesis =>
      have nonempty : lines (first ++ ['\n']) ≠ [] := lines_ne_nil (by simp)
      have sameHead : (first ++ '\n' :: second).head? = (first ++ ['\n']).head? := by
        cases first <;> rfl
      rw [List.cons_append, List.cons_append]
      by_cases ends : isLineBreak char
      · by_cases pair : char = '\r' ∧ (first ++ ['\n']).head? = some '\n'
        · obtain ⟨rfl, feed⟩ := pair
          obtain ⟨rest, shape⟩ := List.head?_eq_some_iff.mp feed
          obtain ⟨longRest, longShape⟩ := List.head?_eq_some_iff.mp (sameHead.trans feed)
          rw [longShape, shape, lines_return_feed, lines_return_feed, ← longShape, ← shape,
            inductionHypothesis]
        · have alone : char = '\r' → (first ++ ['\n']).head? ≠ some '\n' :=
            fun isReturn feed => pair ⟨isReturn, feed⟩
          rw [lines_cons_of_break ends _ (sameHead ▸ alone), lines_cons_of_break ends _ alone,
            inductionHypothesis, List.cons_append]
      · rw [lines_cons_of_not_break ends, lines_cons_of_not_break ends, inductionHypothesis,
          consLine_append char nonempty]

/-- Lines that end with a line feed each are cut off before any text. -/
theorem lines_terminated_cut (pieces : List Text) (text : Text) :
    lines (terminated pieces ++ text) = lines (terminated pieces) ++ lines text := by
  induction pieces with
  | nil => simp
  | cons piece pieces inductionHypothesis =>
      rw [terminated_cons, List.append_assoc, List.cons_append, lines_append_feed,
        lines_append_feed piece (terminated pieces), inductionHypothesis, List.append_assoc]

/-- One more character at the end changes nothing, adds a line, or belongs to the last line. -/
theorem lines_concat_cases (text : Text) (char : Char) :
    lines (text ++ [char]) = lines text ∨
    (∃ line, (line = [] ∨ line = [char]) ∧ lines (text ++ [char]) = lines text ++ [line]) ∨
    ∃ front last, lines text = front ++ [last] ∧
      lines (text ++ [char]) = front ++ [last ++ [char]] := by
  induction text with
  | nil =>
      rcases lines_cons_cases char [] with ⟨-, shape⟩ | ⟨-, shape⟩ | ⟨-, shape⟩
      · exact .inr (.inl ⟨[char], .inr rfl, shape⟩)
      · exact .inr (.inl ⟨[], .inl rfl, by simpa using shape⟩)
      · exact .inl shape
  | cons first text inductionHypothesis =>
      rw [List.cons_append]
      by_cases ends : isLineBreak first
      -- A return and a line feed are one break, so the feed may be the character at the end.
      · by_cases pair : first = '\r' ∧ (text ++ [char]).head? = some '\n'
        · obtain ⟨rfl, feed⟩ := pair
          obtain ⟨rest, shape⟩ := List.head?_eq_some_iff.mp feed
          rw [shape, lines_return_feed, ← shape]
          cases text with
          | nil =>
              obtain ⟨rfl, -⟩ := List.cons.inj shape
              refine .inl ?_
              rw [lines_cons_of_break ends [] (by simp)]
              simp
          | cons second text =>
              obtain ⟨rfl, -⟩ := List.cons.inj shape
              rwa [lines_return_feed]
        · have alone : first = '\r' → (text ++ [char]).head? ≠ some '\n' :=
            fun isReturn feed => pair ⟨isReturn, feed⟩
          have aloneBefore : first = '\r' → text.head? ≠ some '\n' := by
            intro isReturn feed
            refine alone isReturn ?_
            rw [List.head?_append, feed]
            rfl
          rw [lines_cons_of_break ends _ alone, lines_cons_of_break ends _ aloneBefore]
          rcases inductionHypothesis with same | ⟨line, blank, more⟩ | ⟨front, last, shape, more⟩
          · exact .inl (by rw [same])
          · exact .inr (.inl ⟨line, blank, by rw [more, List.cons_append]⟩)
          · exact .inr (.inr ⟨[] :: front, last, by rw [shape, List.cons_append],
              by rw [more, List.cons_append]⟩)
      · rw [lines_cons_of_not_break ends, lines_cons_of_not_break ends]
        rcases inductionHypothesis with same | ⟨line, blank, more⟩ | ⟨front, last, shape, more⟩
        · exact .inl (by rw [same])
        -- A line that is added behind no line joins the character in front.
        · by_cases empty : lines text = []
          · rw [more, empty]
            rcases blank with rfl | rfl
            · exact .inl rfl
            · exact .inr (.inr ⟨[], [first], rfl, rfl⟩)
          · exact .inr (.inl ⟨line, blank, by rw [more, consLine_append first empty]⟩)
        · rw [more, shape]
          cases front with
          | nil => exact .inr (.inr ⟨[], first :: last, rfl, rfl⟩)
          | cons line front =>
              exact .inr (.inr ⟨(first :: line) :: front, last, rfl, rfl⟩)

/-- With a character in front, a line is an old one, or one with that character. -/
theorem mem_consLine {found : Text} {lines : List Text} (present : found ∈ consLine char lines) :
    found ∈ lines ∨ ∃ line, (line = [] ∨ line ∈ lines) ∧ found = char :: line := by
  cases lines with
  | nil => exact .inr ⟨[], .inl rfl, by simpa [consLine] using present⟩
  | cons line lines =>
      rcases List.mem_cons.mp present with rfl | present
      · exact .inr ⟨line, .inr (by simp), rfl⟩
      · exact .inl (by simp [present])

/-- No line holds a line boundary. -/
theorem isSingleLine_of_mem_lines (present : line ∈ lines text) : IsSingleLine line := by
  induction text generalizing line with
  | nil => simp at present
  | cons char text inductionHypothesis =>
      rcases lines_cons_cases char text with ⟨inLine, shape⟩ | ⟨_, shape⟩ | ⟨_, shape⟩
      · rw [shape] at present
        rcases mem_consLine present with present | ⟨line, origin, rfl⟩
        · exact inductionHypothesis present
        · intro other place
          rcases List.mem_cons.mp place with rfl | place
          · exact inLine
          · rcases origin with rfl | origin
            · simp at place
            · exact inductionHypothesis origin other place
      · rw [shape] at present
        rcases List.mem_cons.mp present with rfl | present
        · simp [IsSingleLine]
        · exact inductionHypothesis present
      · exact inductionHypothesis (shape ▸ present)

/-- The first of several lines is followed by a line feed. -/
theorem unlines_cons {line : Text} {lines : List Text} (present : lines ≠ []) :
    unlines (line :: lines) = line ++ '\n' :: unlines lines := by
  cases lines with
  | nil => exact absurd rfl present
  | cons next lines => simp [unlines, join]

/-- A line at the end follows a line feed, if it is not the only one. -/
theorem unlines_concat (front : List Text) (line : Text) :
    unlines (front ++ [line]) =
      if front = [] then line else unlines front ++ '\n' :: line := by
  induction front with
  | nil => rfl
  | cons first front inductionHypothesis =>
      rw [List.cons_append, unlines_cons (by simp), inductionHypothesis]
      by_cases empty : front = []
      · simp [empty, unlines, join]
      · rw [if_neg empty, if_neg (by simp), unlines_cons empty, List.append_assoc,
          List.cons_append]

/-- Joined lines with a line feed behind them are lines that are each ended by one. -/
theorem unlines_append_feed {lines : List Text} (present : lines ≠ []) :
    unlines lines ++ ['\n'] = terminated lines := by
  induction lines with
  | nil => exact absurd rfl present
  | cons line lines inductionHypothesis =>
      cases lines with
      | nil => simp [unlines, join]
      | cons next lines =>
          have rest := inductionHypothesis (by simp)
          rw [unlines_cons (by simp), List.append_assoc, List.cons_append, rest, ← terminated_cons]

/-- A blank line at the end is trimmed away. -/
theorem trim_unlines_concat_of_isAllBlank (front : List Text) (blank : isAllBlank line) :
    trim (unlines (front ++ [line])) = trim (unlines front) := by
  rw [unlines_concat]
  split_ifs with empty
  · rw [(trim_eq_nil_iff line).mpr blank, empty]
    rfl
  · refine trim_append_of_isAllBlank _ ?_
    have feed : isBlank '\n' := by decide
    simpa [isAllBlank, feed] using blank

/-- So is an empty line in front. -/
theorem trim_unlines_cons (lines : List Text) :
    trim (unlines ([] :: lines)) = trim (unlines lines) := by
  cases lines with
  | nil => rfl
  | cons line lines =>
      rw [unlines_cons (by simp), List.nil_append, trim_cons_of_blank (by decide)]

/-- A line that is not blank makes a difference in front of others. -/
theorem trim_unlines_cons_ne {line : Text} (solid : ¬ isAllBlank line) (lines : List Text) :
    trim (unlines (line :: lines)) ≠ trim (unlines lines) := by
  intro same
  obtain ⟨char, present, inked⟩ : ∃ char ∈ line, isBlank char = false := by
    simpa [isAllBlank] using solid
  have more : 0 < line.countP (fun char => !isBlank char) :=
    List.countP_pos_iff.mpr ⟨char, present, by simp [inked]⟩
  have counts := congrArg (List.countP fun char => !isBlank char) same
  rw [countP_trim, countP_trim] at counts
  cases lines with
  | nil =>
      rw [show unlines [line] = line from rfl, show unlines [] = [] from rfl,
        List.countP_nil] at counts
      exact Nat.ne_of_gt more counts
  | cons next lines =>
      rw [unlines_cons (List.cons_ne_nil _ _), List.countP_append, List.countP_cons] at counts
      omega

/-- A line feed at the end adds no line but an empty one. -/
theorem filterMap_lines_append_feed {β : Type} {test : Text → Option β} (blank : test [] = none)
    (text : Text) : (lines (text ++ ['\n'])).filterMap test = (lines text).filterMap test := by
  have single : ∀ line, line ++ ['\n'] ∉ lines (text ++ ['\n']) := fun line present =>
    isSingleLine_of_mem_lines present '\n' (by simp) (by decide)
  rcases lines_concat_cases text '\n' with same | ⟨line, rfl | rfl, more⟩ | ⟨front, last, -, more⟩
  · rw [same]
  · rw [more, List.filterMap_append, List.filterMap_cons_none blank, List.filterMap_nil,
      List.append_nil]
  · exact absurd (by simp [more]) (single [])
  · exact absurd (by simp [more]) (single last)

/-- What is found in the lines of joined texts is found in one text after the other. -/
theorem filterMap_lines_unlines {β : Type} {test : Text → Option β} (blank : test [] = none)
    (texts : List Text) : (lines (unlines texts)).filterMap test =
      texts.flatMap fun text => (lines text).filterMap test := by
  induction texts with
  | nil => rfl
  | cons text texts inductionHypothesis =>
      by_cases last : texts = []
      · rw [last, List.flatMap_singleton]
        rfl
      · rw [unlines_cons last, lines_append_feed, List.filterMap_append,
          filterMap_lines_append_feed blank, inductionHypothesis, List.flatMap_cons]

/-- What holds of an empty line holds of all lines of joined texts when it holds of the lines of
each text. -/
theorem forall_lines_unlines {holds : Text → Prop} (blank : holds []) (texts : List Text) :
    (∀ line ∈ lines (unlines texts), holds line) ↔
      ∀ text ∈ texts, ∀ line ∈ lines text, holds line := by
  classical
  let test (line : Text) : Option Unit := if holds line then none else some ()
  have found (texts : List Text) : texts.filterMap test = [] ↔ ∀ line ∈ texts, holds line := by
    simp [test, List.filterMap_eq_nil_iff]
  have joined := filterMap_lines_unlines (show test [] = none from if_pos blank) texts
  rw [← found, joined, List.flatMap_eq_nil_iff]
  simp only [found]

/-- What holds of every character of the separator and of the pieces holds of every character
between. -/
theorem forall_mem_join {holds : Char → Prop} {separator : Text}
    (between : ∀ char ∈ separator, holds char) {pieces : List Text}
    (each : ∀ piece ∈ pieces, ∀ char ∈ piece, holds char) :
    ∀ char ∈ join separator pieces, holds char := by
  induction pieces with
  | nil => exact fun _ present => absurd present List.not_mem_nil
  | cons piece pieces inductionHypothesis =>
      obtain ⟨first, later⟩ := List.forall_mem_cons.mp each
      cases pieces with
      | nil => exact first
      | cons next pieces =>
          have front : ∀ char ∈ piece ++ separator, holds char :=
            List.forall_mem_append.mpr ⟨first, between⟩
          exact List.forall_mem_append.mpr ⟨front, inductionHypothesis later⟩

/-- What is neither in the separator nor in a piece is not in what is joined. -/
theorem not_mem_join {mark : Char} {separator : Text} (apart : mark ∉ separator)
    {pieces : List Text} (each : ∀ piece ∈ pieces, mark ∉ piece) :
    mark ∉ join separator pieces := by
  have others : ∀ char ∈ join separator pieces, char ≠ mark :=
    forall_mem_join (fun char place (same : char = mark) => apart (same ▸ place))
      fun piece listed char place (same : char = mark) => each piece listed (same ▸ place)
  exact fun present => others mark present rfl

/-- The characters of a piece are those of the text. -/
theorem mem_of_mem_splitOn {mark char : Char} {piece : Text} (part : piece ∈ splitOn mark text)
    (present : char ∈ piece) : char ∈ text := by
  induction text generalizing piece with
  | nil =>
      obtain rfl := List.mem_singleton.mp part
      cases present
  | cons first text inductionHypothesis =>
      rw [splitOn] at part
      split_ifs at part
      · rcases List.mem_cons.mp part with rfl | part
        · cases present
        · exact List.mem_cons_of_mem _ (inductionHypothesis part present)
      · split at part
        · obtain rfl := List.mem_singleton.mp part
          obtain rfl := List.mem_singleton.mp present
          exact List.mem_cons_self
        · rename_i next pieces split
          rcases List.mem_cons.mp part with rfl | part
          · rcases List.mem_cons.mp present with rfl | present
            · exact List.mem_cons_self
            · exact List.mem_cons_of_mem _ (inductionHypothesis (by simp [split]) present)
          · exact List.mem_cons_of_mem _ (inductionHypothesis (by simp [split, part]) present)

end Issuebook.Text

/-!
## Cutting a text at its marks

The pieces between the marks of a text: `splitOn_append` cuts one piece off, and `splitOn_shape`
puts the pieces together again.
-/

namespace Issuebook.Text

variable {mark : Char} {text first : Text}

/-- Without the mark a text is its only piece. -/
theorem splitOn_of_absent (absent : mark ∉ text) : splitOn mark text = [text] := by
  induction text with
  | nil => rfl
  | cons char text inductionHypothesis =>
      have parts : mark ≠ char ∧ mark ∉ text := by
        simpa using absent
      rw [splitOn, if_neg (Ne.symm parts.1), inductionHypothesis parts.2]

/-- No piece has the mark. -/
theorem not_mem_of_mem_splitOn {piece : Text} (part : piece ∈ splitOn mark text) :
    mark ∉ piece := by
  induction text generalizing piece with
  | nil =>
      obtain rfl := List.mem_singleton.mp part
      exact List.not_mem_nil
  | cons char text inductionHypothesis =>
      rw [splitOn] at part
      split_ifs at part with same
      · rcases List.mem_cons.mp part with rfl | part
        · exact List.not_mem_nil
        · exact inductionHypothesis part
      · split at part
        · obtain rfl := List.mem_singleton.mp part
          exact fun listed => same (List.mem_singleton.mp listed).symm
        · rename_i first more pieces
          rcases List.mem_cons.mp part with rfl | part
          · refine List.not_mem_cons_of_ne_of_not_mem (Ne.symm same) (inductionHypothesis ?_)
            rw [pieces]
            exact List.mem_cons_self
          · refine inductionHypothesis ?_
            rw [pieces]
            exact List.mem_cons_of_mem _ part

/-- A text is its first piece and the pieces behind its marks. -/
theorem splitOn_shape (mark : Char) (text : Text) : ∃ first more,
    splitOn mark text = first :: more ∧ text = first ++ more.flatMap (mark :: ·) := by
  induction text with
  | nil => exact ⟨[], [], rfl, rfl⟩
  | cons char text inductionHypothesis =>
      obtain ⟨first, more, pieces, whole⟩ := inductionHypothesis
      by_cases split : char = mark
      · refine ⟨[], first :: more, by rw [splitOn, if_pos split, pieces], ?_⟩
        rw [List.flatMap_cons, ← List.append_assoc, List.nil_append, List.cons_append, ← whole,
          split]
      · refine ⟨char :: first, more, ?_, by rw [List.cons_append, ← whole]⟩
        rw [splitOn, if_neg split, pieces]

/-- The pieces in front of a mark and behind it are the pieces of the whole. -/
theorem splitOn_append_mark (mark : Char) (first second : Text) :
    splitOn mark (first ++ mark :: second) = splitOn mark first ++ splitOn mark second := by
  induction first with
  | nil => exact if_pos rfl
  | cons char first inductionHypothesis =>
      obtain ⟨piece, more, pieces, -⟩ := splitOn_shape mark first
      rw [List.cons_append, splitOn, splitOn, inductionHypothesis, pieces]
      split_ifs <;> rfl

/-- A text is split at its first mark, and then behind it. -/
theorem splitOn_append (absent : mark ∉ first) (second : Text) :
    splitOn mark (first ++ mark :: second) = first :: splitOn mark second := by
  rw [splitOn_append_mark, splitOn_of_absent absent, List.singleton_append]

/-- Pieces without the mark are those of the text they make up. -/
theorem splitOn_flatMap {more : List Text} (absent : mark ∉ first)
    (each : ∀ piece ∈ more, mark ∉ piece) :
    splitOn mark (first ++ more.flatMap (mark :: ·)) = first :: more := by
  induction more generalizing first with
  | nil => rw [List.flatMap_nil, List.append_nil, splitOn_of_absent absent]
  | cons piece more inductionHypothesis =>
      obtain ⟨here, later⟩ := List.forall_mem_cons.mp each
      rw [List.flatMap_cons, List.cons_append, splitOn_append absent,
        inductionHypothesis here later]

/-- Lines without line feeds are read back from where they are joined. -/
theorem splitOn_unlines {lines : List Text} (present : lines ≠ [])
    (single : ∀ line ∈ lines, '\n' ∉ line) : splitOn '\n' (unlines lines) = lines := by
  induction lines with
  | nil => exact absurd rfl present
  | cons line lines inductionHypothesis =>
      obtain ⟨here, later⟩ := List.forall_mem_cons.mp single
      by_cases last : lines = []
      · rw [last]
        exact splitOn_of_absent here
      · rw [unlines_cons last, splitOn_append here, inductionHypothesis last later]

/-- The pieces tell the text. -/
theorem splitOn_inj {other : Text} : splitOn mark text = splitOn mark other ↔ text = other := by
  refine ⟨fun same => ?_, congrArg _⟩
  obtain ⟨first, more, pieces, whole⟩ := splitOn_shape mark text
  obtain ⟨firstOther, moreOther, piecesOther, wholeOther⟩ := splitOn_shape mark other
  rw [pieces, piecesOther] at same
  obtain ⟨rfl, rfl⟩ := List.cons.inj same
  rw [whole, wholeOther]

/-- More pieces stand behind a mark. -/
theorem prefix_of_splitOn {other : Text} {rest : List Text}
    (pieces : splitOn mark other = splitOn mark text ++ rest) (present : rest ≠ []) :
    text ++ [mark] <+: other := by
  obtain ⟨next, rest, rfl⟩ := List.exists_cons_of_ne_nil present
  obtain ⟨first, more, shape, whole⟩ := splitOn_shape mark text
  obtain ⟨firstOther, moreOther, shapeOther, wholeOther⟩ := splitOn_shape mark other
  rw [shape, shapeOther] at pieces
  obtain ⟨rfl, rfl⟩ := List.cons.inj pieces
  exact ⟨next ++ rest.flatMap (mark :: ·), by simp [whole, wholeOther]⟩

end Issuebook.Text
