import Issuebook.Proofs.Shell.Isolation
import Issuebook.Proofs.Shell.Patterns
import Issuebook.Proofs.Text.Characters
import Issuebook.Shell.Expansion
import Issuebook.Shell.Printing
import Mathlib.Tactic.SplitIfs

/-!
# Quoted words

What quotes keep together and as it is: a word whose parts are all quoted is one field, made of
what its parts stand for, whatever cuts fields and whatever is on the disk: `fields_of_quoted`; and
all arguments between quotes are as many fields, each as it is: `fields_allArguments`. A value
outside quotes loses exactly the characters that cut fields: `flatten_ofMarks_bare`.
-/

namespace Issuebook.Shell

namespace Fields

variable {cutters value : Text} {fields : Fields} {field : List Glyph}

/-- Finishing a field adds it to the finished ones. -/
theorem finished_finish (fields : Fields) :
    fields.finish.finished = (fields.current.map List.reverse).toList ++ fields.finished := by
  unfold finish
  cases fields.current <;> rfl

/-! ## Quoted values -/

/-- Quoted characters are added to the field that is begun. -/
theorem foldl_add_quoted (begun : fields.current = some field) (closed : fields.isOpen = false) :
    (value.map fun char => Mark.glyph ⟨char, false⟩ false).foldl (add cutters) fields =
      { fields with current := some ((quotedGlyphs value).reverse ++ field) } := by
  induction value generalizing fields field with
  | nil => simp [quotedGlyphs, ← begun]
  | cons char value inductionHypothesis =>
      rw [List.map_cons, List.foldl_cons]
      have step : add cutters fields (.glyph ⟨char, false⟩ false) =
          { fields with current := some (⟨char, false⟩ :: field) } := by
        simp [add, begun, closed]
      have later :=
        @inductionHypothesis { fields with current := some (⟨char, false⟩ :: field) } _ rfl closed
      rw [step, later]
      simp [quotedGlyphs]

/-- A quoted value goes on with the field that is begun, or begins one. -/
theorem foldl_add_ofValue (cutters value : Text) (fields : Fields) :
    (Mark.ofValue true value).foldl (add cutters) fields =
      { fields with
        current := some ((quotedGlyphs value).reverse ++ fields.current.getD [])
        isOpen := false } := by
  rw [Mark.ofValue, if_pos rfl, List.foldl_cons]
  exact foldl_add_quoted rfl rfl

/-- Quoted values one after the other are one field. -/
theorem foldl_add_values (cutters : Text) (values : List Text) {fields : Fields}
    (closed : fields.isOpen = false) (begun : fields.current = some field) :
    (values.flatMap (Mark.ofValue true)).foldl (add cutters) fields =
      { fields with current := some ((quotedGlyphs values.flatten).reverse ++ field) } := by
  induction values generalizing fields field with
  | nil => simp [quotedGlyphs, ← begun]
  | cons value values inductionHypothesis =>
      rw [List.flatMap_cons, List.foldl_append, foldl_add_ofValue, inductionHypothesis rfl rfl]
      simp [quotedGlyphs, begun, closed]

/-- Quoted values make one field, and nothing in them divides it. -/
theorem ofMarks_values (cutters : Text) {values : List Text} (present : values ≠ []) :
    ofMarks cutters (values.flatMap (Mark.ofValue true)) = [quotedGlyphs values.flatten] := by
  obtain ⟨value, values, rfl⟩ := List.exists_cons_of_ne_nil present
  rw [ofMarks, List.flatMap_cons, List.foldl_append, foldl_add_ofValue,
    foldl_add_values cutters values rfl rfl]
  simp [finish, quotedGlyphs]

/-- Quoted values with boundaries between them are a field each. -/
theorem finished_arguments (cutters : Text) (values : List Text) {fields : Fields}
    (idle : fields.current = none) :
    (((values.map (Mark.ofValue true)).intersperse [.boundary]).flatten.foldl (add cutters)
        fields).finish.finished = (values.map quotedGlyphs).reverse ++ fields.finished := by
  induction values generalizing fields with
  | nil => simp [finished_finish, idle]
  | cons value values inductionHypothesis =>
      cases values with
      | nil => simp [foldl_add_ofValue, finished_finish, idle]
      | cons next values =>
          rw [List.map_cons, List.map_cons, List.intersperse_cons_cons, List.flatten_cons,
            List.foldl_append, foldl_add_ofValue, List.flatten_cons, List.foldl_append]
          rw [← List.map_cons, inductionHypothesis (by simp [add, finish])]
          simp [add, finish, idle]

/-- All arguments between quotes are a field each. -/
theorem ofMarks_argumentMarks (cutters : Text) (shell : State) :
    ofMarks cutters (shell.argumentMarks true) = shell.arguments.map quotedGlyphs := by
  rw [ofMarks, State.argumentMarks, finished_arguments cutters shell.arguments rfl]
  simp

/-- Quotes in front of quotes add nothing. -/
theorem ofMarks_presence {marks : List Mark} (begins : marks.head? = some .presence) :
    ofMarks cutters (.presence :: marks) = ofMarks cutters marks := by
  obtain ⟨rest, rfl⟩ := List.head?_eq_some_iff.mp begins
  rfl

/-- Where there are arguments, they mark a field even if all are empty. -/
theorem head?_argumentMarks {shell : State} (some : shell.arguments ≠ []) :
    (shell.argumentMarks true).head? = .some .presence := by
  obtain ⟨first, others, shape⟩ := List.exists_cons_of_ne_nil some
  rw [State.argumentMarks, shape]
  cases others <;> rfl

/-! ## Values outside quotes -/

/-- The characters of all fields so far, in order. -/
def textSoFar (fields : Fields) : Text :=
  fields.finish.finished.reverse.flatten.map Glyph.char

/-- A character outside quotes is added when it does not cut fields, and is left out otherwise. -/
theorem textSoFar_add (cutters : Text) (fields : Fields) (char : Char) :
    textSoFar (add cutters fields (.glyph ⟨char, true⟩ true)) =
      textSoFar fields ++ if char ∈ cutters then [] else [char] := by
  obtain ⟨finished, current, isOpen⟩ := fields
  by_cases cut : char ∈ cutters
  · cases current <;> cases isOpen <;> by_cases blank : isBlank char <;>
      simp [add, textSoFar, finish, cut, blank]
  · cases current <;> simp [add, textSoFar, finish, cut]

/-- A value outside quotes loses exactly the characters that cut fields. -/
theorem flatten_ofMarks_bare (cutters value : Text) :
    (ofMarks cutters (Mark.ofValue false value)).flatten.map Glyph.char =
      value.filter fun char => !cutters.contains char := by
  have run (fields : Fields) :
      textSoFar ((Mark.ofValue false value).foldl (add cutters) fields) =
        textSoFar fields ++ value.filter fun char => !cutters.contains char := by
    rw [Mark.ofValue, if_neg Bool.false_ne_true]
    induction value generalizing fields with
    | nil => simp
    | cons char value inductionHypothesis =>
        rw [List.map_cons, List.foldl_cons, inductionHypothesis, textSoFar_add]
        by_cases cut : char ∈ cutters <;> simp [cut]
  exact run {}

end Fields

namespace Expansion

variable {capture : Capture} {shell : State} {word : Word} {texts : List Text}

/-- The text that a part stands for by itself, if it is quoted. -/
def quotedText? (shell : State) : Part → Option Text
  | .quoted text => some text
  | .parameter name .value true =>
    if name = ['@'] then none
    else if (shell.parameter? name).isNone ∧ shell.hasOption 'u' then none
    else some ((shell.parameter? name).getD [])
  | _ => none

/-- A parameter between quotes gives its value, quoted. -/
theorem parameterMarks_quoted {expand : Bool → Text → Act (List Mark)} {name text : Text}
    (known : quotedText? shell (.parameter name .value true) = some text) :
    parameterMarks expand name .value true shell = (.ok (Mark.ofValue true text), shell) := by
  unfold quotedText? at known
  dsimp only at known
  split_ifs at known with all unset
  obtain rfl := Option.some.inj known
  have own : shell.valueMarks name true = Mark.ofValue true ((shell.parameter? name).getD []) := by
    unfold State.valueMarks
    split
    · exact absurd rfl all
    · simp [State.parameter?]
    · rfl
  change (if (shell.parameter? name).isNone = true ∧ shell.hasOption 'u' = true then Act.fail _
    else pure (shell.valueMarks name true) : Act (List Mark)) shell = _
  rw [if_neg unset, own]
  rfl

/-- The marks of quoted parts are those of their texts. -/
theorem marksWith_quoted {expand : Bool → Text → Act (List Mark)} {isInner isFirst : Bool}
    (known : word.map (quotedText? shell) = texts.map some) :
    marksWith capture expand isInner isFirst word shell =
      (.ok (texts.flatMap (Mark.ofValue true)), shell) := by
  induction word generalizing texts isFirst with
  | nil =>
      obtain rfl := List.map_eq_nil_iff.mp known.symm
      rfl
  | cons part word inductionHypothesis =>
      obtain _ | ⟨text, texts⟩ := texts
      · cases known
      obtain ⟨own, others⟩ := List.cons.inj known
      have later := @inductionHypothesis texts false others
      have first (act : Act (List Mark))
        (gives : act shell = (.ok (Mark.ofValue true text), shell)) :
          (do
            let marks ← act
            let later ← marksWith capture expand isInner false word
            pure (marks ++ later) : Act (List Mark)) shell =
              (.ok ((text :: texts).flatMap (Mark.ofValue true)), shell) := by
        rw [Act.bind_of_gives gives, Act.bind_of_gives later, List.flatMap_cons]
        rfl
      cases part with
      | quoted written =>
          obtain rfl := Option.some.inj own
          exact first (pure (Mark.ofValue true written)) rfl
      | parameter name treatment isQuoted =>
          cases treatment with
          | value =>
              cases isQuoted with
              | true =>
                  exact first (parameterMarks expand name .value true) (parameterMarks_quoted own)
              | false => cases own
          | _ => cases own
      | _ => cases own

/-- Quoted parts are not dropped. -/
theorem dropNoArguments_of_quoted (known : word.map (quotedText? shell) = texts.map some) :
    dropNoArguments shell word = word := by
  induction word generalizing texts with
  | nil => rfl
  | cons part word inductionHypothesis =>
      obtain _ | ⟨text, texts⟩ := texts
      · cases known
      obtain ⟨-, others⟩ := List.cons.inj known
      have same := inductionHypothesis others
      unfold dropNoArguments
      split
      · next all rest shape =>
          obtain ⟨-, rfl⟩ := List.cons.inj shape
          obtain _ | ⟨next, texts⟩ := texts
          · cases others
          · cases (List.cons.inj others).1
      · next shape =>
          obtain ⟨rfl, rfl⟩ := List.cons.inj shape
          rw [same]
      · next shape => cases shape

/-- The marks of a word are those of its parts, with a way to read words inside them. -/
theorem marks_eq (capture : Capture) (word : Word) (shell : State) :
    ∃ expand, marks capture word shell =
      marksWith capture expand false true (dropNoArguments shell word) shell :=
  ⟨_, rfl⟩

/-- A word of quoted parts has their marks, and leaves the shell as it is. -/
theorem marks_of_quoted (known : word.map (quotedText? shell) = texts.map some) :
    marks capture word shell = (.ok (texts.flatMap (Mark.ofValue true)), shell) := by
  obtain ⟨expand, shape⟩ := marks_eq capture word shell
  rw [shape, dropNoArguments_of_quoted known]
  exact marksWith_quoted known

/-- The fields of a word are found in its marks, in the same state. -/
theorem fields_of_marks {found : List Mark}
    (known : marks capture word shell = (.ok found, shell)) :
    fields capture word shell =
      (.ok (if shell.hasOption 'f' then (Fields.ofMarks shell.cutters found).map (·.map Glyph.char)
        else (Fields.ofMarks shell.cutters found).flatMap
          (pathsOrSelf shell.disk shell.directory)), shell) := by
  rw [fields, Act.bind_of_gives known]
  rfl

/-- A word of quoted parts is one field: what its parts stand for, whatever cuts fields and
whatever is on the disk. -/
theorem fields_of_quoted (present : word ≠ [])
    (known : word.map (quotedText? shell) = texts.map some) :
    fields capture word shell = (.ok [texts.flatten], shell) := by
  have some : texts ≠ [] := by
    rintro rfl
    exact present (List.map_eq_nil_iff.mp known)
  rw [fields_of_marks (marks_of_quoted known), Fields.ofMarks_values _ some]
  simp [pathsOrSelf_quoted]

/-- The parameter of all arguments, between quotes. -/
def allArguments : Word :=
  [.quoted [], .parameter ['@'] .value true]

/-- All arguments between quotes are as many fields, each as it is. -/
theorem fields_allArguments (capture : Capture) (shell : State) :
    fields capture allArguments shell = (.ok shell.arguments, shell) := by
  have found : ∃ marked, marks capture allArguments shell = (.ok marked, shell) ∧
      Fields.ofMarks shell.cutters marked = shell.arguments.map quotedGlyphs := by
    obtain ⟨expand, shape⟩ := marks_eq capture allArguments shell
    rw [shape]
    by_cases none : shell.arguments = []
    · have dropped : dropNoArguments shell allArguments = [] := by
        simp [allArguments, dropNoArguments, none]
      rw [dropped, none]
      exact ⟨[], rfl, rfl⟩
    · have kept : dropNoArguments shell allArguments = allArguments := by
        simp [allArguments, dropNoArguments, none]
      rw [kept]
      refine ⟨.presence :: (shell.argumentMarks true ++ []), ?_, ?_⟩
      · rfl
      · rw [List.append_nil, Fields.ofMarks_presence (Fields.head?_argumentMarks none)]
        exact Fields.ofMarks_argumentMarks _ _
  obtain ⟨marked, known, same⟩ := found
  rw [fields_of_marks known, same]
  have plain : (List.map Glyph.char) ∘ quotedGlyphs = id := funext map_char_quotedGlyphs
  simp [List.flatMap_map, pathsOrSelf_quoted, plain]

end Expansion

/-! ## Single quotes -/

/-- A word ends where the next character ends words, or with the text. -/
theorem Scanner.wordFrom_of_ended {fuel : Nat} {reversed : Word} {rest : Text} (some : 0 < fuel)
    (ended : rest.head?.all endsWord = true) :
    wordFrom false fuel reversed rest = .ok (reversed.reverse, rest) := by
  obtain ⟨fuel, rfl⟩ := Nat.exists_eq_succ_of_ne_zero (Nat.ne_of_gt some)
  cases rest with
  | nil => rfl
  | cons char rest =>
      have ends : endsWord char = true := ended
      have other {sign : Char} (inner : endsWord sign = false) : char ≠ sign := by
        rintro rfl
        cases ends.symm.trans inner
      rw [wordFrom, if_pos ⟨ends, rfl⟩]
      · exact fun _ escaped _ => other (by decide) escaped
      · exact fun _ _ escaped _ => other (by decide) escaped
      · exact fun quoted => other (by decide) quoted
      · exact fun quoted => other (by decide) quoted

/-- What a text without a single quote is in single quotes: a word of one quoted part. -/
theorem Word.scan_inApostrophes {text rest : Text} (plain : '\'' ∉ text)
    (ended : rest.head?.all Scanner.endsWord = true) :
    Word.scan (inApostrophes text ++ rest) = .ok ([.quoted text], rest) := by
  have shape : inApostrophes text ++ rest = '\'' :: (text ++ '\'' :: rest) := by
    simp [inApostrophes]
  have later : 0 < (text ++ '\'' :: rest).length + 1 := Nat.succ_pos _
  rw [shape, Word.scan, List.length_cons, Scanner.wordFrom, Text.cutAtChar?_append plain]
  exact Scanner.wordFrom_of_ended later ended

/-- A text in single quotes is read as a word that stands for it alone, whatever the shell holds. -/
theorem fields_inApostrophes {text rest : Text} (plain : '\'' ∉ text)
    (ended : rest.head?.all Scanner.endsWord = true) (capture : Capture) (shell : State) :
    ∃ word, Word.scan (inApostrophes text ++ rest) = .ok (word, rest) ∧
      Expansion.fields capture word shell = (.ok [text], shell) := by
  refine ⟨[.quoted text], Word.scan_inApostrophes plain ended, ?_⟩
  have known : List.map (Expansion.quotedText? shell) [.quoted text] = [text].map some := rfl
  simpa using Expansion.fields_of_quoted (List.cons_ne_nil _ _) known

end Issuebook.Shell
