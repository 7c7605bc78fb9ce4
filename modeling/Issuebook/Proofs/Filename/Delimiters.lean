import Issuebook.Proofs.Filename.Rendering

/-!
# Delimiters of rows

A row is a pattern of variables with one delimiter between neighbours, and a literal behind the
last. A variable without a value takes the delimiter in front of it along, and in front of the
first value there is none to be left over: the name is the values that are there, each behind the
delimiter written in front of its variable, but the first (`Row.apply_joins`).
-/

namespace Issuebook

namespace Pattern

variable {pattern name rest text : Text} {position : Nat} {previous : Option Char} {char : Char}

/-- A variable as a pattern spells it. -/
def bracketed (name : Text) : Text :=
  '[' :: name ++ [']']

/-- The piece of a variable with its spelling, behind a character. -/
def spelled (previous : Option Char) (name : Text) : Piece :=
  .variable (Text.lower (Text.trim name)) (shapeOf previous name)

/-- The pieces of a literal; a text without characters is none. -/
def literalPieces (text : Text) : List Piece :=
  if text.isEmpty then [] else [.literal text]

/-- The characters of a variable that is already read are passed over. -/
theorem scan_append (pattern rest read : Text) (position : Nat) (previous : Option Char) :
    scan pattern position previous read.length (read ++ rest) =
      scan pattern (position + read.length) (read.getLast?.or previous) 0 rest := by
  induction read generalizing position previous with
  | nil => rfl
  | cons char read inductionHypothesis =>
      rw [List.length_cons, List.cons_append, scan, inductionHypothesis, List.getLast?_cons,
        Nat.add_right_comm, Nat.add_assoc]
      cases read.getLast? <;> rfl

/-- Brackets with a name are scanned as their variable, and what is behind them after it. -/
theorem scan_bracketed (closed : ']' ∉ name) (named : ¬ Text.isAllBlank name) :
    scan pattern position previous 0 (bracketed name ++ rest) =
      (scan pattern (position + (name.length + 2)) (some ']') 0 rest).map
        (spelled previous name :: ·) := by
  have cut : Text.cutAtChar? ']' (name ++ [']'] ++ rest) = some (name, rest) := by
    rw [List.append_assoc]
    exact Text.cutAtChar?_append closed rest
  have passed := scan_append pattern rest (name ++ [']']) (position + 1) (some '[')
  rw [List.length_append, List.length_singleton, List.getLast?_concat, Option.some_or,
    Nat.add_assoc, Nat.add_comm 1] at passed
  rw [bracketed, List.cons_append, List.cons_append, scan, if_pos rfl, cut]
  dsimp only
  rw [if_neg named, passed]
  rfl

/-- What holds no bracket is one literal. -/
theorem scan_literal (plain : '[' ∉ text) :
    scan pattern position previous 0 text = .ok (literalPieces text) := by
  induction text generalizing position previous with
  | nil => rfl
  | cons char text inductionHypothesis =>
      obtain ⟨here, later⟩ := List.ne_and_not_mem_of_not_mem_cons plain
      rw [scan, if_neg (Ne.symm here), inductionHypothesis later]
      cases text <;> rfl

/-- A character in front of a variable is a literal of its own. -/
theorem scan_delimited (plain : char ≠ '[') (closed : ']' ∉ name)
    (named : ¬ Text.isAllBlank name) :
    scan pattern position previous 0 (char :: (bracketed name ++ rest)) =
      (scan pattern (position + (name.length + 3)) (some ']') 0 rest).map
        ([.literal [char], spelled (some char) name] ++ ·) := by
  rw [scan, if_neg plain, scan_bracketed closed named, Nat.add_assoc, Nat.add_comm 1]
  cases scan pattern (position + (name.length + 2 + 1)) (some ']') 0 rest <;> rfl

end Pattern

namespace Filename

open Pattern

variable {today : Date} {issue : Issue} {values : Text → Shape → Text} {delimiter : Char}
  {value : Text} {kept : List (Option Char × Text)}

/-- A pattern of variables with a delimiter between neighbours, and a literal at its end. -/
structure Row where
  /-- The first variable, as it is spelled between its brackets. -/
  first : Text
  /-- The other variables, each behind its delimiter. -/
  others : List (Char × Text)
  /-- The literal. -/
  ending : Text
  /-- The variables can be read. -/
  named : ∀ name ∈ first :: others.map Prod.snd, ']' ∉ name ∧ ¬ Text.isAllBlank name
  /-- Delimiters stand between them. -/
  delimited : ∀ other ∈ others, isDelimiter other.1
  /-- The literal holds no variable. -/
  plain : '[' ∉ ending
  /-- The literal does not begin with a delimiter. -/
  apart : ¬ ending.head?.any isDelimiter

/-! ## Values in a row -/

/-- Values side by side, each behind its delimiter, but the first. -/
def joinFields : List (Option Char × Text) → Text
  | [] => []
  | (_, first) :: others =>
    first ++ others.flatMap fun (delimiter, value) => delimiter.toList ++ value

/-- Whether a field has a value. -/
def hasValue (field : Option Char × Text) : Bool :=
  !field.2.isEmpty

/-- A single field shows its value, or nothing. -/
theorem joinFields_filter_single (field : Option Char × Text) :
    joinFields ([field].filter hasValue) = field.2 := by
  obtain ⟨delimiter, value⟩ := field
  cases value with
  | nil => rfl
  | cons char value => exact List.append_nil _

/-- A last field is joined behind its delimiter, if there is something in front. -/
theorem joinFields_concat (kept : List (Option Char × Text)) (delimiter : Char) (value : Text) :
    joinFields (kept ++ [(some delimiter, value)]) =
      if kept.isEmpty then value else joinFields kept ++ delimiter :: value := by
  cases kept with
  | nil => exact List.append_nil value
  | cons field kept => simp [joinFields]

/-- Fields with values show nothing only if there are none. -/
theorem joinFields_eq_nil_iff (full : ∀ field ∈ kept, hasValue field) :
    joinFields kept = [] ↔ kept = [] := by
  cases kept with
  | nil => exact iff_of_true rfl rfl
  | cons field kept =>
      have present : field.2 ≠ [] := by simpa [hasValue] using full field List.mem_cons_self
      refine iff_of_false (fun empty => present ?_) (List.cons_ne_nil _ _)
      exact (List.append_eq_nil_iff.mp empty).1

/-! ## Rendering a row -/

/-- What is rendered of a row behind one of its variables. A delimiter is dropped next exactly
where nothing is shown yet. -/
def Progress.between (shown : Text) : Progress :=
  ⟨shown, shown.isEmpty, false⟩

/-- The first value is between delimiters. -/
theorem addValue_start (value : Text) : Progress.start.addValue value = .between value := by
  cases value <;> rfl

/-- A delimiter and a variable behind it add a field, or nothing at all. -/
theorem add_field (full : ∀ field ∈ kept, hasValue field) (delimited : isDelimiter delimiter)
    (value : Text) : ((Progress.between (joinFields kept)).addLiteral [delimiter]).addValue value =
      .between (joinFields (kept ++ [(some delimiter, value)].filter hasValue)) := by
  by_cases nothing : kept = []
  · -- The delimiter would be the first character, so it is dropped.
    have dropped : (Progress.between []).addLiteral [delimiter] = ⟨[], false, true⟩ := by
      simp [Progress.between, Progress.addLiteral, delimited]
    rw [nothing, List.nil_append, joinFields_filter_single, joinFields, dropped]
    cases value <;> rfl
  · have shown : (joinFields kept).isEmpty = false := by
      simpa using (joinFields_eq_nil_iff full).not.mpr nothing
    have added : (Progress.between (joinFields kept)).addLiteral [delimiter] =
        ⟨joinFields kept ++ [delimiter], false, true⟩ := by
      simp [Progress.between, Progress.addLiteral, shown]
    rw [added]
    cases value with
    | nil =>
        -- The delimiter that was added is taken back.
        simp [Progress.addValue, delimited, hasValue, Progress.between, shown]
    | cons char value =>
        simp [Progress.addValue, hasValue, joinFields_concat, nothing, Progress.between]

/-- The literal at the end stays as it is. -/
theorem rendered_addEnding (shown : Text) {ending : Text} (apart : ¬ ending.head?.any isDelimiter) :
    ((literalPieces ending).foldl (Progress.add values) (.between shown)).rendered =
      shown ++ ending := by
  cases ending with
  | nil => exact (List.append_nil shown).symm
  | cons char ending =>
      have solid : isDelimiter char = false := by simpa using apart
      simp [literalPieces, Progress.add, Progress.addLiteral, Progress.between, solid]

namespace Row

variable (row : Row)

/-- The text of the pattern. -/
def pattern : Text :=
  bracketed row.first ++
    (row.others.flatMap fun (delimiter, name) => delimiter :: bracketed name) ++ row.ending

/-- The pieces of the pattern. -/
def pieces : List Piece :=
  spelled none row.first ::
    (row.others.flatMap fun (delimiter, name) =>
      [.literal [delimiter], spelled (some delimiter) name]) ++ literalPieces row.ending

/-- The value of a variable behind its delimiter, if it has one. -/
def field (values : Text → Shape → Text) (delimiter : Option Char) (name : Text) :
    Option Char × Text :=
  (delimiter, values (Text.lower (Text.trim name)) (shapeOf delimiter name))

/-- The values of all variables, each with the delimiter in front of it. -/
def fields (values : Text → Shape → Text) : List (Option Char × Text) :=
  field values none row.first ::
    row.others.map fun (delimiter, name) => field values (some delimiter) name

/-- The name of the values that are not empty, each behind its delimiter, but the first. -/
def joined (values : Text → Shape → Text) : Text :=
  joinFields ((row.fields values).filter hasValue) ++ row.ending

/-- The fields behind the first are scanned as their delimiters and variables. -/
theorem scan_others {text ending : Text} {others : List (Char × Text)} {position : Nat}
    {previous : Option Char}
    (named : ∀ name ∈ others.map Prod.snd, ']' ∉ name ∧ ¬ Text.isAllBlank name)
    (delimited : ∀ other ∈ others, isDelimiter other.1) (plain : '[' ∉ ending) :
    scan text position previous 0
        ((others.flatMap fun (delimiter, name) => delimiter :: bracketed name) ++ ending) =
      .ok ((others.flatMap fun (delimiter, name) =>
        [.literal [delimiter], spelled (some delimiter) name]) ++ literalPieces ending) := by
  induction others generalizing position previous with
  | nil => exact scan_literal plain
  | cons other others inductionHypothesis =>
      obtain ⟨delimiter, name⟩ := other
      obtain ⟨here, named⟩ := List.forall_mem_cons.mp named
      obtain ⟨apart, delimited⟩ := List.forall_mem_cons.mp delimited
      have solid : delimiter ≠ '[' := by
        rintro rfl
        cases apart
      rw [List.flatMap_cons, List.flatMap_cons, List.append_assoc, List.append_assoc,
        List.cons_append, scan_delimited solid here.1 here.2, inductionHypothesis named delimited]
      rfl

/-- The pattern of a row has the pieces of the row. -/
theorem read_pattern : Pattern.read row.pattern = .ok row.pieces := by
  obtain ⟨firstNamed, named⟩ := List.forall_mem_cons.mp row.named
  rw [Pattern.read, pattern, List.append_assoc, scan_bracketed firstNamed.1 firstNamed.2,
    scan_others named row.delimited row.plain]
  rfl

/-- Behind some of the variables the fields with a value are joined. -/
theorem foldl_others {others : List (Char × Text)}
    (delimited : ∀ other ∈ others, isDelimiter other.1)
    (full : ∀ field ∈ kept, hasValue field) :
    (others.flatMap fun (delimiter, name) =>
        [Piece.literal [delimiter], spelled (some delimiter) name]).foldl (Progress.add values)
          (.between (joinFields kept)) =
      .between (joinFields (kept ++
        (others.map fun (delimiter, name) => field values (some delimiter) name).filter
          hasValue)) := by
  induction others generalizing kept with
  | nil => simp
  | cons other others inductionHypothesis =>
      obtain ⟨delimiter, name⟩ := other
      obtain ⟨apart, delimited⟩ := List.forall_mem_cons.mp delimited
      have stillFull : ∀ shown ∈ kept ++ [field values (some delimiter) name].filter hasValue,
          hasValue shown :=
        List.forall_mem_append.mpr ⟨full, fun _ listed => (List.mem_filter.mp listed).2⟩
      have step : ((Progress.between (joinFields kept)).add values (.literal [delimiter])).add
          values (spelled (some delimiter) name) =
            .between (joinFields (kept ++ [field values (some delimiter) name].filter hasValue)) :=
        add_field full apart _
      rw [List.flatMap_cons, List.foldl_append, List.foldl_cons, List.foldl_cons, List.foldl_nil,
        step, inductionHypothesis delimited stillFull, List.append_assoc, ← List.filter_append]
      rfl

/-- They are assembled to the joined fields. -/
theorem assemble_pieces (values : Text → Shape → Text) :
    assemble values row.pieces = row.joined values := by
  have first : Progress.start.add values (spelled none row.first) =
      .between (joinFields ([field values none row.first].filter hasValue)) := by
    rw [joinFields_filter_single]
    exact addValue_start _
  rw [assemble, pieces, List.cons_append, List.foldl_cons, List.foldl_append, first,
    foldl_others row.delimited fun _ listed => (List.mem_filter.mp listed).2,
    rendered_addEnding _ row.apart, joined, fields, ← List.filter_append]
  rfl

/-- Every name of a row is made of the values that it shows, each behind the delimiter written in
front of its variable, but the first; those that are empty leave nothing behind. -/
theorem apply_joins (row : Row) (today : Date) (issue : Issue) (taken : List Text) :
    Pattern.read row.pattern = .ok row.pieces ∧
      (∀ values, assemble values row.pieces = row.joined values) ∧
      apply today row.pattern issue taken =
        .ok (resolveCollision (row.joined (shownValues today issue row.pieces)) taken) := by
  refine ⟨row.read_pattern, row.assemble_pieces, ?_⟩
  rw [apply, row.read_pattern, ← row.assemble_pieces, ← fit_eq_assemble]
  rfl

end Row

/-- A row with all delimiters. -/
def deskRow : Row where
  first := "assignee"
  others := [('/', "yyyy-mm-dd"), ('_', " Title "), (' ', "place"), ('-', "id")]
  ending := "].md"
  named := by decide +kernel
  delimited := by decide +kernel
  plain := by decide +kernel
  apart := by decide +kernel

example : deskRow.pattern = "[assignee]/[yyyy-mm-dd]_[ Title ] [place]-[id]].md" ∧
    (deskRow.fields (issueValues ⟨2024, 5, 6⟩ { (default : Issue) with id := "a-1", title := "?" })
      = [(none, []), (some '/', "2024-05-06"), (some '_', []), (some ' ', []),
        (some '-', "a-1")]) ∧
    deskRow.joined (issueValues ⟨2024, 5, 6⟩ { (default : Issue) with id := "a-1", title := "?" })
      = "2024-05-06-a-1].md" := by
  decide +kernel

end Filename

end Issuebook
