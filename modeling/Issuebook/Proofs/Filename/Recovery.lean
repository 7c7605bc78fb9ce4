import Issuebook.Proofs.Filename.Cutting
import Issuebook.Proofs.Filename.Standard

/-!
# Identifiers in names

What the standard pattern finds in the names that it gives. An identifier of the strict form has
one dash, so a name that shows a title is cut at its second dash, and the identifier comes back. A
name that shows none ends with the identifier, and there the part before the only dash is taken for
it: `idOf_standard_iff`.
-/

namespace Issuebook.Filename

open Text

variable {today : Date} {issue : Issue} {id head tail title value after text : Text} {char : Char}
  {strict : Bool}

/-! ## The strict form -/

/-- The strict form of identifiers: a word, a dash, three to eight letters or digits, and numbers
that each stand behind a dot. -/
def HasStrictForm (id : Text) : Prop :=
  ∃ (head code : Text) (numbers : List Text),
    id = head ++ '-' :: (code ++ numbers.flatMap ('.' :: ·)) ∧
      (head ≠ [] ∧ ∀ char ∈ head, isAsciiWord char) ∧
      (3 ≤ code.length ∧ code.length ≤ 8 ∧ ∀ char ∈ code, char.isAlphanum) ∧
      ∀ number ∈ numbers, number ≠ [] ∧ ∀ char ∈ number, isDecimalDigit char

/-- Dotted numbers are numbers with a dot in front of each. -/
theorem isDottedNumbers_iff : isDottedNumbers text ↔ ∃ numbers : List Text,
    text = numbers.flatMap ('.' :: ·) ∧
      ∀ number ∈ numbers, number ≠ [] ∧ ∀ char ∈ number, isDecimalDigit char := by
  have test (pieces : List Text) :
      (pieces.all fun piece => !piece.isEmpty && piece.all isDecimalDigit) ↔
        ∀ number ∈ pieces, number ≠ [] ∧ ∀ char ∈ number, isDecimalDigit char := by
    simp only [List.all_eq_true, Bool.and_eq_true, Bool.not_eq_true', List.isEmpty_eq_false_iff]
  constructor
  · intro dotted
    unfold isDottedNumbers at dotted
    split at dotted
    · exact ⟨[], rfl, List.forall_mem_nil _⟩
    · next rest =>
        obtain ⟨first, more, pieces, whole⟩ := splitOn_shape '.' rest
        rw [pieces] at dotted
        exact ⟨first :: more, by rw [whole]; rfl, (test _).mp dotted⟩
    · cases dotted
  · rintro ⟨numbers, rfl, each⟩
    cases numbers with
    | nil => rfl
    | cons number numbers =>
        have dotless : ∀ number' ∈ number :: numbers, '.' ∉ number' := fun number' listed dot =>
          absurd ((each number' listed).2 '.' dot) (by decide)
        obtain ⟨here, later⟩ := List.forall_mem_cons.mp dotless
        have pieces := splitOn_flatMap here later
        rw [List.flatMap_cons, List.cons_append, isDottedNumbers, pieces]
        exact (test _).mpr each

/-- The test for identifiers accepts those of the strict form. -/
theorem isStrictId_iff : isStrictId id ↔ HasStrictForm id := by
  constructor
  · intro strict
    unfold isStrictId at strict
    split at strict
    · cases strict
    · next head rest cut =>
        simp only [Bool.and_eq_true, Bool.not_eq_true', List.isEmpty_eq_false_iff,
          List.all_eq_true, decide_eq_true_eq] at strict
        obtain ⟨⟨⟨⟨present, word⟩, least⟩, most⟩, dotted⟩ := strict
        obtain ⟨numbers, shape, each⟩ := isDottedNumbers_iff.mp dotted
        refine ⟨head, rest.takeWhile Char.isAlphanum, numbers, ?_, ⟨present, word⟩,
          ⟨least, most, fun char inCode => List.mem_takeWhile_imp inCode⟩, each⟩
        rw [eq_of_cutAtChar? cut, ← shape, List.prefix_iff_eq_append.mp (List.takeWhile_prefix _)]
  · rintro ⟨head, code, numbers, rfl, ⟨present, word⟩, ⟨least, most, plain⟩, each⟩
    have dashless : '-' ∉ head := fun dash => absurd (word '-' dash) (by decide)
    have stops : (numbers.flatMap ('.' :: ·)).takeWhile Char.isAlphanum = [] := by
      cases numbers <;> rfl
    have taken : (code ++ numbers.flatMap ('.' :: ·)).takeWhile Char.isAlphanum = code := by
      rw [List.takeWhile_append_of_pos plain, stops, List.append_nil]
    have dotted : isDottedNumbers (numbers.flatMap ('.' :: ·)) :=
      isDottedNumbers_iff.mpr ⟨numbers, rfl, each⟩
    rw [isStrictId, cutAtChar?_append dashless]
    dsimp only
    rw [taken, List.drop_left]
    simp only [Bool.and_eq_true, Bool.not_eq_true', List.isEmpty_eq_false_iff,
      List.all_eq_true, decide_eq_true_eq]
    exact ⟨⟨⟨⟨present, word⟩, least⟩, most⟩, dotted⟩

/-- Letters, digits and the underscore of ASCII are word characters. -/
theorem isWordChar_of_isAsciiWord (word : isAsciiWord char) : isWordChar char := by
  rcases Bool.or_eq_true _ _ ▸ word with plain | underscore
  · have below {last : Char} (ascii : last.val.toNat < 128) (most : char.val ≤ last.val) :
        char.val.toNat < 128 :=
      Nat.lt_of_le_of_lt (UInt32.le_iff_toNat_le.mp most) ascii
    have small : char.val.toNat < 128 := by
      rcases Bool.or_eq_true _ _ ▸ plain with letter | digit
      · rcases Bool.or_eq_true _ _ ▸ letter with upper | lower
        · have most : char.val ≤ 'Z'.val := (of_decide_eq_true upper).2
          exact below (by decide) most
        · have most : char.val ≤ 'z'.val := of_decide_eq_true (Bool.and_eq_true_iff.mp lower).2
          exact below (by decide) most
      · have most : char.val ≤ '9'.val := of_decide_eq_true (Bool.and_eq_true_iff.mp digit).2
        exact below (by decide) most
    rw [isWordChar, isAlphanumeric, if_pos (UInt32.lt_iff_toNat_lt.mpr small), plain, Bool.or_true]
  · rw [isWordChar, underscore, Bool.true_or]

/-- What the strict form says of the parts on either side of the dash. -/
theorem HasStrictForm.parts (form : HasStrictForm id) : ∃ head tail, id = head ++ '-' :: tail ∧
    isLiberalValue head ∧ isTitleValue tail ∧ '-' ∉ head ∧ '-' ∉ tail := by
  obtain ⟨head, code, numbers, rfl, ⟨present, word⟩, ⟨least, -, plain⟩, each⟩ := form
  have absent (char : Char) (outside : char.isAlphanum = false) (dot : char ≠ '.')
      (digit : isDecimalDigit char = false) : char ∉ code ++ numbers.flatMap ('.' :: ·) := by
    intro place
    rcases List.mem_append.mp place with inCode | behind
    · rw [plain char inCode] at outside
      cases outside
    · obtain ⟨number, listed, inNumber⟩ := List.mem_flatMap.mp behind
      rcases List.mem_cons.mp inNumber with same | inNumber
      · exact dot same
      · rw [(each number listed).2 char inNumber] at digit
        cases digit
  refine ⟨head, _, rfl, ?_, ?_, fun dash => absurd (word '-' dash) (by decide),
    absent '-' (by decide) (by decide) (by decide)⟩
  · simp only [isLiberalValue, Bool.and_eq_true, Bool.not_eq_true', List.isEmpty_eq_false_iff,
      List.all_eq_true, Bool.or_eq_true]
    exact ⟨present, fun char inHead => .inl (.inl (isWordChar_of_isAsciiWord (word char inHead)))⟩
  · have filled : code ≠ [] := by
      rintro rfl
      exact absurd least (by decide)
    simp only [isTitleValue, Bool.and_eq_true, Bool.not_eq_true', List.isEmpty_eq_false_iff,
      List.all_eq_true, decide_eq_true_eq]
    refine ⟨List.append_ne_nil_of_left_ne_nil filled _, fun char inTail => ?_⟩
    rintro rfl
    exact absent '/' (by decide) (by decide) (by decide) inTail

/-! ## Matching the standard pattern -/

/-- The form in which an identifier in front of a title is looked for. -/
def acceptsId (strict : Bool) (value : Text) : Bool :=
  if strict then isStrictId value else isLiberalValue value

/-- What stands behind the identifier in a name of the standard pattern: a dash, and a title. -/
theorem of_capture_title {values : List (Text × Text)}
    (captured : capture strict standardPieces.tail after = some values) :
    ∃ title rest, after = '-' :: rest ∧ values = [("title".toList, title)] := by
  rw [standardPieces, List.tail_cons, capture] at captured
  split at captured
  · next rest dash =>
      rw [capture_variable] at captured
      obtain ⟨⟨title, ending⟩, -, found⟩ := List.exists_of_findSome?_eq_some captured
      dsimp only at found
      split_ifs at found
      obtain ⟨last, read, rfl⟩ := Option.map_eq_some_iff.mp found
      rw [capture] at read
      split_ifs at read
      obtain rfl := Option.some.inj read
      exact ⟨title, rest, dropHead?_eq_some.mp dash, rfl⟩
  · cases captured

/-- Behind an identifier, a title with the ending is captured. -/
theorem isSome_capture_title (titled : isTitleValue title) :
    (capture strict standardPieces.tail ('-' :: (title ++ ".md"))).isSome := by
  have present : title ≠ [] := by
    rintro rfl
    cases titled
  have dash : dropHead? "-" ('-' :: (title ++ ".md")) = some (title ++ ".md") := rfl
  rw [standardPieces, List.tail_cons, capture, dash]
  dsimp only
  rw [capture_variable, List.findSome?_isSome_iff]
  refine ⟨(title, ".md"), mem_cuts.mpr ⟨present, rfl⟩, ?_⟩
  have accepted : accepts strict [.literal ".md"] "title" title = true := titled
  dsimp only
  rw [if_pos accepted, capture, if_pos rfl]
  rfl

/-- The standard pattern takes the shortest identifier behind which the rest fits. -/
theorem capture_standard (strict : Bool) (text : Text) : capture strict standardPieces text =
    (cuts text).findSome? fun (value, after) =>
      if acceptsId strict value then
        (capture strict standardPieces.tail after).map fun captured =>
          ("id".toList, value) :: captured
      else none := by
  rw [standardPieces, capture_variable]
  cases strict <;> rfl

/-- What is captured from a name is an identifier in front of a dash, and a title. -/
theorem of_capture_standard {values : List (Text × Text)}
    (captured : capture strict standardPieces text = some values) :
    ∃ id title rest, values = [("id".toList, id), ("title".toList, title)] ∧
      acceptsId strict id ∧ text = id ++ '-' :: rest := by
  rw [capture_standard] at captured
  obtain ⟨⟨id, after⟩, cut, taken⟩ := List.exists_of_findSome?_eq_some captured
  dsimp only at taken
  split_ifs at taken with form
  obtain ⟨later, read, rfl⟩ := Option.map_eq_some_iff.mp taken
  obtain ⟨title, rest, rfl, rfl⟩ := of_capture_title read
  exact ⟨id, title, rest, rfl, form, (mem_cuts.mp cut).2⟩

/-- What is captured as an identifier is accepted and stands in front of a dash. -/
theorem of_captureId (found : captureId strict standardPieces text = some value) :
    acceptsId strict value ∧ ∃ rest, text = value ++ '-' :: rest := by
  obtain ⟨values, captured, held⟩ := Option.bind_eq_some_iff.mp found
  obtain ⟨id, title, rest, rfl, form, whole⟩ := of_capture_standard captured
  obtain rfl : id = value := Option.some.inj held
  exact ⟨form, rest, whole⟩

/-- Some identifier is found where one that is accepted stands in front of a title. -/
theorem isSome_captureId (form : acceptsId strict value) (present : value ≠ [])
    (titled : isTitleValue title) :
    (captureId strict standardPieces (value ++ '-' :: (title ++ ".md"))).isSome := by
  have captured : (capture strict standardPieces (value ++ '-' :: (title ++ ".md"))).isSome := by
    rw [capture_standard, List.findSome?_isSome_iff]
    refine ⟨(value, _), mem_cuts.mpr ⟨present, rfl⟩, ?_⟩
    dsimp only
    rw [if_pos form, Option.isSome_map]
    exact isSome_capture_title titled
  obtain ⟨values, captured⟩ := Option.isSome_iff_exists.mp captured
  obtain ⟨id, found, rest, rfl, -⟩ := of_capture_standard captured
  rw [captureId, captured]
  rfl

/-- An identifier is found if it is accepted, a title follows it, and no other is accepted in
front of a dash. -/
theorem captureId_eq (form : acceptsId strict value) (present : value ≠ [])
    (titled : isTitleValue title)
    (only : ∀ other rest, acceptsId strict other →
      value ++ '-' :: (title ++ ".md") = other ++ '-' :: rest → other = value) :
    captureId strict standardPieces (value ++ '-' :: (title ++ ".md")) = some value := by
  obtain ⟨other, found⟩ := Option.isSome_iff_exists.mp (isSome_captureId form present titled)
  obtain ⟨accepted, rest, whole⟩ := of_captureId found
  rw [found, only other rest accepted whole]

/-- The identifier of a name is the strict one, or else the liberal one. -/
theorem idOf_standard (name : Text) : idOf name Pattern.standard =
    .ok ((captureId true standardPieces name).or (captureId false standardPieces name)) := by
  have named : standardPieces.any (Piece.isNamed "id") = true := by decide
  rw [idOf, read_standard]
  dsimp only [Except.map]
  rw [if_pos named]
  cases captureId true standardPieces name <;> rfl

/-! ## Names that are given -/

/-- A name that shows a title gives the identifier back. -/
theorem idOf_titled (form : HasStrictForm id) (titled : isTitleValue title) :
    idOf (id ++ '-' :: (title ++ ".md")) Pattern.standard = .ok (some id) := by
  have present : id ≠ [] := by
    obtain ⟨head, tail, rfl, -⟩ := form.parts
    exact List.append_ne_nil_of_right_ne_nil _ (List.cons_ne_nil _ _)
  have strict : acceptsId true id := isStrictId_iff.mpr form
  rw [idOf_standard, captureId_eq strict present titled, Option.some_or]
  -- Both identifiers have one dash, and the name is cut at its second.
  intro other rest accepted whole
  obtain ⟨head, tail, rfl, -, -, inHead, inTail⟩ := form.parts
  obtain ⟨head', tail', rfl, -, -, inHead', inTail'⟩ := (isStrictId_iff.mp accepted).parts
  have pieces := congrArg (splitOn '-') whole
  simp only [List.append_assoc, List.cons_append] at pieces
  rw [splitOn_append inHead, splitOn_append inTail, splitOn_append inHead',
    splitOn_append inTail'] at pieces
  obtain ⟨rfl, later⟩ := List.cons.inj pieces
  obtain ⟨rfl, -⟩ := List.cons.inj later
  rfl

/-- A name that shows no title gives only the part in front of the dash. -/
theorem idOf_untitled (liberal : isLiberalValue head) (titled : isTitleValue tail)
    (inHead : '-' ∉ head) (inTail : '-' ∉ tail) :
    idOf (head ++ '-' :: (tail ++ ".md")) Pattern.standard = .ok (some head) := by
  have present : head ≠ [] := by
    rintro rfl
    cases liberal
  have behind : '-' ∉ tail ++ ".md" := by
    intro dash
    rcases List.mem_append.mp dash with dash | impossible
    · exact inTail dash
    · revert impossible
      decide
  have only : ∀ other rest, head ++ '-' :: (tail ++ ".md") = other ++ '-' :: rest →
      other = head := fun other rest whole =>
    ((List.append_cons_inj_of_notMem inHead behind).mp whole).1.symm
  have none : captureId true standardPieces (head ++ '-' :: (tail ++ ".md")) = none := by
    cases found : captureId true standardPieces (head ++ '-' :: (tail ++ ".md")) with
    | none => rfl
    | some other =>
        obtain ⟨accepted, rest, whole⟩ := of_captureId found
        obtain rfl := only other rest whole
        obtain ⟨front, back, shape, -⟩ := (isStrictId_iff.mp accepted).parts
        exact absurd (by simp [shape]) inHead
  have accepted : acceptsId false head := liberal
  rw [idOf_standard, none, Option.none_or,
    captureId_eq accepted present titled fun other rest _ whole => only other rest whole]

/-- A shown title that is not empty is one that patterns accept. -/
theorem isTitleValue_shownTitle (shown : shownTitle issue ≠ []) :
    isTitleValue (shownTitle issue) := by
  simp only [isTitleValue, Bool.and_eq_true, Bool.not_eq_true', List.isEmpty_eq_false_iff,
    List.all_eq_true, decide_eq_true_eq]
  refine ⟨shown, fun char present => ?_⟩
  rintro rfl
  exact not_mem_shownTitle (by decide) (by decide) present

/-- The name of an issue, whose identifier has the strict form, gives the identifier back exactly
when something is left of its title in a slug and there is room for it. Otherwise the name is the
identifier with the extension, and the part in front of its dash is found. -/
theorem idOf_standard_iff (form : HasStrictForm issue.id) (today : Date) :
    ∃ name, apply today Pattern.standard issue [] = .ok name ∧
      (idOf name Pattern.standard = .ok (some issue.id) ↔
        slug issue.title ≠ [] ∧ issue.id.length ≤ 95) ∧
      (¬ (slug issue.title ≠ [] ∧ issue.id.length ≤ 95) →
        name = issue.id ++ ".md" ∧
          idOf name Pattern.standard = .ok (some (issue.id.takeWhile (· ≠ '-')))) := by
  obtain ⟨head, tail, shape, liberal, titled, inHead, inTail⟩ := form.parts
  have named : issue.id ≠ [] := by
    rw [shape]
    exact List.append_ne_nil_of_right_ne_nil _ (List.cons_ne_nil _ _)
  refine ⟨_, apply_standard today named [], ?_⟩
  rw [resolveCollision, if_neg List.not_mem_nil, ← shownTitle_ne_nil, standardName]
  by_cases shown : shownTitle issue = []
  · have front : issue.id.takeWhile (· ≠ '-') = head := by
      rw [shape, List.takeWhile_append_of_pos]
      · simp
      · exact fun char place => decide_eq_true fun dash => inHead (dash ▸ place)
    have found := idOf_untitled liberal titled inHead inTail
    have whole : issue.id ++ ".md".toList = head ++ '-' :: (tail ++ ".md") := by
      rw [shape, List.append_assoc, List.cons_append]
    rw [if_pos shown, List.append_nil, front, whole, found]
    refine ⟨iff_of_false (fun same => ?_) fun present => present shown, fun _ => ⟨rfl, rfl⟩⟩
    have short := congrArg List.length (Option.some.inj (Except.ok.inj same))
    rw [shape, List.length_append, List.length_cons] at short
    omega
  · have found := idOf_titled form (isTitleValue_shownTitle shown)
    rw [if_neg shown, List.append_assoc, List.cons_append, found]
    exact ⟨iff_of_true rfl shown, fun empty => absurd shown empty⟩

/-- An issue whose title holds words. -/
def wordedIssue : Issue :=
  { (default : Issue) with id := "todo_1-ab3.14", title := "Fix: the parser" }

/-- An issue whose title has words is found by its name. -/
theorem wordedIssue_found : HasStrictForm wordedIssue.id ∧
    ∃ name, apply ⟨2024, 1, 1⟩ Pattern.standard wordedIssue [] = .ok name ∧
      idOf name Pattern.standard = .ok (some "todo_1-ab3.14") := by
  have form : HasStrictForm wordedIssue.id := isStrictId_iff.mp (by decide)
  obtain ⟨name, applied, found, -⟩ := idOf_standard_iff form ⟨2024, 1, 1⟩
  exact ⟨form, name, applied, found.mpr (by decide +kernel)⟩

/-- An issue of whose title nothing is left in a slug. -/
def wordlessIssue : Issue :=
  { (default : Issue) with id := "a-abc", title := "?" }

/-- One whose title has none is found under another identifier. -/
theorem wordlessIssue_not_found : HasStrictForm wordlessIssue.id ∧
    apply ⟨2024, 1, 1⟩ Pattern.standard wordlessIssue [] = .ok "a-abc.md" ∧
      idOf "a-abc.md" Pattern.standard = .ok (some "a") :=
  ⟨isStrictId_iff.mp (by decide), by decide +kernel, by decide +kernel⟩

end Issuebook.Filename
