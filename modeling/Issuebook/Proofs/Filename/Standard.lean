import Issuebook.Proofs.Filename.Ending

/-!
# Names of the standard pattern

The standard pattern joins an identifier and the slug of a title by a dash. What is shown of the
slug is as long as the name may be, and a title of which nothing is shown takes the dash along:
`fit_standard`. No name of the pattern has a slash that its identifier had not, and each ends with
the extension: `isFileName_of_apply`.
-/

namespace Issuebook

namespace Text

variable {char : Char} {text : Text}

/-- A slug is made of letters, numeric characters and dashes. -/
theorem mem_slug (present : char ∈ slug text) : char = '-' ∨ isAlphanumeric char := by
  rcases mem_replaceRuns (trimBy_subset _ _ present) with dash | ⟨-, alphanumeric⟩
  · exact .inl (List.mem_singleton.mp dash)
  · exact .inr (by simpa using alphanumeric)

/-- A slug has letters, digits and dashes only. -/
theorem not_mem_slug (other : char ≠ '-') (outside : isAlphanumeric char = false) :
    char ∉ slug text := by
  intro present
  rcases mem_slug present with rfl | alphanumeric
  · exact other rfl
  · rw [outside] at alphanumeric
    cases alphanumeric

/-- What is left of a text that is trimmed at its end begins as the text does. -/
theorem head?_trimEndBy {drop : Char → Bool} (kept : trimEndBy drop text ≠ []) :
    (trimEndBy drop text).head? = text.head? := by
  obtain ⟨rest, shape⟩ := List.rdropWhile_prefix drop text
  have same : (trimEndBy drop text ++ rest).head? = text.head? := congrArg List.head? shape
  rw [← same, List.head?_append_of_ne_nil _ kept]

/-- A slug does not begin with a dash. -/
theorem head?_slug : (slug text).head? ≠ some '-' := by
  intro dash
  have kept : slug text ≠ [] := by
    intro empty
    rw [empty] at dash
    cases dash
  rw [slug, trimBy, head?_trimEndBy kept, trimStartBy] at dash
  have dropped := List.head?_dropWhile_not (fun char => decide (char = '-'))
    (replaceRuns (fun char => !isAlphanumeric char) ['-'] (lower (plain text)))
  rw [dash] at dropped
  simp at dropped

end Text

namespace Filename

variable {today : Date} {issue : Issue} {taken : List Text} {name text title : Text}
  {char : Char} {limit : Int}

/-! ## Cutting a title -/

/-- Of a text that begins with a kept character something remains. -/
theorem trimEndBy_ne_nil {drop : Char → Bool} (first : text.head? = some char)
    (kept : drop char = false) : Text.trimEndBy drop text ≠ [] := by
  intro empty
  have dropped := List.rdropWhile_eq_nil_iff.mp empty char (List.mem_of_mem_head? first)
  rw [kept] at dropped
  cases dropped

/-- Something is left of a title that begins with neither a space nor a dash, if there is room. -/
theorem cutAtWord_ne_nil (solid : ∀ char ∈ text.head?, char ≠ ' ' ∧ char ≠ '-') :
    cutAtWord text limit ≠ [] ↔ text ≠ [] ∧ 0 < limit := by
  cases text with
  | nil =>
      refine iff_of_false (fun kept => kept ?_) fun ⟨present, _⟩ => present rfl
      exact List.subset_nil.mp (cutAtWord_subset [] limit)
  | cons first rest =>
      obtain ⟨space, dash⟩ := solid first rfl
      have inner : (first == ' ' || first == '-') = false := by
        simp [space, dash]
      have front {length : Nat} {text : Text} (some : 0 < length)
          (head : text.head? = Option.some first) :
          (text.take length).head? = Option.some first := by
        rw [List.head?_take, if_neg (by omega), head]
      unfold cutAtWord
      split_ifs with fits full
      · rw [List.length_cons] at fits
        exact iff_of_true (List.cons_ne_nil _ _) ⟨List.cons_ne_nil _ _, by omega⟩
      · exact iff_of_false (fun kept => kept rfl) fun ⟨_, room⟩ => by omega
      · refine iff_of_true (trimEndBy_ne_nil ?_ inner) ⟨List.cons_ne_nil _ _, by omega⟩
        have cut : ((first :: rest).take limit.toNat).head? = some first := front (by omega) rfl
        split
        · split_ifs
          · exact front (by omega) cut
          · exact cut
        · exact cut

/-! ## The pattern -/

/-- The pieces of the standard pattern. -/
def standardPieces : List Piece :=
  [.variable "id" .preserve, .literal "-", .variable "title" .slugify, .literal ".md"]

/-- The standard pattern has its pieces. -/
theorem read_standard : Pattern.read Pattern.standard = .ok standardPieces := by
  decide +kernel

/-- An identifier, and a title behind a dash if there is one, with the extension. -/
def standardName (id title : Text) : Text :=
  id ++ (if title = [] then [] else '-' :: title) ++ ".md"

/-- They are assembled to the standard name. -/
theorem assemble_standard {values : Text → Shape → Text} {id title : Text}
    (named : values "id" .preserve = id) (titled : values "title" .slugify = title)
    (present : id ≠ []) : assemble values standardPieces = standardName id title := by
  have first : Progress.add values .start (.variable "id" .preserve) = ⟨id, false, false⟩ := by
    rw [Progress.add, named, Progress.addValue, if_neg (by simpa using present)]
    rfl
  have second : Progress.add values ⟨id, false, false⟩ (.literal "-") = ⟨id ++ "-", false, true⟩ :=
    rfl
  have third : Progress.add values ⟨id ++ "-", false, true⟩ (.variable "title" .slugify) =
      ⟨id ++ (if title = [] then [] else '-' :: title), false, false⟩ := by
    rw [Progress.add, titled, Progress.addValue]
    by_cases empty : title = []
    · simp [empty, isDelimiter]
    · simp [empty]
  rw [assemble, standardPieces, List.foldl_cons, first, List.foldl_cons, second, List.foldl_cons,
    third]
  rfl

/-- The title that is shown in the name of an issue: its slug, cut to the room that is left. -/
def shownTitle (issue : Issue) : Text :=
  cutAtWord (Text.slug issue.title) (96 - issue.id.length)

/-- How long a standard name is. -/
theorem length_standardName (id title : Text) : (standardName id title).length =
    id.length + (if title = [] then 0 else 1 + title.length) + 3 := by
  unfold standardName
  split_ifs
  · simp
  · simp
    omega

/-- The standard pattern gives an issue its standard name. -/
theorem fit_standard (today : Date) (named : issue.id ≠ []) :
    fit today issue standardPieces = standardName issue.id (shownTitle issue) := by
  have whole : assemble (issueValues today issue) standardPieces =
      standardName issue.id (Text.slug issue.title) := assemble_standard rfl rfl named
  have cut (title : Text) : assemble (valuesWithTitle today issue title) standardPieces =
      standardName issue.id title := assemble_standard rfl rfl named
  have shape : titleShape? standardPieces = some .slugify := rfl
  unfold fit
  rw [shape, whole]
  dsimp only
  rw [cut, shownTitle, shaped, length_standardName]
  by_cases empty : Text.slug issue.title = []
  · have nothing (limit : Int) : cutAtWord [] limit = [] :=
      List.subset_nil.mp (cutAtWord_subset [] limit)
    rw [empty, nothing, nothing, ite_self]
  · rw [if_neg empty]
    split_ifs with fits
    · have room : ((Text.slug issue.title).length : Int) ≤ 96 - issue.id.length := by
        unfold lengthLimit at fits
        omega
      rw [cutAtWord, if_pos room]
    · congr 2
      unfold lengthLimit
      omega

/-- Something is shown of a title exactly when something is left of it in a slug, and there is room
behind the identifier. -/
theorem shownTitle_ne_nil :
    shownTitle issue ≠ [] ↔ Text.slug issue.title ≠ [] ∧ issue.id.length ≤ 95 := by
  have solid : ∀ char ∈ (Text.slug issue.title).head?, char ≠ ' ' ∧ char ≠ '-' := by
    intro char first
    refine ⟨?_, ?_⟩
    · rintro rfl
      exact Text.not_mem_slug (by decide) (by decide) (List.mem_of_mem_head? first)
    · rintro rfl
      exact Text.head?_slug first
  rw [shownTitle, cutAtWord_ne_nil solid]
  exact and_congr_right fun _ => by omega

/-- A shown title has letters, digits and dashes only. -/
theorem not_mem_shownTitle (other : char ≠ '-') (outside : Text.isAlphanumeric char = false) :
    char ∉ shownTitle issue := fun present =>
  Text.not_mem_slug other outside (cutAtWord_subset _ _ present)

/-- So the name of an issue is its standard name, made free. -/
theorem apply_standard (today : Date) (named : issue.id ≠ []) (taken : List Text) :
    apply today Pattern.standard issue taken =
      .ok (resolveCollision (standardName issue.id (shownTitle issue)) taken) := by
  rw [apply, read_standard, ← fit_standard today named]
  rfl

/-! ## Settled names -/

/-- A number that sets a name apart brings digits and a dash, and nothing else. -/
theorem mem_resolveCollision (present : char ∈ resolveCollision name taken) :
    char ∈ name ∨ char = '-' ∨ char.isDigit := by
  unfold resolveCollision at present
  split_ifs at present
  · obtain ⟨passed, -, found, -⟩ := freeFrom_eq name taken 1 taken.length
    rw [found, numbered] at present
    dsimp only at present
    have parts := splitExtension_append name
    rcases List.mem_append.mp present with front | extension
    · rcases List.mem_append.mp front with base | counted
      · exact .inl (parts ▸ List.mem_append_left _ base)
      · rcases List.mem_cons.mp counted with dash | digit
        · exact .inr (.inl dash)
        · exact .inr (.inr (Nat.isDigit_of_mem_toDigits (by decide) (by decide) digit))
    · exact .inl (parts ▸ List.mem_append_right _ extension)
  · exact .inl present

/-- The characters of a standard name are those of the identifier, the title and the ending. -/
theorem mem_standardName {id title : Text} (present : char ∈ standardName id title) :
    char ∈ id ∨ char ∈ title ∨ char ∈ ("-.md" : Text) := by
  rcases List.mem_append.mp present with front | ending
  · rcases List.mem_append.mp front with inId | shown
    · exact .inl inId
    · split_ifs at shown
      · cases shown
      · rcases List.mem_cons.mp shown with rfl | inTitle
        · exact .inr (.inr (by decide))
        · exact .inr (.inl inTitle)
  · exact .inr (.inr (List.mem_cons_of_mem _ ending))

/-- An identifier without slashes gives names of files: without slashes, and with the extension,
whatever names are taken. -/
theorem isFileName_of_apply (named : issue.id ≠ []) (slashless : '/' ∉ issue.id)
    (applied : apply today Pattern.standard issue taken = .ok name) :
    '/' ∉ name ∧ (".md" : Text) <:+ name := by
  rw [apply_standard today named] at applied
  obtain rfl := Except.ok.inj applied
  have plain : '/' ∉ standardName issue.id (shownTitle issue) := by
    intro present
    rcases mem_standardName present with inId | inTitle | impossible
    · exact slashless inId
    · exact not_mem_shownTitle (by decide) (by decide) inTitle
    · revert impossible
      decide
  refine ⟨fun present => ?_, ?_⟩
  · rcases mem_resolveCollision present with inName | dash | digit
    · exact plain inName
    · cases dash
    · cases digit
  · have ends : (".md" : Text) <:+ standardName issue.id (shownTitle issue) :=
      List.suffix_append _ _
    have dotless : '.' ∉ ("md" : Text) := by decide
    have slashless : '/' ∉ ("md" : Text) := by decide
    refine (suffix_resolveCollision dotless slashless ends taken).resolve_right ?_
    rintro ⟨bare | ⟨directory, whole⟩, -⟩
    · have present := List.length_pos_iff.mpr named
      have short : (standardName issue.id (shownTitle issue)).length = 3 := by
        rw [bare]
        rfl
      rw [length_standardName] at short
      omega
    · refine plain ?_
      rw [← whole]
      exact List.mem_append_right _ List.mem_cons_self

end Filename

end Issuebook
