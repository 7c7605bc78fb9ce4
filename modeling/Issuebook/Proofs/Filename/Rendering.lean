import Issuebook.Book.Naming
import Issuebook.Proofs.Fault
import Issuebook.Proofs.Filename.Collision
import Issuebook.Proofs.Text.Cleaning

/-!
# Characters of rendered names

The values of an issue whose names are safe hold no zero, so a pattern without it gives names
without it: `isZeroFree_apply`. A name is refused for what is wrong with its pattern alone.
-/

namespace Issuebook

open Text

namespace Pattern

variable {pattern text : Text} {position skip : Nat} {previous : Option Char} {pieces : List Piece}

/-- The literals of a pattern are made of its characters. -/
theorem subset_of_mem_scan (made : scan pattern position previous skip text = .ok pieces)
    {literal : Text} (present : .literal literal ∈ pieces) : literal ⊆ text := by
  induction text generalizing position previous skip pieces literal with
  | nil =>
      unfold scan at made
      obtain rfl := Except.ok.inj made
      cases present
  | cons char text inductionHypothesis =>
      cases skip with
      | succ skip =>
          rw [scan] at made
          exact List.subset_cons_of_subset _ (inductionHypothesis made present)
      | zero =>
          rw [scan] at made
          split_ifs at made
          · split at made
            · cases made
            · split_ifs at made
              obtain ⟨later, scanned, rfl⟩ := Fault.map_eq_ok.mp made
              rcases List.mem_cons.mp present with impossible | present
              · cases impossible
              · exact List.subset_cons_of_subset _ (inductionHypothesis scanned present)
          · obtain ⟨later, scanned, rfl⟩ := Fault.map_eq_ok.mp made
            unfold consLiteral at present
            split at present
            · next front others =>
                rcases List.mem_cons.mp present with same | present
                · obtain rfl := Piece.literal.inj same
                  exact List.cons_subset_cons _ (inductionHypothesis scanned List.mem_cons_self)
                · have inside := inductionHypothesis scanned (List.mem_cons_of_mem _ present)
                  exact List.subset_cons_of_subset _ inside
            · rcases List.mem_cons.mp present with same | present
              · obtain rfl := Piece.literal.inj same
                exact List.cons_subset_cons _ (List.nil_subset _)
              · exact List.subset_cons_of_subset _ (inductionHypothesis scanned present)

/-- What is wrong with a pattern is expected. -/
theorem isExpected_of_scan {fault : Fault}
    (failed : scan pattern position previous skip text = .error fault) :
    fault.isExpected = true := by
  induction text generalizing position previous skip fault with
  | nil =>
      unfold scan at failed
      cases failed
  | cons char text inductionHypothesis =>
      cases skip with
      | succ skip =>
          rw [scan] at failed
          exact inductionHypothesis failed
      | zero =>
          rw [scan] at failed
          split_ifs at failed
          · split at failed
            · obtain rfl := Except.error.inj failed
              rfl
            · split_ifs at failed
              · obtain rfl := Except.error.inj failed
                rfl
              · exact inductionHypothesis (Fault.map_eq_error.mp failed)
          · exact inductionHypothesis (Fault.map_eq_error.mp failed)

end Pattern

namespace Text

/-- The digits of a number have no zero character. -/
theorem isZeroFree_ofNat (number : Nat) : IsZeroFree (ofNat number) := fun char present =>
  val_ne_zero_of_test Char.isDigit (by decide)
    (Nat.isDigit_of_mem_toDigits (by decide) (by decide) present)

/-- Neither have they when padded. -/
theorem isZeroFree_padded (width number : Nat) : IsZeroFree (padded width number) := by
  refine isZeroFree_append.mpr ⟨fun char present => ?_, isZeroFree_ofNat number⟩
  rw [List.eq_of_mem_replicate present]
  decide

end Text

/-- Neither has a date. -/
theorem Date.isZeroFree_toText (date : Date) : IsZeroFree date.toText := by
  unfold toText
  simp only [isZeroFree_append, isZeroFree_cons]
  exact ⟨⟨isZeroFree_padded _ _, by decide, isZeroFree_padded _ _⟩, by decide,
    isZeroFree_padded _ _⟩

namespace Filename

variable {today : Date} {pattern name text : Text} {issue : Issue} {taken : List Text}
  {pieces : List Piece} {values : Text → Shape → Text}

/-! ## Values -/

/-- Neither has a title in any shape. -/
theorem isZeroFree_shaped (shape : Shape) (title : Text) : IsZeroFree (shaped shape title) := by
  cases shape with
  | preserve => exact isZeroFree_tidyTitle title
  | slugify => exact isZeroFree_slug title
  | capitalize => exact isZeroFree_tidyTitle _

/-- Neither has the date at the front of a text. -/
theorem isZeroFree_dateAtFront? {date : Text} (found : dateAtFront? text = some date) :
    IsZeroFree date := by
  unfold dateAtFront? at found
  dsimp only at found
  split_ifs at found with fits
  obtain rfl := Option.some.inj found
  intro char present
  obtain ⟨index, inside, place⟩ := List.getElem_of_mem present
  have shaped := List.all_eq_true.mp fits.2 (char, index)
    (List.mem_zipIdx_iff_getElem?.mpr (place ▸ List.getElem?_eq_getElem inside))
  dsimp only at shaped
  split_ifs at shaped
  · rw [of_decide_eq_true shaped]
    decide
  · exact val_ne_zero_of_test isDecimalDigit (by decide) shaped

/-- Neither has the date of an issue. -/
theorem isZeroFree_dateText (today : Date) (created : Option Text) :
    IsZeroFree (dateText today created) := by
  unfold dateText
  dsimp only
  split
  · next found => exact isZeroFree_dateAtFront? found
  · split
    · exact Date.isZeroFree_toText _
    · exact Date.isZeroFree_toText _

/-- The name of a user has none if it is written without. -/
theorem isZeroFree_userName {assignee : Option Text}
    (free : ∀ written ∈ assignee, IsZeroFree written) : IsZeroFree (userName assignee) := by
  have whole : IsZeroFree (Issue.textOrEmpty assignee) := by
    cases assignee with
    | none => exact fun _ impossible => absurd impossible List.not_mem_nil
    | some written => exact free written rfl
  unfold userName
  dsimp only
  split
  · next before after cut =>
      split_ifs
      · exact whole
      · rw [eq_of_cutAtChar? cut] at whole
        exact (isZeroFree_append.mp whole).1
  · exact whole

/-- The values of an issue hold no zero, when its identifier and its assignee hold none. -/
theorem isZeroFree_valueOf (today : Date) (idFree : IsZeroFree issue.id)
    (assigneeFree : ∀ assignee ∈ issue.assignee, IsZeroFree assignee) (name : Text)
    (shape : Shape) : IsZeroFree (valueOf today issue name shape) := by
  unfold valueOf
  split_ifs
  · exact idFree
  · exact isZeroFree_shaped shape issue.title
  · cases issue.kind <;> decide
  · exact isZeroFree_ofNat _
  · exact isZeroFree_userName assigneeFree
  · exact isZeroFree_dateText today issue.createdAt
  · exact fun _ impossible => absurd impossible List.not_mem_nil

/-- Cutting at a word adds no character. -/
theorem cutAtWord_subset (text : Text) (limit : Int) : cutAtWord text limit ⊆ text := by
  unfold cutAtWord
  split_ifs
  · exact List.Subset.refl text
  · exact List.nil_subset text
  · dsimp only
    refine List.Subset.trans (trimEndBy_subset _ _) ?_
    split
    · split_ifs
      · exact List.Subset.trans (List.take_subset _ _) (List.take_subset _ _)
      · exact List.take_subset _ _
    · exact List.take_subset _ _

/-! ## Names -/

/-- The title of an issue in a shape, cut by what the name of the pieces is too long. -/
def shortTitle (today : Date) (issue : Issue) (pieces : List Piece) (shape : Shape) : Text :=
  let title := shaped shape issue.title
  let name := assemble (issueValues today issue) pieces
  cutAtWord title ((title.length : Int) - ((name.length : Int) - lengthLimit))

/-- The values that the name of an issue shows: its own, or a shorter title for every title where
they make the name too long. -/
def shownValues (today : Date) (issue : Issue) (pieces : List Piece) : Text → Shape → Text :=
  match titleShape? pieces with
  | none => issueValues today issue
  | some shape =>
    if (assemble (issueValues today issue) pieces).length ≤ lengthLimit then issueValues today issue
    else valuesWithTitle today issue (shortTitle today issue pieces shape)

/-- Fitting a pattern to an issue is assembling its values. -/
theorem fit_eq_assemble (today : Date) (issue : Issue) (pieces : List Piece) :
    fit today issue pieces = assemble (shownValues today issue pieces) pieces := by
  unfold fit shownValues
  cases titleShape? pieces with
  | none => rfl
  | some shape =>
      dsimp only
      split_ifs <;> rfl

/-- An empty value drops the delimiter in front of it, or marks the one behind it to be dropped. -/
theorem Progress.addValue_nil (progress : Progress) : progress.addValue [] =
    if progress.afterLiteral && progress.rendered.getLast?.any isDelimiter then
      ⟨progress.rendered.dropLast, progress.dropsDelimiter, false⟩
    else ⟨progress.rendered, progress.dropsDelimiter || progress.rendered.isEmpty, false⟩ :=
  rfl

/-- Any other value is put behind what there is. -/
theorem Progress.addValue_of_ne_nil {value : Text} (present : value ≠ []) (progress : Progress) :
    progress.addValue value = ⟨progress.rendered ++ value, false, false⟩ :=
  if_neg (by simpa using present)

/-- A piece without zero adds none. -/
theorem isZeroFree_add {progress : Progress} (free : IsZeroFree progress.rendered)
    (valuesFree : ∀ name shape, IsZeroFree (values name shape)) {piece : Piece}
    (literalFree : ∀ literal, piece = .literal literal → IsZeroFree literal) :
    IsZeroFree (progress.add values piece).rendered := by
  rcases piece with literal | ⟨name, shape⟩
  · have whole := literalFree literal rfl
    refine isZeroFree_append.mpr ⟨free, ?_⟩
    split_ifs
    · exact whole.of_subset (List.tail_suffix literal).subset
    · exact whole
  · rw [Progress.add, Progress.addValue]
    split_ifs
    · exact free.of_subset (List.dropLast_subset _)
    · exact free
    · exact isZeroFree_append.mpr ⟨free, valuesFree name shape⟩

/-- Neither do all pieces together. -/
theorem isZeroFree_assemble (valuesFree : ∀ name shape, IsZeroFree (values name shape))
    (literalsFree : ∀ literal, .literal literal ∈ pieces → IsZeroFree literal) :
    IsZeroFree (assemble values pieces) := by
  suffices later : ∀ progress : Progress, IsZeroFree progress.rendered →
      IsZeroFree (pieces.foldl (Progress.add values) progress).rendered from
    later .start fun _ impossible => absurd impossible List.not_mem_nil
  induction pieces with
  | nil => exact fun _ free => free
  | cons piece pieces inductionHypothesis =>
      intro progress free
      refine inductionHypothesis (fun literal present =>
        literalsFree literal (List.mem_cons_of_mem _ present)) _ ?_
      refine isZeroFree_add free valuesFree fun literal same => literalsFree literal ?_
      rw [same]
      exact List.mem_cons_self

/-- The name of an issue has no zero if its parts have none. -/
theorem isZeroFree_fit (today : Date) (idFree : IsZeroFree issue.id)
    (assigneeFree : ∀ assignee ∈ issue.assignee, IsZeroFree assignee)
    (literalsFree : ∀ literal, .literal literal ∈ pieces → IsZeroFree literal) :
    IsZeroFree (fit today issue pieces) := by
  have valuesFree := isZeroFree_valueOf today idFree assigneeFree
  rw [fit_eq_assemble]
  refine isZeroFree_assemble (fun name shape => ?_) literalsFree
  unfold shownValues
  cases titleShape? pieces with
  | none => exact valuesFree name shape
  | some titleShape =>
      dsimp only
      split_ifs
      · exact valuesFree name shape
      · unfold valuesWithTitle
        split_ifs
        · exact (isZeroFree_shaped _ _).of_subset (cutAtWord_subset _ _)
        · exact valuesFree name shape

/-- A split name is its two parts. -/
theorem splitComponent_append (component : Text) :
    (splitComponent component).1 ++ (splitComponent component).2 = component := by
  unfold splitComponent
  split
  · next base extension cut =>
      split_ifs
      · exact List.append_nil component
      · exact (eq_of_cutAtLastChar? cut).symm
  · exact List.append_nil component

/-- A name is split where its extension begins. -/
theorem splitExtension_append (name : Text) :
    (splitExtension name).1 ++ (splitExtension name).2 = name := by
  unfold splitExtension
  split
  · next directory component cut =>
      dsimp only
      rw [List.append_assoc, List.cons_append, splitComponent_append]
      exact (eq_of_cutAtLastChar? cut).symm
  · exact splitComponent_append name

/-- A number adds no zero. -/
theorem isZeroFree_numbered (free : IsZeroFree name) (number : Nat) :
    IsZeroFree (numbered name number) := by
  rw [← splitExtension_append name] at free
  obtain ⟨baseFree, extensionFree⟩ := isZeroFree_append.mp free
  exact isZeroFree_append.mpr ⟨isZeroFree_append.mpr
    ⟨baseFree, isZeroFree_cons.mpr ⟨by decide, isZeroFree_ofNat number⟩⟩, extensionFree⟩

/-- Neither does the resolution of a collision. -/
theorem isZeroFree_resolveCollision (free : IsZeroFree name) (taken : List Text) :
    IsZeroFree (resolveCollision name taken) := by
  unfold resolveCollision
  split_ifs
  · obtain ⟨passed, -, found, -⟩ := freeFrom_eq name taken 1 taken.length
    rw [found]
    exact isZeroFree_numbered free _
  · exact free

end Filename

namespace Book

/-- A pattern without zeros gives every issue a name without them. -/
theorem isZeroFree_apply {today : Date} {pattern name : Text} {issue : Issue} {taken : List Text}
    (patternFree : IsZeroFree pattern)
    (applied : Filename.apply today pattern (withSafeNames issue) taken = .ok name) :
    IsZeroFree name := by
  obtain ⟨pieces, read, rfl⟩ := Fault.map_eq_ok.mp applied
  refine Filename.isZeroFree_resolveCollision (Filename.isZeroFree_fit today ?_ ?_ ?_) taken
  · unfold withSafeNames
    dsimp only
    split_ifs
    · decide
    · exact (isHarmless_safeName issue.id).zeroFree
  · intro assignee present
    obtain ⟨written, -, safe⟩ := Option.bind_eq_some_iff.mp present
    dsimp only at safe
    split_ifs at safe
    rw [← Option.some.inj safe]
    exact (isHarmless_safeName written).zeroFree
  · exact fun literal present =>
      patternFree.of_subset (Pattern.subset_of_mem_scan read present)

/-- Every fault of a pattern is expected. -/
theorem isExpected_of_apply {today : Date} {pattern : Text} {issue : Issue} {taken : List Text}
    {fault : Fault} (failed : Filename.apply today pattern issue taken = .error fault) :
    fault.isExpected = true :=
  Pattern.isExpected_of_scan (Fault.map_eq_error.mp failed)

end Book

end Issuebook
