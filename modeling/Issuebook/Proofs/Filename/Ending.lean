import Issuebook.Proofs.Filename.Rendering
import Issuebook.Proofs.Text.Lines

/-!
# Endings of names

A pattern whose last piece is a literal with an extension at its end gives every issue a name with
that extension. A number that sets a taken name apart stands in front of the extension, so the name
keeps it, unless its last component is the extension alone: then the number stands behind it, and
the extension is lost (`numbered_of_isBare`).
-/

namespace Issuebook

namespace Filename

variable {today : Date} {issue : Issue} {taken : List Text} {pieces : List Piece}
  {ending extension literal name pattern : Text} {values : Text → Shape → Text}

/-- Whether the last component of a name is an extension with its dot and nothing else. -/
def IsBare (extension name : Text) : Prop :=
  name = '.' :: extension ∨ '/' :: '.' :: extension <:+ name

/-- A name that is an extension alone with a number behind it. -/
def IsNumberedBare (extension name : Text) : Prop :=
  ∃ bare number, IsBare extension bare ∧ name = bare ++ '-' :: Text.ofNat number

/-! ## Rendered names -/

/-- A delimiter that is dropped stands in front of an ending that does not begin with one. -/
theorem suffix_addLiteral (ends : ending <:+ literal)
    (plain : ¬ ending.head?.any isDelimiter) (progress : Progress) :
    ending <:+ (progress.addLiteral literal).rendered := by
  refine List.IsSuffix.trans ?_ (List.suffix_append progress.rendered _)
  split_ifs with dropped
  · obtain ⟨front, rfl⟩ := ends
    cases front with
    | nil => exact absurd (Bool.and_eq_true_iff.mp dropped).2 plain
    | cons first front => exact List.suffix_append front ending
  · exact ends

/-- An ending at the end of the last literal stays at the end of the name. -/
theorem suffix_assemble (ends : ending <:+ literal) (plain : ¬ ending.head?.any isDelimiter) :
    ending <:+ assemble values (pieces ++ [.literal literal]) := by
  rw [assemble, List.foldl_append]
  exact suffix_addLiteral ends plain _

/-- The same for the name of an issue. -/
theorem suffix_fit (ends : ending <:+ literal) (plain : ¬ ending.head?.any isDelimiter) :
    ending <:+ fit today issue (pieces ++ [.literal literal]) := by
  rw [fit_eq_assemble]
  exact suffix_assemble ends plain

/-! ## Numbered names -/

section Numbered

variable (dotless : '.' ∉ extension) (slashless : '/' ∉ extension)
include dotless

/-- A component is split at its last dot, unless nothing stands in front of the dot. -/
theorem splitComponent_append_dot (stem : Text) :
    splitComponent (stem ++ '.' :: extension) =
      if stem = [] then ('.' :: extension, []) else (stem, '.' :: extension) := by
  rw [splitComponent, Text.cutAtLastChar?_append dotless]
  cases stem <;> rfl

include slashless

/-- A name that is an extension alone has none. -/
theorem splitExtension_of_isBare (bare : IsBare extension name) :
    splitExtension name = (name, []) := by
  have whole : splitComponent ('.' :: extension) = ('.' :: extension, []) :=
    splitComponent_append_dot dotless []
  have slashless : '/' ∉ '.' :: extension :=
    List.not_mem_cons_of_ne_of_not_mem (by decide) slashless
  rw [splitExtension]
  rcases bare with rfl | ⟨directory, rfl⟩
  · split
    · next directory component cut =>
        refine absurd ?_ slashless
        rw [Text.eq_of_cutAtLastChar? cut]
        exact List.mem_append_right _ List.mem_cons_self
    · exact whole
  · rw [Text.cutAtLastChar?_append slashless]
    dsimp only
    rw [whole]

/-- Where the last component is the extension alone, the number stands behind it. -/
theorem numbered_of_isBare (bare : IsBare extension name) (number : Nat) :
    numbered name number = name ++ '-' :: Text.ofNat number := by
  rw [numbered, splitExtension_of_isBare dotless slashless bare]
  exact List.append_nil _

/-- Any other name has the extension that it ends with. -/
theorem splitExtension_of_suffix (ends : '.' :: extension <:+ name)
    (full : ¬ IsBare extension name) : (splitExtension name).2 = '.' :: extension := by
  have slashless : '/' ∉ '.' :: extension :=
    List.not_mem_cons_of_ne_of_not_mem (by decide) slashless
  rw [splitExtension]
  split
  · next directory component cut =>
      obtain ⟨stem, rfl⟩ := Text.suffix_of_cutAtLastChar? cut ends slashless
      obtain rfl := Text.eq_of_cutAtLastChar? cut
      have present : stem ≠ [] := by
        rintro rfl
        exact full (.inr (List.suffix_append directory _))
      rw [splitComponent_append_dot dotless, if_neg present]
  · obtain ⟨stem, rfl⟩ := ends
    have present : stem ≠ [] := by
      rintro rfl
      exact full (.inl rfl)
    rw [splitComponent_append_dot dotless, if_neg present]

/-- It keeps the extension when it is numbered. -/
theorem suffix_numbered (ends : '.' :: extension <:+ name) (full : ¬ IsBare extension name)
    (number : Nat) : '.' :: extension <:+ numbered name number := by
  rw [numbered]
  dsimp only
  rw [splitExtension_of_suffix dotless slashless ends full]
  exact List.suffix_append _ _

/-- A settled name keeps the extension, or is a bare extension with a number behind it. -/
theorem suffix_resolveCollision (ends : '.' :: extension <:+ name) (taken : List Text) :
    '.' :: extension <:+ resolveCollision name taken ∨ IsBare extension name ∧
      ∃ number, resolveCollision name taken = name ++ '-' :: Text.ofNat number := by
  unfold resolveCollision
  split_ifs
  · obtain ⟨passed, -, found, -⟩ := freeFrom_eq name taken 1 taken.length
    rw [found]
    by_cases bare : IsBare extension name
    · exact .inr ⟨bare, _, numbered_of_isBare dotless slashless bare _⟩
    · exact .inl (suffix_numbered dotless slashless ends bare _)
  · exact .inl ends

/-- A pattern that ends with an extension gives names that do, but for numbered bare ones. -/
theorem suffix_of_apply (read : Pattern.read pattern = .ok (pieces ++ [.literal literal]))
    (ends : '.' :: extension <:+ literal)
    (applied : apply today pattern issue taken = .ok name) :
    '.' :: extension <:+ name ∨ IsNumberedBare extension name := by
  rw [apply, read] at applied
  obtain rfl := Except.ok.inj applied
  have plain : ¬ ('.' :: extension).head?.any isDelimiter := by simp [isDelimiter]
  refine (suffix_resolveCollision dotless slashless (suffix_fit ends plain) taken).imp_right ?_
  exact fun ⟨bare, number, same⟩ => ⟨_, number, bare, same⟩

end Numbered

/-- A text with a number at its end does not end with an extension. -/
theorem not_suffix_of_number (dashless : '-' ∉ extension) {number : Nat}
    (numbered : '-' :: Text.ofNat number <:+ name) : ¬ '.' :: extension <:+ name := by
  intro ends
  rcases List.suffix_or_suffix_of_suffix ends numbered with inside | outside
  · rcases List.mem_cons.mp (inside.subset List.mem_cons_self) with impossible | digit
    · cases impossible
    · exact absurd (Nat.isDigit_of_mem_toDigits (by decide) (by decide) digit) (by decide)
  · rcases List.mem_cons.mp (outside.subset List.mem_cons_self) with impossible | dash
    · cases impossible
    · exact dashless dash

/-- A name with an extension is no extension alone with a number. -/
theorem not_isNumberedBare (dashless : '-' ∉ extension) (ends : '.' :: extension <:+ name) :
    ¬ IsNumberedBare extension name := by
  rintro ⟨bare, number, -, rfl⟩
  exact not_suffix_of_number dashless (List.suffix_append bare _) ends

end Filename

/-- The ending of a text is the ending of the last segment of the path that it writes. -/
theorem Path.suffix_last {ending text : Text} (solid : isSegment ending) (slashless : '/' ∉ ending)
    (ends : ending <:+ text) :
    (ofText text).segments ≠ [] ∧ ending <:+ (ofText text).segments.getLastD [] := by
  obtain ⟨front, last, pieces, ends⟩ : ∃ front last, Text.splitOn '/' text = front ++ [last] ∧
      ending <:+ last := by
    cases cut : Text.cutAtLastChar? '/' text with
    | none => exact ⟨[], text, Text.splitOn_of_absent (Text.not_mem_of_cutAtLastChar? cut), ends⟩
    | some parts =>
        obtain ⟨before, after⟩ := parts
        refine ⟨Text.splitOn '/' before, after, ?_,
          Text.suffix_of_cutAtLastChar? cut ends slashless⟩
        rw [Text.eq_of_cutAtLastChar? cut, Text.splitOn_append_mark,
          Text.splitOn_of_absent (Text.not_mem_after_of_cutAtLastChar? cut)]
  have solidLast : isSegment last = true := by
    obtain ⟨present, notDot⟩ : ending ≠ [] ∧ ending ≠ ['.'] := by
      simpa [isSegment] using solid
    refine decide_eq_true ⟨?_, ?_⟩
    · rintro rfl
      exact present (List.suffix_nil.mp ends)
    · rintro rfl
      rcases List.suffix_cons_iff.mp ends with same | empty
      · exact notDot same
      · exact present (List.suffix_nil.mp empty)
  have segments : (ofText text).segments = front.filter isSegment ++ [last] := by
    rw [ofText, pieces, List.filter_append]
    simp [solidLast]
  rw [segments, List.getLastD_concat]
  exact ⟨List.append_ne_nil_of_right_ne_nil _ (List.cons_ne_nil _ _), ends⟩

end Issuebook
