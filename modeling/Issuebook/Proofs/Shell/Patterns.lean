import Issuebook.Shell.Glob

/-!
# What patterns match

A pattern matches exactly the texts that are put together from what its items stand for:
`accepts_iff`. A text loses the shortest or the longest of its ends that a pattern matches, as it is
asked for, and nothing when there is none. What is written inside quotes matches itself alone, so a
quoted field is never taken for a pattern of paths: `pathsOrSelf_quoted`.
-/

namespace Issuebook.Shell

namespace Glob

variable {glob first second : Glob} {item : GlobItem} {text front rest : Text} {char : Char}

/-- The texts that a pattern stands for. -/
inductive Matches : Glob → Text → Prop where
  /-- An empty pattern stands for the empty text. -/
  | nil : Matches [] []
  /-- Any item but a star stands for one character. -/
  | single {item : GlobItem} {glob : Glob} {char : Char} {rest : Text} (other : item ≠ .many)
    (admitted : item.admits char = true) (later : Matches glob rest) :
    Matches (item :: glob) (char :: rest)
  /-- A star stands for any text. -/
  | many {glob : Glob} {rest : Text} (front : Text) (later : Matches glob rest) :
    Matches (.many :: glob) (front ++ rest)

/-- The ends of a text are its suffixes. -/
theorem mem_ends : rest ∈ ends text ↔ rest <:+ text := by
  induction text with
  | nil => simp [ends]
  | cons char text inductionHypothesis =>
      rw [ends, List.mem_cons, inductionHypothesis, List.suffix_cons_iff]

/-- The empty pattern matches the empty text. -/
theorem matches_nil : Matches [] text ↔ text = [] := by
  constructor
  · rintro ⟨⟩
    rfl
  · rintro rfl
    exact .nil

/-- A star matches any front. -/
theorem matches_many :
    Matches (.many :: glob) text ↔ ∃ rest, rest <:+ text ∧ Matches glob rest := by
  constructor
  · rintro (_ | ⟨other, _, _⟩ | ⟨front, later⟩)
    · exact absurd rfl other
    · exact ⟨_, List.suffix_append front _, later⟩
  · rintro ⟨rest, ⟨front, rfl⟩, later⟩
    exact .many front later

/-- Any other item matches one character. -/
theorem matches_single (other : item ≠ .many) :
    Matches (item :: glob) text ↔
      ∃ char rest, text = char :: rest ∧ item.admits char = true ∧ Matches glob rest := by
  constructor
  · rintro (_ | ⟨_, admitted, later⟩ | _)
    · exact ⟨_, _, rfl, admitted, later⟩
    · exact absurd rfl other
  · rintro ⟨char, rest, rfl, admitted, later⟩
    exact .single other admitted later

/-- The search accepts exactly the texts that a pattern stands for. -/
theorem accepts_iff : accepts glob text = true ↔ Matches glob text := by
  induction glob generalizing text with
  | nil => rw [matches_nil, accepts, List.isEmpty_iff]
  | cons item glob inductionHypothesis =>
      by_cases star : item = .many
      · subst star
        rw [matches_many, accepts, List.any_eq_true]
        simp only [mem_ends, inductionHypothesis]
      · rw [matches_single star]
        cases text with
        | nil => simp [accepts]
        | cons char rest => simp [accepts, inductionHypothesis, and_assoc]

/-- Two patterns one after the other match what is put together from texts that they match. -/
theorem matches_append : Matches (first ++ second) text ↔
    ∃ front rest, text = front ++ rest ∧ Matches first front ∧ Matches second rest := by
  constructor
  · intro whole
    induction first generalizing text with
    | nil => exact ⟨[], text, rfl, .nil, whole⟩
    | cons item first inductionHypothesis =>
        rcases whole with _ | ⟨other, admitted, later⟩ | ⟨taken, later⟩
        · obtain ⟨front, rest, rfl, begun, ended⟩ := inductionHypothesis later
          exact ⟨_ :: front, rest, rfl, .single other admitted begun, ended⟩
        · obtain ⟨front, rest, rfl, begun, ended⟩ := inductionHypothesis later
          exact ⟨taken ++ front, rest, (List.append_assoc _ _ _).symm, .many taken begun, ended⟩
  · rintro ⟨front, rest, rfl, begun, ended⟩
    induction begun with
    | nil => exact ended
    | single other admitted _ inductionHypothesis =>
        exact .single other admitted inductionHypothesis
    | many taken _ inductionHypothesis =>
        rw [List.append_assoc]
        exact .many taken inductionHypothesis

/-! ## Trimming -/

/-- The cuts of a text in two, in the order of their fronts, or in the other order. -/
def cuts (backward : Bool) (text : Text) : List (Text × Text) :=
  let forward := (List.range (text.length + 1)).map text.splitAt
  if backward then forward.reverse else forward

/-- The cuts of a text are its divisions, in either order. -/
theorem mem_cuts {backward : Bool} {cut : Text × Text} :
    cut ∈ cuts backward text ↔ cut.1 ++ cut.2 = text := by
  have forward : cut ∈ (List.range (text.length + 1)).map text.splitAt ↔ cut.1 ++ cut.2 = text := by
    simp only [List.mem_map, List.mem_range, List.splitAt_eq]
    constructor
    · rintro ⟨place, -, rfl⟩
      exact List.take_append_drop place text
    · rintro rfl
      exact ⟨cut.1.length, by rw [List.length_append]; omega, by simp⟩
  cases backward with
  | false => exact forward
  | true => exact List.mem_reverse.trans forward

/-- Cuts are tried from short fronts to long ones, or the other way. -/
theorem pairwise_cuts (backward : Bool) : (cuts backward text).Pairwise fun earlier later =>
    if backward then later.1.length < earlier.1.length
    else earlier.1.length < later.1.length := by
  have forward : ((List.range (text.length + 1)).map text.splitAt).Pairwise
      fun earlier later => earlier.1.length < later.1.length := by
    refine List.pairwise_map.mpr (List.pairwise_lt_range.imp_of_mem ?_)
    intro one other _ bound less
    have short := List.mem_range.mp bound
    simp only [List.splitAt_eq, List.length_take]
    omega
  cases backward with
  | false => simpa [cuts] using forward
  | true => simpa [cuts, List.pairwise_reverse] using forward

/-- The first of a row comes before all others. -/
theorem first_of_find? {α : Type} {before : α → α → Prop} {row : List α} {chosen : α → Bool}
    {found : α} (ordered : row.Pairwise before) (first : row.find? chosen = some found)
    {other : α} (listed : other ∈ row) (also : chosen other = true) :
    other = found ∨ before found other := by
  obtain ⟨-, front, back, rfl, none⟩ := List.find?_eq_some_iff_append.mp first
  rcases List.mem_append.mp listed with early | late
  · have refused := none other early
    rw [also] at refused
    cases refused
  · rcases List.mem_cons.mp late with same | behind
    · exact .inl same
    · have tail := (List.pairwise_append.mp ordered).2.1
      exact .inr (List.rel_of_pairwise_cons tail behind)

/-- The front that a text loses is the shortest or the longest that the pattern matches; without
one, the text stays. -/
theorem trimStart_cases (glob : Glob) (longest : Bool) (text : Text) :
    (∃ front, front ++ trimStart glob longest text = text ∧ Matches glob front ∧
        ∀ other, other <+: text → Matches glob other →
          if longest then other.length ≤ front.length else front.length ≤ other.length) ∨
      (∀ front, front <+: text → ¬ Matches glob front) ∧ trimStart glob longest text = text := by
  unfold trimStart
  dsimp only
  split
  case h_1 front rest found =>
    have search : (cuts longest text).find? (fun cut => accepts glob cut.1) = some (front, rest) :=
      found
    have matched : accepts glob front = true := by simpa using List.find?_some search
    refine .inl ⟨front, mem_cuts.mp (List.mem_of_find?_eq_some search), accepts_iff.mp matched, ?_⟩
    rintro other ⟨behind, same⟩ also
    have tried : (other, behind) ∈ cuts longest text := mem_cuts.mpr same
    rcases first_of_find? (pairwise_cuts longest) search tried (accepts_iff.mpr also) with
      same | less
    · obtain rfl := congrArg Prod.fst same
      cases longest <;> exact Nat.le_refl _
    · cases longest <;> exact Nat.le_of_lt less
  case h_2 none =>
    have search : (cuts longest text).find? (fun cut => accepts glob cut.1) = .none := none
    refine .inr ⟨?_, rfl⟩
    rintro front ⟨rest, whole⟩ matched
    have refused := List.find?_eq_none.mp search (front, rest) (mem_cuts.mpr whole)
    exact refused (accepts_iff.mpr matched)

/-- The end that a text loses is the shortest or the longest that the pattern matches; without
one, the text stays. -/
theorem trimEnd_cases (glob : Glob) (longest : Bool) (text : Text) :
    (∃ rest, trimEnd glob longest text ++ rest = text ∧ Matches glob rest ∧
        ∀ other, other <:+ text → Matches glob other →
          if longest then other.length ≤ rest.length else rest.length ≤ other.length) ∨
      (∀ rest, rest <:+ text → ¬ Matches glob rest) ∧ trimEnd glob longest text = text := by
  unfold trimEnd
  dsimp only
  have order : (if longest = true then (List.range (text.length + 1)).map text.splitAt
      else ((List.range (text.length + 1)).map text.splitAt).reverse) = cuts (!longest) text := by
    cases longest <;> rfl
  rw [order]
  split
  case h_1 front rest found =>
    have search : (cuts (!longest) text).find? (fun cut => accepts glob cut.2) =
        some (front, rest) := found
    have whole := mem_cuts.mp (List.mem_of_find?_eq_some search)
    have matched : accepts glob rest = true := by simpa using List.find?_some search
    refine .inl ⟨rest, whole, accepts_iff.mp matched, ?_⟩
    rintro other ⟨before, same⟩ also
    have lengths : front.length + rest.length = before.length + other.length := by
      rw [← List.length_append, ← List.length_append, whole, same]
    have tried : (before, other) ∈ cuts (!longest) text := mem_cuts.mpr same
    rcases first_of_find? (pairwise_cuts (!longest)) search tried (accepts_iff.mpr also) with
      same | less
    · obtain rfl := congrArg Prod.snd same
      cases longest <;> exact Nat.le_refl _
    · cases longest <;> simp at less ⊢ <;> omega
  case h_2 none =>
    have search : (cuts (!longest) text).find? (fun cut => accepts glob cut.2) = .none := none
    refine .inr ⟨?_, rfl⟩
    rintro rest ⟨front, whole⟩ matched
    have refused := List.find?_eq_none.mp search (front, rest) (mem_cuts.mpr whole)
    exact refused (accepts_iff.mpr matched)

end Glob

/-! ## Quoted text -/

/-- The glyphs of quoted text. -/
def quotedGlyphs (text : Text) : List Glyph :=
  text.map fun char => ⟨char, false⟩

/-- Quoted characters are the characters of the text. -/
@[simp] theorem map_char_quotedGlyphs (text : Text) :
    (quotedGlyphs text).map Glyph.char = text := by
  simp [quotedGlyphs, Function.comp_def]

namespace Glob

/-- No sign of a pattern is among quoted glyphs. -/
theorem hasSigns_quotedGlyphs (text : Text) : hasSigns (quotedGlyphs text) = false := by
  simp [hasSigns, quotedGlyphs]

/-- Quoted characters are a pattern of these characters. -/
theorem ofGlyphsFrom_quotedGlyphs {fuel : Nat} {text : Text} (enough : text.length < fuel) :
    ofGlyphsFrom fuel (quotedGlyphs text) = text.map .char := by
  induction text generalizing fuel with
  | nil => cases fuel <;> rfl
  | cons char text inductionHypothesis =>
      obtain _ | fuel := fuel
      · cases enough
      · have later := inductionHypothesis (Nat.lt_of_succ_lt_succ enough)
        simp only [quotedGlyphs, List.map_cons] at later ⊢
        simp [ofGlyphsFrom, later]

/-- Quoted text matches itself alone. -/
theorem accepts_quotedGlyphs {text other : Text} :
    (ofGlyphs (quotedGlyphs text)).accepts other = true ↔ other = text := by
  rw [accepts_iff, ofGlyphs, ofGlyphsFrom_quotedGlyphs (by simp [quotedGlyphs])]
  induction text generalizing other with
  | nil => exact matches_nil
  | cons char text inductionHypothesis =>
      have literal : GlobItem.char char ≠ .many := GlobItem.noConfusion
      rw [List.map_cons, matches_single literal]
      simp [GlobItem.admits, inductionHypothesis, eq_comm]

end Glob

/-- A quoted field stands for itself, whatever is on the disk. -/
theorem pathsOrSelf_quoted (disk : Disk) (directory : Path) (text : Text) :
    pathsOrSelf disk directory (quotedGlyphs text) = [text] := by
  simp [pathsOrSelf, Glob.hasSigns_quotedGlyphs]

end Issuebook.Shell
