import Issuebook.Proofs.Template.Reading

/-!
# Recovered issues

What the unedited document of a tidy issue gives back through a preset. An empty field alone on
its line may strand the slot behind it: `recovers_iff` tells for every preset with which fields
empty all the others come back.
-/

/-!
## The relations at the end of the detailed preset

The dependencies, the blocked issues and the children stand alone on their lines, each behind a
heading. `reads_relations` and `misses_relations` tell with which of them empty the others are
read back.
-/

namespace Issuebook.Issue

open Template Extraction Slot

variable {issue : Issue} {blocks children front after : Text}

/-- The heading of the blocked issues. -/
def blocksLine : Text := "**Blocks:**"

/-- The heading of the children. -/
def childrenLine : Text := "**Children:**"

/-- What is left of a detailed document when there are no dependencies. -/
def relationsRest (blocks children : Text) : Text :=
  blocksLine ++ '\n' :: (blocks ++ '\n' :: '\n' ::
    (childrenLine ++ '\n' :: (children ++ ['\n'])))

/-- Without dependencies, the heading of the blocked issues is missed unless one of the fields
behind it reads the same. -/
theorem cut_blocksLine (blocksTidy : IsTrimmedLine blocks) (childrenTidy : IsTrimmedLine children)
    (found : Anchor.cutAt? [.newline, .word blocksLine, .newline]
      (relationsRest blocks children) = some (front, after)) :
    blocks = blocksLine ∧ after = childrenLine ++ '\n' :: (children ++ ['\n']) ∨
      children = blocksLine ∧ after = [] := by
  have inLine : '\n' ∉ blocksLine := by decide
  have missed (rest : Text) :
      Anchor.drop? [.word blocksLine, .newline] (childrenLine ++ rest) = none :=
    Anchor.drop?_of_refuses (by decide +kernel) rest
  have kept (rest : Text) : (childrenLine ++ rest).dropWhile Text.isBlank = childrenLine ++ rest :=
    List.dropWhile_cons_of_neg (by decide)
  obtain ⟨back, held, dropped⟩ := Anchor.exists_of_cutAt?_newline found
  rw [relationsRest, Anchor.feeds_line inLine, Anchor.feeds_line blocksTidy.2, Anchor.feeds,
    if_pos rfl, Anchor.feeds_line (by decide), Anchor.feeds_line childrenTidy.2, Anchor.feeds]
    at held
  simp only [List.mem_cons, List.not_mem_nil, or_false] at held
  rcases held with rfl | rfl | rfl | rfl | rfl
  · rcases Anchor.drop?_word_line blocksTidy.1 blocksTidy.2 inLine dropped with ⟨same, rest⟩ | later
    · rw [List.dropWhile_cons_of_pos (by decide), kept] at rest
      exact .inl ⟨same, rest⟩
    · rw [List.dropWhile_cons_of_pos (by decide), kept, missed] at later
      cases later.2
  · rw [List.dropWhile_cons_of_pos (by decide), kept, missed] at dropped
    cases dropped
  · rw [kept, missed] at dropped
    cases dropped
  · rcases Anchor.drop?_word_line childrenTidy.1 childrenTidy.2 inLine dropped with here | later
    · exact .inr here
    · cases later.2
  · cases dropped

/-- The literal that shows a heading on its own line. -/
def headingLiteral (heading : Text) : Text :=
  '\n' :: '\n' :: (heading ++ ['\n'])

/-- The slot of the dependencies. -/
def dependsOnSlot : Slot := Layout.slot "dependsOn" (headingLiteral blocksLine)

/-- The slot of the blocked issues. -/
def blocksSlot : Slot := Layout.slot "blocks" (headingLiteral childrenLine)

/-- The slot of the children. -/
def childrenSlot : Slot := Layout.slot "children" ['\n']

/-- The slots at the end of the detailed preset. -/
def relations : List Slot := [dependsOnSlot, blocksSlot, childrenSlot]

/-- The segments behind the heading of the blocked issues. -/
def relationsEnd : List Segment :=
  [.slot (issuePath "blocks"), .literal (headingLiteral childrenLine),
    .slot (issuePath "children")]

/-- The literal in front of the dependencies at the end of the detailed preset. -/
def relationsLiteral : Text := headingLiteral "## Related Issues\n\n**Depends on:**"

/-- The lines of the relations. -/
theorem lines_relations : (∀ slot ∈ relations, IsFieldSlot slot ∧ slot.IsSafe ∧
      fieldName slot.path ≠ "description") ∧
    relations.map (fun slot => fieldName slot.path) =
      (["dependsOn", "blocks", "children"] : List Text) ∧
    (alone relationsLiteral (relations.take 1)).map (fun slot => fieldName slot.path) =
      (["dependsOn"] : List Text) ∧
    (alone (headingLiteral blocksLine) ((relations.drop 1).take 1)).map
      (fun slot => fieldName slot.path) = (["blocks"] : List Text) ∧
    resumes (blocksLine ++ ['\n']) blocksSlot ∧
    ∀ heading ∈ [blocksLine, childrenLine], Anchor.ofLiteral (headingLiteral heading) =
      [.newline, .word heading, .newline] := by
  unfold relations dependsOnSlot blocksSlot childrenSlot relationsLiteral blocksLine childrenLine
    Layout.slot
  repeat rw [String.toList_ofList]
  decide +kernel

/-- The literal in front of a blank slot takes the line feeds behind the slot. -/
theorem behind_lines {before value rest : Text} (feed : '\n' ∈ Anchor.blankEnd before)
    (blank : Text.isAllBlank value) (solid : rest.head?.any Text.isBlank = false) :
    Anchor.behind before (value ++ '\n' :: '\n' :: rest) = rest := by
  rw [Anchor.behind, if_neg (List.ne_nil_of_mem feed), if_pos feed,
    Anchor.dropWhile_append_of_forall (List.all_eq_true.mp blank),
    List.dropWhile_cons_of_pos (by decide), List.dropWhile_cons_of_pos (by decide)]
  cases rest with
  | nil => rfl
  | cons first rest => exact List.dropWhile_cons_of_neg (by simpa using solid)

/-- The slots of relations are filled by what depends on what. -/
theorem filled_relations (issue : Issue) : issue.filled relations =
    [(dependsOnSlot, issue.shown "dependsOn"), (blocksSlot, issue.shown "blocks"),
      (childrenSlot, issue.shown "children")] := by
  simp only [filled, relations, dependsOnSlot, blocksSlot, childrenSlot, Layout.slot,
    List.map_cons, List.map_nil, fieldName_issuePath]

/-- White space with a line feed ends the literal of a heading. -/
theorem blankEnd_headingLiteral (heading : Text) :
    '\n' ∈ Anchor.blankEnd (headingLiteral heading) := by
  have shape : headingLiteral heading = '\n' :: '\n' :: heading ++ ['\n'] := rfl
  rw [shape, Anchor.blankEnd_append_of_blank _ (by decide)]
  simp

/-- What is read of the relations when the slot of the dependencies is blank. -/
theorem reading_relations {value : Text} (blank : Text.isAllBlank value)
    (blocks children : Text) :
    reading relationsLiteral
        [(dependsOnSlot, value), (blocksSlot, blocks), (childrenSlot, children)] =
      captures true (relationsRest blocks children)
        (.slot (issuePath "dependsOn") :: .literal (headingLiteral blocksLine)
          :: relationsEnd) := by
  have text : Slot.document
      [(dependsOnSlot, value), (blocksSlot, blocks), (childrenSlot, children)] =
        value ++ '\n' :: '\n' :: relationsRest blocks children := by
    simp [Slot.document, Filled.text, headingLiteral, relationsRest, dependsOnSlot, blocksSlot,
      childrenSlot, Layout.slot]
  have behind : Anchor.behind relationsLiteral
      (value ++ '\n' :: '\n' :: relationsRest blocks children) = _ :=
    behind_lines (blankEnd_headingLiteral _) blank rfl
  rw [reading, text, behind]
  rfl

/-- What is read of the others when the slot of the blocked issues is blank. -/
theorem reading_blocks {value : Text} (blank : Text.isAllBlank value) (children : Text) :
    reading (headingLiteral blocksLine) [(blocksSlot, value), (childrenSlot, children)] =
      captures true (childrenLine ++ '\n' :: (children ++ ['\n'])) relationsEnd := by
  have text : Slot.document [(blocksSlot, value), (childrenSlot, children)] =
      value ++ '\n' :: '\n' :: (childrenLine ++ '\n' :: (children ++ ['\n'])) := by
    simp [Slot.document, Filled.text, headingLiteral, blocksSlot, childrenSlot, Layout.slot]
  have behind : Anchor.behind (headingLiteral blocksLine)
      (value ++ '\n' :: '\n' :: (childrenLine ++ '\n' :: (children ++ ['\n']))) = _ :=
    behind_lines (blankEnd_headingLiteral _) blank rfl
  rw [reading, text, behind]
  rfl

/-- The anchor of a heading begins and ends a line. -/
theorem ofLiteral_headingLiteral : ∀ heading ∈ [blocksLine, childrenLine],
    Anchor.ofLiteral (headingLiteral heading) = [.newline, .word heading, .newline] :=
  lines_relations.2.2.2.2.2

/-- Behind the heading of the children alone, the children are never found. -/
theorem captures_relationsEnd (childrenTidy : IsTrimmedLine children) :
    ⟨issuePath "children", none⟩ ∈
        captures true (childrenLine ++ '\n' :: (children ++ ['\n'])) relationsEnd ∧
      (children ≠ childrenLine → ⟨issuePath "blocks", none⟩ ∈
        captures true (childrenLine ++ '\n' :: (children ++ ['\n'])) relationsEnd) := by
  have pieces := ofLiteral_headingLiteral childrenLine (by simp)
  rw [relationsEnd, captures, pieces]
  cases found : Anchor.cutAt? [.newline, .word childrenLine, .newline]
      (childrenLine ++ '\n' :: (children ++ ['\n'])) with
  | none => exact ⟨by simp [captures, textAt], fun _ => List.mem_cons_self⟩
  | some cut =>
      obtain ⟨same, rest⟩ := Anchor.cut_last_line childrenTidy.1 childrenTidy.2
        (by decide) (by decide) found
      refine ⟨?_, fun other => absurd same other⟩
      simp [captures, rest, textAt]

/-- The dependencies are missed unless a field behind them reads like the heading. -/
theorem captures_relations (blocksTidy : IsTrimmedLine blocks)
    (childrenTidy : IsTrimmedLine children) (otherBlocks : blocks ≠ blocksLine)
    (otherChildren : children ≠ blocksLine) :
    captures true (relationsRest blocks children)
        (.slot (issuePath "dependsOn") :: .literal (headingLiteral blocksLine) :: relationsEnd) =
      ⟨issuePath "dependsOn", none⟩ ::
        captures false (relationsRest blocks children) relationsEnd := by
  rw [captures, ofLiteral_headingLiteral blocksLine (by simp)]
  cases found : Anchor.cutAt? [.newline, .word blocksLine, .newline]
      (relationsRest blocks children) with
  | none => rfl
  | some cut =>
      rcases cut_blocksLine blocksTidy childrenTidy found with ⟨same, -⟩ | ⟨same, -⟩
      · exact absurd same otherBlocks
      · exact absurd same otherChildren

/-- The slots of relations are slots of fields. -/
theorem isFieldSlot_relations : ∀ slot ∈ relations, IsFieldSlot slot :=
  fun slot held => (lines_relations.1 slot held).1

/-- They are safe for all values. -/
theorem isSafe_relations : ∀ slot ∈ relations, slot.IsSafe :=
  fun slot held => (lines_relations.1 slot held).2.1

/-- The fields of the relations are trimmed lines. -/
theorem isTrimmedLine_relations (valid : issue.IsValid) (tidy : issue.IsTidy) :
    IsTrimmedLine (issue.shown "blocks") ∧ IsTrimmedLine (issue.shown "children") := by
  have lines : ∀ name ∈ relations.map (fun slot => fieldName slot.path),
      IsTrimmedLine (issue.shown name) := by
    intro name listed
    obtain ⟨slot, held, rfl⟩ := List.mem_map.mp listed
    obtain ⟨field, -, other⟩ := lines_relations.1 slot held
    exact isTrimmedLine_shown valid tidy _ field.field.known other
  rw [lines_relations.2.1] at lines
  exact ⟨lines _ (.tail _ (.head _)), lines _ (.tail _ (.tail _ (.head _)))⟩

/-- With dependencies, what is behind them is read on its own. -/
theorem reading_dependsOn (valid : issue.IsValid) (tidy : issue.IsTidy)
    (depends : issue.shown "dependsOn" ≠ []) :
    reading relationsLiteral (issue.filled relations) =
      (issue.filled (relations.take 1)).map Filled.capture ++
        reading (headingLiteral blocksLine) (issue.filled (relations.drop 1)) := by
  obtain ⟨-, -, lone, -⟩ := lines_relations
  have readable : AreReadable relationsLiteral (issue.filled (relations.take 1)) :=
    areReadable_filled valid tidy
      (fun slot held => isFieldSlot_relations slot (List.mem_of_mem_take held))
      (fun slot held => isSafe_relations slot (List.mem_of_mem_take held))
      (forall_field (fun name => issue.shown name ≠ []) lone
        (List.forall_mem_singleton.mpr depends))
  have present : issue.filled (relations.drop 1) ≠ [] := List.cons_ne_nil _ _
  have read := reading_append readable present
  rwa [← filled_append, List.take_append_drop, map_fst_filled] at read

/-- With neither dependencies nor blocked issues, the heading of the children is found again. -/
theorem reads_childrenAlone (valid : issue.IsValid) (tidy : issue.IsTidy)
    (unblocking : issue.shown "blocks" = []) :
    issue.Reads (captures false (relationsRest [] (issue.shown "children")) relationsEnd) := by
  obtain ⟨-, -, -, -, resumed, -⟩ := lines_relations
  let last : Filled := (childrenSlot, issue.shown "children")
  have plain : Anchor.IsPlain (headingLiteral childrenLine) :=
    (isFieldSlot_relations _ (List.mem_cons_of_mem _ List.mem_cons_self)).plain
  have captured : captures false (blocksLine ++ ['\n'] ++ Slot.document
      [(blocksSlot, []), last]) relationsEnd =
        ⟨issuePath "blocks", none⟩ :: reading (headingLiteral childrenLine) [last] :=
    captures_of_resumes resumed plain (List.cons_ne_nil _ _)
  have text : blocksLine ++ ['\n'] ++ Slot.document
      [(blocksSlot, []), last] =
        relationsRest [] (issue.shown "children") := by
    simp [Slot.document, Filled.text, headingLiteral, relationsRest, blocksSlot, childrenSlot,
      Layout.slot, last]
  have read : issue.Reads ((issue.filled (relations.drop 2)).map Filled.capture) :=
    reads_filled valid tidy fun slot held =>
      isFieldSlot_relations slot (List.mem_of_mem_drop held)
  have row : issue.filled (relations.drop 2) = [last] := by
    have drop : issue.filled (relations.drop 2) = (issue.filled relations).drop 2 := List.map_drop
    rw [drop, filled_relations]
    rfl
  rw [row] at read
  rw [← text, captured, reading_single _ last (.inl rfl)]
  exact reads_cons_of_empty (by rwa [fieldName_issuePath]) read

/-- The relations are read, but for the cases in which an empty one strands another. -/
theorem reads_relations (valid : issue.IsValid) (tidy : issue.IsTidy)
    (first : issue.shown "blocks" ≠ [] → issue.shown "dependsOn" ≠ [])
    (second : issue.shown "dependsOn" ≠ [] → issue.shown "children" ≠ [] →
      issue.shown "blocks" ≠ [])
    (other : issue.shown "children" = blocksLine → issue.shown "dependsOn" ≠ []) :
    issue.Reads (reading relationsLiteral (issue.filled relations)) := by
  by_cases independent : issue.shown "dependsOn" = []
  · have unblocking : issue.shown "blocks" = [] := not_not.mp (mt first (not_not_intro independent))
    by_cases childless : issue.shown "children" = []
    · obtain ⟨-, names, -⟩ := lines_relations
      refine reads_of_empty (forall_field (fun name => issue.shown name = []) names ?_)
      simp only [List.forall_mem_cons]
      exact ⟨independent, unblocking, childless, by simp⟩
    · obtain ⟨blocksTidy, childrenTidy⟩ := isTrimmedLine_relations valid tidy
      have otherBlocks : issue.shown "blocks" ≠ blocksLine := by
        rw [unblocking]
        exact List.cons_ne_nil _ _ ∘ Eq.symm
      have otherChildren : issue.shown "children" ≠ blocksLine :=
        fun same => other same independent
      rw [filled_relations, independent, reading_relations rfl,
        captures_relations blocksTidy childrenTidy otherBlocks otherChildren, unblocking]
      exact reads_cons_of_empty independent (reads_childrenAlone valid tidy unblocking)
  · have fields := isFieldSlot_relations
    rw [reading_dependsOn valid tidy independent]
    refine reads_append.mpr ⟨reads_filled valid tidy fun slot held =>
      fields slot (List.mem_of_mem_take held), ?_⟩
    -- Behind the first list, the two later slots are empty together or read one after the other.
    by_cases unblocking : issue.shown "blocks" = []
    · have childless := not_not.mp (mt (second independent) (not_not_intro unblocking))
      have names : (relations.drop 1).map (fun slot => fieldName slot.path) =
          (["blocks", "children"] : List Text) := by
        rw [List.map_drop, lines_relations.2.1]
        rfl
      refine reads_of_empty (forall_field (fun name => issue.shown name = []) names ?_)
      simp only [List.forall_mem_cons]
      exact ⟨unblocking, childless, by simp⟩
    · obtain ⟨-, -, -, lone, -⟩ := lines_relations
      have shows := forall_field (fun name => issue.shown name ≠ []) lone
        (List.forall_mem_singleton.mpr unblocking)
      have safe : ∀ slot ∈ (relations.drop 1).take 1, slot.IsSafe := fun slot held =>
        isSafe_relations slot (List.mem_of_mem_drop (List.mem_of_mem_take held))
      have split : relations.drop 1 =
          (relations.drop 1).take 1 ++ [childrenSlot] := rfl
      have later : ∀ slot ∈ relations.drop 1, IsFieldSlot slot :=
        fun slot held => fields slot (List.mem_of_mem_drop held)
      rw [split] at later ⊢
      exact reads_reading valid tidy later safe shows (.inl rfl)

/-- In the other cases a relation is lost. -/
theorem misses_relations (valid : issue.IsValid) (tidy : issue.IsTidy)
    (lost : ¬ ((issue.shown "blocks" ≠ [] → issue.shown "dependsOn" ≠ []) ∧
      (issue.shown "dependsOn" ≠ [] → issue.shown "children" ≠ [] → issue.shown "blocks" ≠ []) ∧
      (issue.shown "children" = blocksLine → issue.shown "dependsOn" ≠ []))) :
    issue.Misses (reading relationsLiteral (issue.filled relations)) := by
  obtain ⟨blocksTidy, childrenTidy⟩ := isTrimmedLine_relations valid tidy
  obtain ⟨noChildren, noBlocks⟩ := captures_relationsEnd childrenTidy
  by_cases independent : issue.shown "dependsOn" = []
  · rw [filled_relations, independent, reading_relations rfl]
    by_cases unblocking : issue.shown "blocks" = []
    -- With neither list before it, only the heading's own words in the last slot are misread.
    · have same : issue.shown "children" = blocksLine := by
        by_contra other
        exact lost ⟨fun shows => absurd unblocking shows, fun shows => absurd independent shows,
          fun same => absurd same other⟩
      have read : ⟨issuePath "children", none⟩ ∈ captures true (relationsRest [] blocksLine)
          (.slot (issuePath "dependsOn") :: .literal (headingLiteral blocksLine)
            :: relationsEnd) := by
        decide +kernel
      rw [unblocking, same]
      exact misses_of_mem read (same ▸ by decide)
    · have pieces := ofLiteral_headingLiteral blocksLine (by simp)
      rw [captures, pieces]
      cases found : Anchor.cutAt? [.newline, .word blocksLine, .newline]
          (relationsRest (issue.shown "blocks") (issue.shown "children")) with
      | none =>
          refine misses_cons _ (misses_of_mem ?_ unblocking)
          rw [relationsEnd]
          obtain ⟨more, unknown⟩ := captures_unknown
            (relationsRest (issue.shown "blocks") (issue.shown "children")) (issuePath "blocks")
            [.literal (headingLiteral childrenLine), .slot (issuePath "children")]
          rw [unknown]
          exact List.mem_cons_self
      | some cut =>
          refine misses_cons _ ?_
          -- The heading was cut where it stands, or from the last slot, behind which nothing is
          -- left.
          rcases cut_blocksLine blocksTidy childrenTidy found with ⟨-, rest⟩ | ⟨-, rest⟩
          · by_cases childless : issue.shown "children" = []
            · have other : issue.shown "children" ≠ childrenLine := by
                rw [childless]
                exact List.cons_ne_nil _ _ ∘ Eq.symm
              exact misses_of_mem (rest ▸ noBlocks other) unblocking
            · exact misses_of_mem (rest ▸ noChildren) childless
          · have read : ⟨issuePath "blocks", none⟩ ∈ captures true [] relationsEnd := by
              decide +kernel
            exact misses_of_mem (rest ▸ read) unblocking
  · rw [reading_dependsOn valid tidy independent]
    obtain ⟨unblocking, shows⟩ : issue.shown "blocks" = [] ∧ issue.shown "children" ≠ [] := by
      by_contra other
      refine lost ⟨fun _ => independent, fun _ shows empty => other ⟨empty, shows⟩,
        fun _ => independent⟩
    have row : issue.filled (relations.drop 1) =
        [(blocksSlot, issue.shown "blocks"), (childrenSlot, issue.shown "children")] := by
      have drop : issue.filled (relations.drop 1) = (issue.filled relations).drop 1 := List.map_drop
      rw [drop, filled_relations]
      rfl
    rw [row, unblocking, reading_blocks rfl]
    exact Misses.append_left (misses_of_mem noChildren shows) _

end Issuebook.Issue

namespace Issuebook

open Template Extraction Slot

namespace Issue

variable {issue : Issue} {name : Text} {layout : Layout} {slot next : Slot} {back : List Slot}

/-- Whether every field that an issue shows through a preset comes back: no empty field strands
the slot of another one. -/
def FitsPreset (issue : Issue) (preset : Text) : Prop :=
  if preset = "detailed" then
    issue.shown "description" ≠ [] ∧
    (issue.shown "blocks" ≠ [] → issue.shown "dependsOn" ≠ []) ∧
    (issue.shown "dependsOn" ≠ [] → issue.shown "children" ≠ [] → issue.shown "blocks" ≠ []) ∧
    (issue.shown "children" = "**Blocks:**" → issue.shown "dependsOn" ≠ [])
  else if preset = "github" then
    issue.shown "description" = [] ↔ issue.shown "labels" = []
  else if preset = "linear" then issue.shown "description" ≠ []
  else True

/-- So are all slots of a preset in front of another slot. -/
theorem isSafe_of_split {front : List Slot} (known : (name, layout) ∈ Layout.table)
    (split : layout.slots = front ++ slot :: back) : ∀ slot ∈ front, slot.IsSafe := by
  intro other held
  refine Layout.isSafe_of_mem _ known other ?_
  rw [split, List.dropLast_append_of_ne_nil (List.cons_ne_nil _ _)]
  exact List.mem_append_left _ held

/-- A layout is read back when no slot in front of the last that shows nothing stands alone. -/
theorem reads_document (valid : issue.IsValid) (tidy : issue.IsTidy)
    (known : (name, layout) ∈ Layout.table) (count : Nat) (names : List Text)
    (split : layout.slots = layout.slots.take count ++ [slot])
    (lone : (alone layout.first (layout.slots.take count)).map
      (fun slot => fieldName slot.path) = names)
    (shows : ∀ name ∈ names, issue.shown name ≠ [])
    (ends : Text.isAllBlank slot.next ∨
      slot.IsSafe ∧ '\n' ∉ Anchor.blankEnd (lastNext layout.first (layout.slots.take count))) :
    issue.Reads (reading layout.first (issue.filled layout.slots)) := by
  have fields := (isFieldSlot_of_mem _ known).2
  have safe := isSafe_of_split known split
  dsimp only at fields
  rw [split] at fields ⊢
  exact reads_reading valid tidy fields safe
    (forall_field (fun name => issue.shown name ≠ []) lone shows) ends

/-- A layout is not read back when an empty slot strands one that shows something. -/
theorem misses_document (valid : issue.IsValid) (tidy : issue.IsTidy)
    (known : (name, layout) ∈ Layout.table) (count : Nat) (names : List Text)
    (split : layout.slots = layout.slots.take count ++ slot :: next :: back)
    (lone : (alone layout.first (layout.slots.take count)).map
      (fun slot => fieldName slot.path) = names)
    (shows : ∀ name ∈ names, issue.shown name ≠ [])
    (strands : strands (lastNext layout.first (layout.slots.take count)) slot (next :: back))
    (lines : ∀ slot ∈ next :: back, fieldName slot.path ≠ "description")
    (empty : issue.shown (fieldName slot.path) = [])
    (present : issue.shown (fieldName next.path) ≠ []) :
    issue.Misses (reading layout.first (issue.filled layout.slots)) := by
  have fields := (isFieldSlot_of_mem _ known).2
  have safe := isSafe_of_split known split
  dsimp only at fields
  rw [split] at fields ⊢
  exact misses_reading valid tidy fields safe
    (forall_field (fun name => issue.shown name ≠ []) lone shows) strands lines empty present

/-- A status is never shown as nothing. -/
theorem shown_status (issue : Issue) : issue.shown "status" ≠ [] := by
  change issue.status.name ≠ []
  cases issue.status <;> decide

/-- Neither is the identifier of a valid issue. -/
theorem shown_id (valid : issue.IsValid) : issue.shown "id" ≠ [] :=
  valid.id.2

/-! ## Presets with the description alone on its line -/

/-- The minimal preset reads back every valid and tidy issue. -/
theorem reads_minimal (valid : issue.IsValid) (tidy : issue.IsTidy)
    (known : (name, Layout.minimal) ∈ Layout.table) :
    issue.Reads (reading Layout.minimal.first (issue.filled Layout.minimal.slots)) :=
  reads_document valid tidy known 1 [] rfl (by decide) (by simp) (.inl rfl)

/-- The lines of the preset with details behind the description. -/
theorem lines_linear :
    (alone Layout.linear.first (Layout.linear.slots.take 1)).map
      (fun slot => fieldName slot.path) = [] ∧
    (alone Layout.linear.first (Layout.linear.slots.take 13)).map
      (fun slot => fieldName slot.path) = (["description"] : List Text) ∧
    strands (lastNext Layout.linear.first (Layout.linear.slots.take 1)) Layout.linear.slots[1]
      (Layout.linear.slots.drop 2) ∧
    ∀ slot ∈ Layout.linear.slots.drop 2, fieldName slot.path ≠ "description" := by
  unfold Layout.linear Layout.slot
  repeat rw [String.toList_ofList]
  decide +kernel

/-- The linear preset reads back an issue that has a description. -/
theorem reads_linear (valid : issue.IsValid) (tidy : issue.IsTidy)
    (known : (name, Layout.linear) ∈ Layout.table) (described : issue.shown "description" ≠ []) :
    issue.Reads (reading Layout.linear.first (issue.filled Layout.linear.slots)) :=
  reads_document valid tidy known 13 ["description"] rfl lines_linear.2.1
    (by simpa using described) (.inl rfl)

/-- Without a description it misses something. -/
theorem misses_linear (valid : issue.IsValid) (tidy : issue.IsTidy)
    (known : (name, Layout.linear) ∈ Layout.table) (plain : issue.shown "description" = []) :
    issue.Misses (reading Layout.linear.first (issue.filled Layout.linear.slots)) :=
  misses_document valid tidy known 1 [] rfl lines_linear.1 (by simp) lines_linear.2.2.1
    lines_linear.2.2.2 plain issue.shown_status

/-! ## The preset with the labels alone on their line -/

/-- The lines of the preset with labels in a section of their own. -/
theorem lines_github :
    (alone Layout.github.first (Layout.github.slots.take 1)).map
      (fun slot => fieldName slot.path) = [] ∧
    (alone Layout.github.first (Layout.github.slots.take 2)).map
      (fun slot => fieldName slot.path) = (["description"] : List Text) ∧
    (alone Layout.github.first (Layout.github.slots.take 8)).map
      (fun slot => fieldName slot.path) = (["description", "labels"] : List Text) ∧
    strands (lastNext Layout.github.first (Layout.github.slots.take 1)) Layout.github.slots[1]
      (Layout.github.slots.drop 2) ∧
    strands (lastNext Layout.github.first (Layout.github.slots.take 2)) Layout.github.slots[2]
      (Layout.github.slots.drop 3) ∧
    ∀ slot ∈ Layout.github.slots.drop 2, fieldName slot.path ≠ "description" := by
  unfold Layout.github Layout.slot
  repeat rw [String.toList_ofList]
  decide +kernel

/-- What is read again behind the labels of that preset. -/
theorem resumes_github :
    resumes (Layout.github.slots[1].next.dropWhile Text.isBlank) Layout.github.slots[2] ∧
    alone Layout.github.slots[2].next ((Layout.github.slots.drop 3).take 5) = [] ∧
    Layout.github.slots[8].IsSafe ∧
    '\n' ∉ Anchor.blankEnd (lastNext Layout.github.first (Layout.github.slots.take 8)) ∧
    '\n' ∉ Anchor.blankEnd (lastNext Layout.github.slots[2].next
      ((Layout.github.slots.drop 3).take 5)) := by
  unfold Layout.github Layout.slot
  repeat rw [String.toList_ofList]
  decide +kernel

/-- The preset with labels reads back an issue that has a description and labels. -/
theorem reads_github (valid : issue.IsValid) (tidy : issue.IsTidy)
    (known : (name, Layout.github) ∈ Layout.table) (described : issue.shown "description" ≠ [])
    (labelled : issue.shown "labels" ≠ []) :
    issue.Reads (reading Layout.github.first (issue.filled Layout.github.slots)) := by
  obtain ⟨-, -, lone, -⟩ := lines_github
  obtain ⟨-, -, safe, inLine, -⟩ := resumes_github
  exact reads_document valid tidy known 8 ["description", "labels"] rfl lone
    (by simpa using And.intro described labelled) (.inr ⟨safe, inLine⟩)

/-- Without a description it misses something. -/
theorem misses_github_description (valid : issue.IsValid) (tidy : issue.IsTidy)
    (known : (name, Layout.github) ∈ Layout.table) (plain : issue.shown "description" = [])
    (labelled : issue.shown "labels" ≠ []) :
    issue.Misses (reading Layout.github.first (issue.filled Layout.github.slots)) := by
  obtain ⟨lone, -, -, strands, -, lines⟩ := lines_github
  exact misses_document valid tidy known 1 [] rfl lone (by simp) strands lines plain labelled

/-- Without labels it misses something, too. -/
theorem misses_github_labels (valid : issue.IsValid) (tidy : issue.IsTidy)
    (known : (name, Layout.github) ∈ Layout.table) (described : issue.shown "description" ≠ [])
    (plain : issue.shown "labels" = []) :
    issue.Misses (reading Layout.github.first (issue.filled Layout.github.slots)) := by
  obtain ⟨-, lone, -, -, strands, lines⟩ := lines_github
  exact misses_document valid tidy known 2 ["description"] rfl lone (by simpa using described)
    strands (fun slot held => lines slot (List.mem_cons_of_mem _ held)) plain issue.shown_status

/-- With neither a description nor labels, the literal behind the labels is found again. -/
theorem reads_github_bare (valid : issue.IsValid) (tidy : issue.IsTidy)
    (known : (name, Layout.github) ∈ Layout.table) (plain : issue.shown "description" = [])
    (unlabelled : issue.shown "labels" = []) :
    issue.Reads (reading Layout.github.first (issue.filled Layout.github.slots)) := by
  have split : Layout.github.slots = Layout.github.slots.take 1 ++ Layout.github.slots[1] ::
      Layout.github.slots[2] :: ((Layout.github.slots.drop 3).take 5 ++ [Layout.github.slots[8]]) :=
    rfl
  obtain ⟨lone, -, -, strands, -, lines⟩ := lines_github
  obtain ⟨resumed, loneBehind, safeLast, -, inLine⟩ := resumes_github
  have noneAlone : alone Layout.github.first (Layout.github.slots.take 1) ++
      alone Layout.github.slots[2].next ((Layout.github.slots.drop 3).take 5) = [] := by
    rw [List.map_eq_nil_iff.mp lone, loneBehind, List.append_nil]
  have safe : ∀ slot ∈ Layout.github.slots.take 1 ++ (Layout.github.slots.drop 3).take 5,
      slot.IsSafe := by
    refine fun slot held => Layout.isSafe_of_mem _ known slot ?_
    rcases List.mem_append.mp held with front | behind
    · exact (List.take_subset 1 Layout.github.slots.dropLast) front
    · exact (List.drop_subset 3 Layout.github.slots.dropLast) behind
  have fields := (isFieldSlot_of_mem _ known).2
  dsimp only at fields
  rw [split] at fields ⊢
  exact reads_resumed valid tidy fields safe (by simp [noneAlone]) strands lines resumed
    (.inr ⟨safeLast, inLine⟩) plain unlabelled

/-! ## The presets -/

/-- The lines of the detailed preset. -/
theorem lines_detailed :
    (alone Layout.detailed.first (Layout.detailed.slots.take 15)).map
      (fun slot => fieldName slot.path) = [] ∧
    (alone Layout.detailed.first (Layout.detailed.slots.take 25)).map
      (fun slot => fieldName slot.path) = (["description"] : List Text) ∧
    strands (lastNext Layout.detailed.first (Layout.detailed.slots.take 15))
      Layout.detailed.slots[15] (Layout.detailed.slots.drop 16) ∧
    lastNext Layout.detailed.first (Layout.detailed.slots.take 25) = relationsLiteral ∧
    Layout.detailed.slots.drop 25 = relations ∧
    ∀ slot ∈ Layout.detailed.slots.drop 16, fieldName slot.path ≠ "description" := by
  unfold Layout.detailed relations dependsOnSlot blocksSlot childrenSlot relationsLiteral
    blocksLine childrenLine Layout.slot
  repeat rw [String.toList_ofList]
  decide +kernel

/-- The detailed preset misses something where there is no description. -/
theorem misses_detailed_description (valid : issue.IsValid) (tidy : issue.IsTidy)
    (known : (name, Layout.detailed) ∈ Layout.table)
    (plain : issue.shown "description" = []) :
    issue.Misses (reading Layout.detailed.first (issue.filled Layout.detailed.slots)) := by
  obtain ⟨lone, -, strands, -, -, lines⟩ := lines_detailed
  exact misses_document valid tidy known 15 [] rfl lone (by simp) strands lines plain
    (shown_id valid)

/-- The detailed preset is read as its relations, once there is a description. -/
theorem reading_detailed (valid : issue.IsValid) (tidy : issue.IsTidy)
    (known : (name, Layout.detailed) ∈ Layout.table)
    (described : issue.shown "description" ≠ []) :
    reading Layout.detailed.first (issue.filled Layout.detailed.slots) =
      (issue.filled (Layout.detailed.slots.take 25)).map Filled.capture ++
        reading relationsLiteral (issue.filled relations) := by
  obtain ⟨-, lone, -, behind, rest, -⟩ := lines_detailed
  have split : Layout.detailed.slots = Layout.detailed.slots.take 25 ++ relations := by
    rw [← rest, List.take_append_drop]
  have fields := (isFieldSlot_of_mem _ known).2
  have readable : AreReadable Layout.detailed.first
      (issue.filled (Layout.detailed.slots.take 25)) :=
    areReadable_filled valid tidy (fun slot held => fields slot (List.mem_of_mem_take held))
      (isSafe_of_split known split)
      (forall_field (fun name => issue.shown name ≠ []) lone
        (List.forall_mem_singleton.mpr described))
  have present : issue.filled relations ≠ [] := List.cons_ne_nil _ _
  rw [split, filled_append, reading_append readable present, map_fst_filled, ← split, behind]

/-- Every preset reads back the issues that fit it. -/
theorem reads_of_fits (valid : issue.IsValid) (tidy : issue.IsTidy)
    (known : (name, layout) ∈ Layout.table) (fits : issue.FitsPreset name) :
    issue.Reads (reading layout.first (issue.filled layout.slots)) := by
  rcases Layout.cases_of_mem known with ⟨rfl, rfl⟩ | ⟨rfl, rfl⟩ | ⟨rfl, rfl⟩ | ⟨rfl, rfl⟩
  · exact reads_minimal valid tidy known
  · obtain ⟨described, first, second, other⟩ := fits
    have fields := (isFieldSlot_of_mem _ known).2
    rw [reading_detailed valid tidy known described]
    exact reads_append.mpr ⟨reads_filled valid tidy fun slot held =>
      fields slot (List.mem_of_mem_take held), reads_relations valid tidy first second other⟩
  · by_cases plain : issue.shown "description" = []
    · exact reads_github_bare valid tidy known plain (fits.mp plain)
    · exact reads_github valid tidy known plain (mt fits.mpr plain)
  · exact reads_linear valid tidy known fits

/-- Of any other issue it misses something. -/
theorem misses_of_not_fits (valid : issue.IsValid) (tidy : issue.IsTidy)
    (known : (name, layout) ∈ Layout.table) (lost : ¬ issue.FitsPreset name) :
    issue.Misses (reading layout.first (issue.filled layout.slots)) := by
  rcases Layout.cases_of_mem known with ⟨rfl, rfl⟩ | ⟨rfl, rfl⟩ | ⟨rfl, rfl⟩ | ⟨rfl, rfl⟩
  · exact absurd trivial lost
  · by_cases plain : issue.shown "description" = []
    · exact misses_detailed_description valid tidy known plain
    · rw [reading_detailed valid tidy known plain]
      exact Misses.append_left (misses_relations valid tidy fun fits => lost ⟨plain, fits⟩) _
  · by_cases plain : issue.shown "description" = []
    · exact misses_github_description valid tidy known plain fun unlabelled =>
        lost ⟨fun _ => unlabelled, fun _ => plain⟩
    · exact misses_github_labels valid tidy known plain (by
        by_contra labelled
        exact lost ⟨fun empty => absurd empty plain, fun empty => absurd empty labelled⟩)
  · exact misses_linear valid tidy known (not_not.mp lost)

end Issue

namespace Template

/-- The slots of a preset read the document of an issue as the row of its layout. -/
theorem captures_preset {name template : Text} {layout : Layout}
    (known : (name, layout) ∈ Layout.table)
    (segments : Segment.ofTemplate (withoutDirectives template) = layout.segments)
    (issue : Issue) :
    captures true (layout.document (issue.filled layout.slots))
      (dropBlankEnd (Segment.ofTemplate (withoutDirectives template))) =
        reading layout.first (issue.filled layout.slots) := by
  rw [segments]
  refine Layout.captures_document (isFieldSlot_of_mem _ known).1 (Issue.map_fst_filled _ _) ?_
  rcases Layout.cases_of_mem known with ⟨-, rfl⟩ | ⟨-, rfl⟩ | ⟨-, rfl⟩ | ⟨-, rfl⟩ <;>
    exact List.cons_ne_nil _ _

/-- The unedited document of a tidy issue gives every field back that it shows, onto any issue,
exactly when no empty field strands the slot of another one. -/
theorem recovers_iff {issue base : Issue} (valid : issue.IsValid) (tidy : issue.IsTidy)
    (validBase : base.IsValid) :
    ∀ entry ∈ Preset.issueTable, ∃ document rebuilt extraction,
      renderIssue entry.2 issue = .ok document ∧
      rebuild entry.2 document base = .ok (rebuilt, extraction) ∧
      (IsRecovered entry.2 issue rebuilt extraction ↔ issue.FitsPreset entry.1) := by
  intro entry preset
  obtain ⟨layout, known, segments⟩ := Layout.exists_mem_table preset
  have shape := captures_preset known segments issue
  obtain ⟨rebuilt, extraction, made, recovered⟩ :=
    exists_recovered preset valid tidy validBase
      (fun fits => shape ▸ Issue.reads_of_fits valid tidy known fits)
      (fun lost => shape ▸ Issue.misses_of_not_fits valid tidy known lost)
  exact ⟨_, rebuilt, extraction, renderIssue_eq_document preset segments issue, made, recovered⟩

/-- A closed issue with a description of two lines and without labels. -/
def closedNote : Issue where
  id := "a-1"
  title := "T"
  description := some "One\nTwo"
  status := .closed
  kind := .task
  priority := .standard
  labels := none
  assignee := none
  createdAt := none
  updatedAt := none
  closedAt := none
  dependsOn := none
  blocks := none
  children := none
  parent := none
  source := none

/-- The same issue as it was before. -/
def openNote : Issue :=
  { closedNote with status := .opened }

/-- A closed issue without a description. -/
def bareNote : Issue :=
  { closedNote with description := none }

/-- The notes are tidy. -/
theorem isTidy_note : closedNote.IsTidy ∧ bareNote.IsTidy := by
  refine ⟨⟨?_, ?_, ?_, ?_⟩, ⟨?_, ?_, ?_, ?_⟩⟩ <;> decide

/-- The notes are valid. -/
theorem isValid_note : closedNote.IsValid ∧ openNote.IsValid ∧ bareNote.IsValid := by
  refine ⟨⟨?_, ?_, ?_, ?_, ?_, ?_, ?_, ?_, ?_, ?_, ?_⟩,
    ⟨?_, ?_, ?_, ?_, ?_, ?_, ?_, ?_, ?_, ?_, ?_⟩,
    ⟨?_, ?_, ?_, ?_, ?_, ?_, ?_, ?_, ?_, ?_, ?_⟩⟩ <;> decide

/-- With a description the preset with details behind it gives the issue back. -/
theorem closedNote_recovered : closedNote.IsValid ∧ closedNote.IsTidy ∧ openNote.IsValid ∧
    ∃ document rebuilt extraction,
      renderIssue Preset.linear closedNote = .ok document ∧
      rebuild Preset.linear document openNote = .ok (rebuilt, extraction) ∧
      IsRecovered Preset.linear closedNote rebuilt extraction := by
  have preset : (("linear" : Text), Preset.linear) ∈ Preset.issueTable :=
    .tail _ (.tail _ (.tail _ (.head _)))
  have fits : closedNote.FitsPreset "linear" := by
    unfold Issue.FitsPreset
    decide +kernel
  obtain ⟨document, rebuilt, extraction, rendered, made, recovered⟩ :=
    recovers_iff isValid_note.1 isTidy_note.1 isValid_note.2.1 _ preset
  exact ⟨isValid_note.1, isTidy_note.1, isValid_note.2.1, document, rebuilt, extraction, rendered,
    made, recovered.mpr fits⟩

/-- Without a description the preset with details behind it loses the status. -/
theorem bareNote_not_recovered : bareNote.IsValid ∧ bareNote.IsTidy ∧
    ∃ document rebuilt extraction,
      renderIssue Preset.linear bareNote = .ok document ∧
      rebuild Preset.linear document openNote = .ok (rebuilt, extraction) ∧
      ¬ IsRecovered Preset.linear bareNote rebuilt extraction := by
  have preset : (("linear" : Text), Preset.linear) ∈ Preset.issueTable :=
    .tail _ (.tail _ (.tail _ (.head _)))
  have known : (("linear" : Text), Layout.linear) ∈ Layout.table :=
    .tail _ (.tail _ (.tail _ (.head _)))
  have shape := captures_preset known Layout.ofTemplate_linear bareNote
  obtain ⟨rebuilt, extraction, made, recovered⟩ :=
    exists_recovered preset isValid_note.2.2 isTidy_note.2 isValid_note.2.1
      (fun impossible : False => impossible.elim)
      (fun _ => shape ▸ Issue.misses_linear isValid_note.2.2 isTidy_note.2 known rfl)
  exact ⟨isValid_note.2.2, isTidy_note.2, _, rebuilt, extraction,
    renderIssue_eq_document preset Layout.ofTemplate_linear bareNote, made, recovered.mp⟩

end Template

end Issuebook
