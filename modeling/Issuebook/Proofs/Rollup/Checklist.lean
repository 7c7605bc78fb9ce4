import Issuebook.Proofs.Issue.Validity
import Issuebook.Proofs.Rollup.Merging
import Issuebook.Proofs.Text.Lines
import Issuebook.Proofs.Text.Order
import Mathlib.Data.List.Perm.Basic

/-!
# What the checklist lists

The lines of a checklist are collected part by part: each part has its items, and what stands
between them are headings and empty lines (`IsPart`). Trimming takes away empty lines only, so the
items of the whole text are those of its parts (`IsPart.lists`). The items are the issues in
progress, then the pending ones kind by kind, each once, and the closed ones as far as they are
shown, all in order: `merge_and_sections_complete`.
-/

namespace Issuebook

/-! ## Sorting -/

section Sorting

variable {α : Type} {le : α → α → Bool}

/-- A list is another one in an order: what stands in order already stays so, also where the order
does not tell two items apart. -/
structure IsStableSort (isBefore : α → α → Prop) (items sorted : List α) : Prop where
  /-- The items are the same. -/
  perm : sorted.Perm items
  /-- They are in order. -/
  ordered : sorted.Pairwise isBefore
  /-- Items that were in order are in the same order. -/
  stable : ∀ kept : List α, kept.Pairwise isBefore → kept.Sublist items → kept.Sublist sorted

/-- The library's sort is stable for every total order. -/
theorem isStableSort_mergeSort
    (trans : ∀ one other third, le one other → le other third → le one third)
    (total : ∀ one other, le one other || le other one) (items : List α) :
    IsStableSort (fun one other => le one other) items (items.mergeSort le) where
  perm := List.mergeSort_perm items le
  ordered := List.pairwise_mergeSort trans total items
  stable _ := List.sublist_mergeSort trans total

end Sorting

namespace Text

/-- Trimming joined lines takes the empty ones away from the end. -/
theorem trimEnd_unlines {lines : List Text} (clean : ∀ line ∈ lines, line ≠ [] → IsClean line) :
    trimEnd (unlines lines) = unlines (lines.rdropWhile List.isEmpty) := by
  induction lines using List.reverseRecOn with
  | nil => rfl
  | append_singleton front last inductionHypothesis =>
      have rest := inductionHypothesis fun line listed => clean line (List.mem_append_left _ listed)
      rw [unlines_concat]
      by_cases empty : last = []
      · rw [empty, List.rdropWhile_concat_pos _ _ _ rfl, ← rest]
        split_ifs with start
        · rw [start]
          rfl
        · exact trimEnd_concat_of_blank (by decide) _
      · have cleanLast := clean last (List.mem_append_right _ (List.mem_singleton_self last)) empty
        rw [List.rdropWhile_concat_neg _ _ _ (by simpa using empty), unlines_concat]
        split_ifs with start
        · exact trimEnd_of_isClean cleanLast
        · rw [← List.singleton_append, ← List.append_assoc,
            trimEnd_append_of_not_isAllBlank _ cleanLast.solid, trimEnd_of_isClean cleanLast]

/-- Trimming joined lines takes the empty ones away from both ends. -/
theorem trim_unlines {lines : List Text} (clean : ∀ line ∈ lines, line ≠ [] → IsClean line) :
    trim (unlines lines) =
      unlines ((lines.dropWhile List.isEmpty).rdropWhile List.isEmpty) := by
  induction lines with
  | nil => rfl
  | cons line lines inductionHypothesis =>
      have rest := inductionHypothesis fun other listed =>
        clean other (List.mem_cons_of_mem _ listed)
      cases line with
      | nil =>
          rw [List.dropWhile_cons_of_pos rfl, ← rest, trim_unlines_cons]
      | cons first line =>
          have solid := (clean _ List.mem_cons_self (List.cons_ne_nil _ _)).not_isBlank
          rw [List.dropWhile_cons_of_neg (by simp), ← trimEnd_unlines clean]
          by_cases last : lines = []
          · rw [last]
            exact (trim_cons_of_not_blank solid _).trans (trimEnd_cons_of_not_blank solid _).symm
          · rw [unlines_cons last]
            exact (trim_cons_of_not_blank solid _).trans (trimEnd_cons_of_not_blank solid _).symm

end Text

namespace Rollup

open Text

variable {items more lines later : List Text} {heading : Text} {issues : List Issue}
  {options : RollupOptions}

/-! ## Parts of a checklist -/

/-- Whether a line begins as those of issues do. -/
def isItemLine (line : Text) : Bool :=
  startsWith line "- ["

/-- The headings of a checklist. -/
def headings : List Text :=
  (["## In Progress", "## Open", "## Recently Completed"] : List Text) ++
    kindOrder.map fun kind => ("### " : Text) ++ kindHeading kind

/-- Lines with items among them. -/
structure IsPart (items lines : List Text) : Prop where
  /-- The items are those lines that look like one, in order. -/
  items : lines.filter isItemLine = items
  /-- The other lines are headings, or empty. -/
  others : ∀ line ∈ lines, isItemLine line = false → line = [] ∨ line ∈ headings
  /-- No line has white space at its ends. -/
  clean : ∀ line ∈ lines, line ≠ [] → IsClean line

/-- A text has items, between headings and empty lines. They can be found in it as long as each of
them is on one line. -/
structure Lists (items : List Text) (text : Text) : Prop where
  /-- The text is made of the items, of headings and of empty lines. -/
  parts : ∃ lines, text = unlines lines ∧ lines.filter isItemLine = items ∧
    ∀ line ∈ lines, isItemLine line = false → line = [] ∨ line ∈ headings
  /-- The items are those lines of the text that look like one. -/
  found : (∀ item ∈ items, '\n' ∉ item) → (splitOn '\n' text).filter isItemLine = items

/-- No heading is the line of an item, or has line ends or white space at its ends. -/
theorem headings_clean : ∀ heading ∈ headings,
    isItemLine heading = false ∧ IsClean heading ∧ '\n' ∉ heading := by
  decide +kernel

/-- The line of an item is known as one. -/
theorem isItemLine_item (isChecked : Bool) (issue : Issue) : isItemLine (item isChecked issue) := by
  cases isChecked <;> rfl

/-- It has no white space at its ends. -/
theorem isClean_item (isChecked : Bool) (issue : Issue) : IsClean (item isChecked issue) :=
  ⟨trim_between (by decide) (by decide) _, List.cons_ne_nil _ _⟩

namespace IsPart

/-- No line is part of a list without items. -/
theorem nil : IsPart [] [] where
  items := rfl
  others _ listed := absurd listed List.not_mem_nil
  clean _ listed := absurd listed List.not_mem_nil

/-- Parts of a list are appended. -/
theorem append (part : IsPart items lines) (next : IsPart more later) :
    IsPart (items ++ more) (lines ++ later) where
  items := by rw [List.filter_append, part.items, next.items]
  others line listed :=
    (List.mem_append.mp listed).elim (part.others line) (next.others line)
  clean line listed := (List.mem_append.mp listed).elim (part.clean line) (next.clean line)

/-- So are parts for each of several entries. -/
theorem flatMap {α : Type} {items lines : α → List Text}
    (each : ∀ entry, IsPart (items entry) (lines entry)) (entries : List α) :
    IsPart (entries.flatMap items) (entries.flatMap lines) := by
  induction entries with
  | nil => exact nil
  | cons entry entries inductionHypothesis => exact (each entry).append inductionHypothesis

/-- An empty line has no item. -/
theorem blank : IsPart [] [[]] where
  items := rfl
  others _ listed _ := .inl (List.mem_singleton.mp listed)
  clean _ listed present := absurd (List.mem_singleton.mp listed) present

/-- A heading has no item. -/
theorem single (known : heading ∈ headings) : IsPart [] [heading] where
  items := List.filter_eq_nil_iff.mpr fun line listed => by
    rw [List.mem_singleton.mp listed, (headings_clean heading known).1]
    exact Bool.false_ne_true
  others _ listed _ := .inr (List.mem_singleton.mp listed ▸ known)
  clean _ listed _ := List.mem_singleton.mp listed ▸ (headings_clean heading known).2.1

/-- The lines of items are their own part. -/
theorem checklist (isChecked : Bool) (issues : List Issue) :
    IsPart (issues.map (item isChecked)) (issues.map (item isChecked)) where
  items := List.filter_eq_self.mpr <| List.forall_mem_map.mpr fun issue _ =>
    isItemLine_item isChecked issue
  others := List.forall_mem_map.mpr fun issue _ plain =>
    absurd (isItemLine_item isChecked issue) (by rw [plain]; exact Bool.false_ne_true)
  clean := List.forall_mem_map.mpr fun issue _ _ => isClean_item isChecked issue

/-- So they are with a heading in front, which an empty part does not have. -/
theorem titled (known : heading ∈ headings) (isChecked : Bool) (issues : List Issue) :
    IsPart (issues.map (item isChecked)) (titled heading (issues.map (item isChecked))) := by
  have whole := (((single known).append blank).append (checklist isChecked issues)).append blank
  rwa [List.append_nil] at whole

/-- Without issues a section is left out. -/
theorem titledUnless {listed group : List Issue} (known : heading ∈ headings) (isChecked : Bool)
    (none : group = [] → listed = []) : IsPart (listed.map (item isChecked))
      (if group.isEmpty then [] else Rollup.titled heading (listed.map (item isChecked))) := by
  split_ifs with empty
  · rw [none (List.isEmpty_iff.mp empty)]
    exact nil
  · exact titled known isChecked listed

/-- Empty lines at the ends are no items. -/
theorem filter_isItemLine_inner (lines : List Text) :
    ((lines.dropWhile List.isEmpty).rdropWhile List.isEmpty).filter isItemLine =
      lines.filter isItemLine := by
  have plain : ∀ line : Text, line.isEmpty → ¬ isItemLine line := by
    intro line empty
    rw [List.isEmpty_iff.mp empty]
    exact Bool.false_ne_true
  have front : (lines.takeWhile List.isEmpty).filter isItemLine = [] :=
    List.filter_eq_nil_iff.mpr fun line listed => plain line (List.mem_takeWhile_imp listed)
  have back : ((lines.dropWhile List.isEmpty).rtakeWhile List.isEmpty).filter isItemLine = [] :=
    List.filter_eq_nil_iff.mpr fun line listed => plain line (List.mem_rtakeWhile_imp listed)
  conv_rhs => rw [← List.takeWhile_append_dropWhile (p := List.isEmpty) (l := lines),
    List.filter_append, front, List.nil_append,
    ← List.rdropWhile_append_rtakeWhile (p := List.isEmpty) (l := lines.dropWhile List.isEmpty),
    List.filter_append, back, List.append_nil]

/-- A text of parts has their items. -/
theorem lists (part : IsPart items lines) : Lists items (trim (unlines lines)) := by
  have whole := trim_unlines part.clean
  set left := (lines.dropWhile List.isEmpty).rdropWhile List.isEmpty
  have kept : left.filter isItemLine = items :=
    (filter_isItemLine_inner lines).trans part.items
  have others : ∀ line ∈ left, isItemLine line = false → line = [] ∨ line ∈ headings :=
    fun line listed => part.others line <|
      (List.dropWhile_suffix _).subset ((List.rdropWhile_prefix _ _).subset listed)
  refine ⟨⟨left, whole, kept, others⟩, fun single => ?_⟩
  rw [whole]
  by_cases none : left = []
  · rw [none] at kept ⊢
    rw [← kept]
    rfl
  · rw [splitOn_unlines none fun line listed => ?_, kept]
    cases plain : isItemLine line with
    | true => exact single line (kept ▸ List.mem_filter.mpr ⟨listed, plain⟩)
    | false =>
        rcases others line listed plain with rfl | known
        · exact List.not_mem_nil
        · exact (headings_clean line known).2.2

end IsPart

/-! ## The order of issues -/

/-- An issue is at least as urgent as another: by its priority, or by its identifier when the
priorities are the same. -/
def IsAsUrgent (one other : Issue) : Prop :=
  one.priority < other.priority ∨ one.priority = other.priority ∧ Text.le one.id other.id

/-- An issue was closed no earlier than another. -/
def IsAsRecent (one other : Issue) : Prop :=
  ¬ (closingSeconds one).lessThan (closingSeconds other)

/-- The order by urgency, as it is programmed, is the one that is meant. -/
theorem urgencyLe_iff {one other : Issue} : urgencyLe one other ↔ IsAsUrgent one other := by
  unfold urgencyLe IsAsUrgent
  split_ifs with same
  · simp [same]
  · simp [same]

/-- It is transitive. -/
theorem urgencyLe_trans (one other third : Issue) (before : urgencyLe one other)
    (behind : urgencyLe other third) : urgencyLe one third := by
  rw [urgencyLe_iff] at before behind ⊢
  rcases before with before | ⟨same, before⟩
  · rcases behind with behind | ⟨equal, -⟩
    · exact .inl (Fin.lt_trans before behind)
    · exact .inl (equal ▸ before)
  · rcases behind with behind | ⟨equal, behind⟩
    · exact .inl (same ▸ behind)
    · exact .inr ⟨same.trans equal, isOrder_le.trans before behind⟩

/-- It is total. -/
theorem urgencyLe_total (one other : Issue) : urgencyLe one other || urgencyLe other one := by
  rw [Bool.or_eq_true, urgencyLe_iff, urgencyLe_iff]
  by_cases same : one.priority = other.priority
  · have ids : Text.le one.id other.id ∨ Text.le other.id one.id := by
      rw [le_eq_lexLe, le_eq_lexLe]
      exact lexLe_total isOrder_char one.id other.id
    exact ids.imp (fun before => .inr ⟨same, before⟩) fun behind => .inr ⟨same.symm, behind⟩
  · exact (Fin.lt_or_lt_of_ne same).imp .inl .inl

/-- Issues are sorted by it, and equally urgent ones keep their order. -/
theorem isStableSort_urgency (issues : List Issue) :
    IsStableSort IsAsUrgent issues (issues.mergeSort urgencyLe) := by
  have sorted := isStableSort_mergeSort urgencyLe_trans urgencyLe_total issues
  rwa [funext fun one => funext fun other => propext urgencyLe_iff] at sorted

/-- The order by recency, as it is programmed, is the one that is meant. -/
theorem recencyLe_iff {one other : Issue} : recencyLe one other ↔ IsAsRecent one other := by
  rw [recencyLe, IsAsRecent, Bool.not_eq_true, Bool.not_eq_true']

/-- It compares the seconds of closing. -/
theorem isAsRecent_iff {one other : Issue} : IsAsRecent one other ↔
    (closingSeconds other).scaled ≤ (closingSeconds one).scaled := by
  rw [IsAsRecent, Binary64.lessThan, decide_eq_true_iff, Int.not_lt]

/-- It is transitive. -/
theorem recencyLe_trans (one other third : Issue) (before : recencyLe one other)
    (behind : recencyLe other third) : recencyLe one third := by
  rw [recencyLe_iff, isAsRecent_iff] at before behind ⊢
  exact Int.le_trans behind before

/-- It is total. -/
theorem recencyLe_total (one other : Issue) : recencyLe one other || recencyLe other one := by
  rw [Bool.or_eq_true, recencyLe_iff, recencyLe_iff, isAsRecent_iff, isAsRecent_iff]
  exact (Int.le_total _ _).symm

/-- Issues are sorted by it, and those closed together keep their order. -/
theorem isStableSort_recency (issues : List Issue) :
    IsStableSort IsAsRecent issues (issues.mergeSort recencyLe) := by
  have sorted := isStableSort_mergeSort recencyLe_trans recencyLe_total issues
  rwa [funext fun one => funext fun other => propext recencyLe_iff] at sorted

/-! ## What is listed -/

/-- What a rollup makes of issues. -/
structure Selection where
  /-- The issues in progress, as they are listed. -/
  active : List Issue
  /-- The pending issues of each kind, as they are listed. -/
  group : Kind → List Issue
  /-- The closed issues that are listed. -/
  recent : List Issue
  /-- The closed issues that are not. -/
  omitted : List Issue

/-- The items of a selection. -/
def Selection.shown (selection : Selection) : List Text :=
  selection.active.map (item false) ++
    ([.epic, .bug, .feature, .task].flatMap selection.group).map (item false) ++
    selection.recent.map (item true)

/-- Nothing is lost and nothing comes twice in a selection, and all of it is in order. -/
structure Selection.IsOf (selection : Selection) (options : RollupOptions) (issues : List Issue) :
    Prop where
  /-- Every issue in progress comes once, the urgent ones first. -/
  active : IsStableSort IsAsUrgent (issues.filter fun issue => issue.status = .inProgress)
    selection.active
  /-- Every open or blocked issue comes once among those of its kind, the urgent ones first. -/
  group : ∀ kind, IsStableSort IsAsUrgent
    (issues.filter fun issue => (issue.status = .opened ∨ issue.status = .blocked) ∧
      issue.kind = kind) (selection.group kind)
  /-- Every open or blocked issue comes once among those of all kinds. -/
  pending : ([.epic, .bug, .feature, .task].flatMap selection.group).Perm
    (issues.filter fun issue => issue.status = .opened ∨ issue.status = .blocked)
  /-- Every closed issue comes once, the one that was closed last first. -/
  closed : IsStableSort IsAsRecent (issues.filter fun issue => issue.status = .closed)
    (selection.recent ++ selection.omitted)
  /-- As many closed issues are listed as there may be, and as there are. -/
  count : selection.recent.length =
    if options.showsClosed then
      min options.closedLimit.toNat (issues.countP fun issue => issue.status = .closed)
    else 0
  /-- No closed issue is omitted that was closed later than one that is listed. -/
  latest : ∀ listed ∈ selection.recent, ∀ omitted ∈ selection.omitted,
    ¬ (closingSeconds listed).lessThan (closingSeconds omitted)

/-- What the program makes of issues. -/
def select (options : RollupOptions) (issues : List Issue) : Selection :=
  let closed := (issues.filter fun issue => issue.status == .closed).mergeSort recencyLe
  let count := if options.showsClosed then options.closedLimit.toNat else 0
  { active := (issues.filter fun issue => issue.status == .inProgress).mergeSort urgencyLe
    group kind := ((issues.filter isPending).filter fun issue => issue.kind == kind).mergeSort
      urgencyLe
    recent := closed.take count
    omitted := closed.drop count }

/-- Issues that are sorted into groups by their kinds are all in one of them. -/
theorem flatMap_filter_kind_perm (issues : List Issue) :
    (([.epic, .bug, .feature, .task] : List Kind).flatMap fun kind =>
      issues.filter fun issue => issue.kind == kind).Perm issues := by
  refine List.perm_iff_count.mpr fun issue => ?_
  have counted (kind : Kind) : (issues.filter fun other => other.kind == kind).count issue =
      if issue.kind = kind then issues.count issue else 0 := by
    split_ifs with same
    · exact List.count_filter (beq_iff_eq.mpr same)
    · exact List.count_eq_zero.mpr fun listed =>
        same (beq_iff_eq.mp (List.mem_filter.mp listed).2)
  simp only [List.flatMap_cons, List.flatMap_nil, List.append_nil, List.count_append, counted]
  cases issue.kind <;> simp

/-- The selection of the program is the one that is meant. -/
theorem select_isOf (options : RollupOptions) (issues : List Issue) :
    (select options issues).IsOf options issues := by
  have pending : issues.filter isPending =
      issues.filter fun issue => issue.status = .opened ∨ issue.status = .blocked :=
    List.filter_congr fun issue _ => (Bool.decide_or ..).symm
  have closed : IsStableSort IsAsRecent (issues.filter fun issue => issue.status = .closed)
      ((select options issues).recent ++ (select options issues).omitted) := by
    unfold select
    dsimp only
    rw [List.take_append_drop]
    exact isStableSort_recency _
  constructor
  · exact isStableSort_urgency _
  · intro kind
    have same : (issues.filter fun issue =>
        (issue.status = .opened ∨ issue.status = .blocked) ∧ issue.kind = kind) =
          (issues.filter isPending).filter fun issue => issue.kind == kind := by
      rw [pending, List.filter_filter]
      exact List.filter_congr fun issue _ => (Bool.decide_and ..).trans (Bool.and_comm ..)
    rw [same]
    exact isStableSort_urgency _
  · rw [← pending]
    exact (List.Perm.flatMap_left _ fun kind _ => List.mergeSort_perm _ _).trans
      (flatMap_filter_kind_perm _)
  · exact closed
  · unfold select
    dsimp only
    rw [List.length_take, List.length_mergeSort, ← List.countP_eq_length_filter]
    split_ifs
    · rfl
    · exact Nat.zero_min _
  · -- What is taken of a list in order comes before what is left of it.
    exact (List.pairwise_append.mp closed.ordered).2.2

/-- The first part lists the issues in progress. -/
theorem isPart_progressLines (options : RollupOptions) (issues : List Issue) :
    IsPart ((select options issues).active.map (item false)) (progressLines issues) :=
  IsPart.titledUnless (by decide +kernel) false fun none =>
    (congrArg (List.mergeSort · urgencyLe) none).trans List.mergeSort_nil

/-- The part of a kind lists its pending issues, by urgency. -/
theorem isPart_kindLines (pending : List Issue) (kind : Kind) :
    IsPart (((pending.filter fun issue => issue.kind == kind).mergeSort urgencyLe).map (item false))
      (kindLines pending kind) :=
  IsPart.titledUnless (by cases kind <;> decide +kernel) false fun none =>
    (congrArg (List.mergeSort · urgencyLe) none).trans List.mergeSort_nil

/-- The part of pending issues lists all kinds, one behind the other. -/
theorem isPart_pendingLines (options : RollupOptions) (issues : List Issue) :
    IsPart (([.epic, .bug, .feature, .task].flatMap (select options issues).group).map (item false))
      (pendingLines issues) := by
  have groups := IsPart.flatMap (isPart_kindLines (issues.filter isPending)) kindOrder
  rw [← List.map_flatMap] at groups
  unfold pendingLines
  dsimp only
  split_ifs with empty
  · -- Without pending issues no kind has lines of its own either.
    have none : kindOrder.flatMap (kindLines (issues.filter isPending)) = [] := by
      rw [List.isEmpty_iff.mp empty]
      rfl
    rwa [none] at groups
  · exact ((IsPart.single (by decide +kernel)).append IsPart.blank).append groups

/-- The last part lists the issues that were closed last. -/
theorem isPart_closedLines (bounded : 0 ≤ options.closedLimit) (issues : List Issue) :
    IsPart ((select options issues).recent.map (item true)) (closedLines options issues) := by
  unfold closedLines select upTo
  dsimp only
  rw [if_pos bounded]
  cases options.showsClosed with
  | false => exact IsPart.nil
  | true =>
      rw [if_pos rfl, Bool.true_and]
      split_ifs with filled
      · exact IsPart.titled (by decide +kernel) true _
      · rw [Bool.not_eq_true, Bool.not_eq_false', List.isEmpty_iff] at filled
        rw [filled, List.mergeSort_nil, List.take_nil]
        exact IsPart.nil

/-- All sections together list what was selected. -/
theorem sections_select (bounded : 0 ≤ options.closedLimit) (issues : List Issue) :
    Lists (select options issues).shown (sections options issues) :=
  (((isPart_progressLines options issues).append (isPart_pendingLines options issues)).append
    (isPart_closedLines bounded issues)).lists

/-- A rollup loses nothing and repeats nothing. Both sides are merged into one issue for each
identifier. And what is listed of any issues are all that are in progress and all that are pending,
and as many of the closed ones as there may be, those that were closed last. -/
theorem merge_and_sections_complete (strategy : Strategy) (beadsIssues fileIssues : List Issue)
    (options : RollupOptions) (bounded : 0 ≤ options.closedLimit) (issues : List Issue) :
    IsUnion beadsIssues fileIssues (merge strategy beadsIssues fileIssues) ∧
      ∃ selection : Selection, selection.IsOf options issues ∧
        Lists selection.shown (sections options issues) :=
  ⟨isUnion_merge strategy beadsIssues fileIssues, select options issues,
    select_isOf options issues, sections_select bounded issues⟩

/-- An issue of a kind, with a status and a time of closing. -/
def chore (id : Text) (kind : Kind) (status : Status) (closedAt : Option Text) : Issue :=
  { (default : Issue) with
    id := id
    title := id
    kind := kind
    status := status
    closedAt := closedAt }

/-- Issues of the store; two have the same identifier. -/
def storedChores : List Issue :=
  [chore "lamp" .task .opened none, chore "desk" .bug .closed (some "2024-02-01"),
   chore "lamp" .epic .blocked none]

/-- Issues of files, one of them with an identifier that the store has too. -/
def writtenChores : List Issue :=
  [chore "room" .task .inProgress none, chore "shed" .task .closed (some "2024-03-01"),
   chore "desk" .bug .inProgress none]

/-- Of two closed issues one is shown. -/
theorem chores_complete : (0 : Int) ≤ 1 ∧
    IsUnion storedChores writtenChores (merge .newestWins storedChores writtenChores) ∧
      ∃ selection : Selection,
        selection.IsOf ⟨true, 1⟩ (merge .newestWins storedChores writtenChores) ∧
        Lists selection.shown (sections ⟨true, 1⟩ (merge .newestWins storedChores writtenChores)) ∧
        selection.active.length = 1 ∧ (selection.group .epic).length = 1 ∧
        selection.recent.length = 1 ∧ selection.omitted.length = 1 := by
  have bounded : (0 : Int) ≤ 1 := by decide
  obtain ⟨union, selection, complete, listed⟩ := merge_and_sections_complete .newestWins
    storedChores writtenChores ⟨true, 1⟩ bounded (merge .newestWins storedChores writtenChores)
  have active := complete.active.perm.length_eq.trans (by decide +kernel : _ = 1)
  have epic := (complete.group .epic).perm.length_eq.trans (by decide +kernel : _ = 1)
  have recent := complete.count.trans (by decide +kernel : _ = 1)
  have closed := complete.closed.perm.length_eq.trans (by decide +kernel : _ = 2)
  rw [List.length_append, recent] at closed
  exact ⟨bounded, union, selection, complete, listed, active, epic, recent, by omega⟩

end Rollup

end Issuebook
