import Issuebook.Proofs.Issue.Validity
import Issuebook.Proofs.Loading

/-!
# Inverse edges

What issues name is collected under the names, issue by issue: behind one more issue, each list is
longer by as often as the issue names its identifier (`collected_add_blocks`). In the end every
issue finds all that wait for it and all its parts, in the order of the log, once for each time they
name it, whatever they name besides: `withInverseEdges_inverts`.
-/

namespace Issuebook.StoreLog

open InverseEdges

variable {issues : List Issue} {id key target : Text}

/-- The identifiers of the issues that wait for an identifier, once for each time they name it. -/
def waitingFor (id : Text) (issues : List Issue) : List Text :=
  issues.flatMap fun issue =>
    List.replicate ((Issue.itemsOrNone issue.dependsOn).count id) issue.id

/-- The identifiers of the issues that are a part of an identifier. -/
def partsOf (id : Text) (issues : List Issue) : List Text :=
  (issues.filter fun issue => issue.parent = some id).map Issue.id

/-- A list, or nothing when it is empty. -/
def nonEmpty? (ids : List Text) : Option (List Text) :=
  if ids.isEmpty then none else some ids

/-! ## Collecting -/

/-- What is collected under an identifier. -/
def collected (id : Text) (lists : Entries (List Text)) : List Text :=
  (lists.get? id).getD []

/-- What is listed under an identifier is what was collected, none if that is nothing. -/
theorem listed?_eq (id : Text) (lists : Entries (List Text)) :
    listed? id lists = nonEmpty? (collected id lists) := by
  unfold listed? nonEmpty? collected
  cases lists.get? id with
  | none => rfl
  | some ids => cases ids <;> rfl

/-- Listing something adds it under its target. -/
theorem collected_list (key id target : Text) (lists : Entries (List Text)) :
    collected key (list id lists target) =
      collected key lists ++ if target = key then [id] else [] := by
  unfold collected list
  split_ifs with same
  · rw [same, Entries.get?_put_same]
    rfl
  · rw [Entries.get?_put_other same, List.append_nil]

/-- Each time an identifier is named, one more is collected under it. -/
theorem collected_foldl_list (key id : Text) (targets : List Text) (lists : Entries (List Text)) :
    collected key (targets.foldl (list id) lists) =
      collected key lists ++ List.replicate (targets.count key) id := by
  induction targets generalizing lists with
  | nil => exact (List.append_nil _).symm
  | cons target targets inductionHypothesis =>
      rw [List.foldl_cons, inductionHypothesis, collected_list, List.append_assoc, List.count_cons]
      by_cases same : target = key
      · rw [if_pos same, if_pos (beq_iff_eq.mpr same), List.replicate_succ]
        rfl
      · rw [if_neg same, if_neg (beq_iff_eq.not.mpr same)]
        rfl

/-- An issue is collected under each issue that it waits for, as often as it names it. -/
theorem collected_add_blocks (key : Text) (edges : InverseEdges) (issue : Issue) :
    collected key (edges.add issue).blocks = collected key edges.blocks ++
      List.replicate ((Issue.itemsOrNone issue.dependsOn).count key) issue.id :=
  collected_foldl_list key issue.id _ edges.blocks

/-- It is collected under the issue that it is a part of. -/
theorem collected_add_children (named : key ≠ []) (edges : InverseEdges) (issue : Issue) :
    collected key (edges.add issue).children = collected key edges.children ++
      if issue.parent = some key then [issue.id] else [] := by
  have same : Issue.textOrEmpty issue.parent = key ↔ issue.parent = some key := by
    cases issue.parent with
    | none => exact iff_of_false (Ne.symm named) (nomatch ·)
    | some parent => exact Option.some_inj.symm
  rw [add]
  dsimp only
  split_ifs with empty present present
  · rw [same.mpr present] at empty
    exact absurd (List.isEmpty_iff.mp empty) named
  · exact (List.append_nil _).symm
  · rw [collected_list, if_pos (same.mpr present)]
  · rw [collected_list, if_neg (same.not.mpr present)]

/-- Of many issues, those are collected that wait for an identifier. -/
theorem collected_foldl_blocks (key : Text) (issues : List Issue) (edges : InverseEdges) :
    collected key (issues.foldl add edges).blocks =
      collected key edges.blocks ++ waitingFor key issues := by
  induction issues generalizing edges with
  | nil => exact (List.append_nil _).symm
  | cons issue issues inductionHypothesis =>
      rw [List.foldl_cons, inductionHypothesis, collected_add_blocks, List.append_assoc, waitingFor,
        waitingFor, List.flatMap_cons]

/-- Of many issues, those are collected that are parts of one. -/
theorem collected_foldl_children (named : key ≠ []) (issues : List Issue) (edges : InverseEdges) :
    collected key (issues.foldl add edges).children =
      collected key edges.children ++ partsOf key issues := by
  induction issues generalizing edges with
  | nil => exact (List.append_nil _).symm
  | cons issue issues inductionHypothesis =>
      rw [List.foldl_cons, inductionHypothesis, collected_add_children named, List.append_assoc,
        partsOf, partsOf, List.filter_cons]
      by_cases part : issue.parent = some key
      · simp [part]
      · simp [part]

/-! ## Every issue with its edges -/

/-- Issues with identifiers find what is collected under these. -/
theorem withInverseEdges_eq (named : ∀ issue ∈ issues, issue.id ≠ []) :
    withInverseEdges issues = issues.map fun issue =>
      { issue with
        blocks := nonEmpty? (waitingFor issue.id issues)
        children := nonEmpty? (partsOf issue.id issues) } := by
  unfold withInverseEdges
  refine List.map_congr_left fun issue listed => ?_
  have waiting : collected issue.id (ofIssues issues).blocks = waitingFor issue.id issues :=
    collected_foldl_blocks issue.id issues InverseEdges.empty
  have parts : collected issue.id (ofIssues issues).children = partsOf issue.id issues :=
    collected_foldl_children (named issue listed) issues InverseEdges.empty
  rw [listed?_eq, listed?_eq, waiting, parts]

/-- The issues of records have identifiers. -/
theorem id_ne_nil_of_issuesOf {records : List StoreRecord}
    (made : (issuesOf records).value = .ok issues) : ∀ issue ∈ issues, issue.id ≠ [] := by
  intro issue listed
  obtain rfl := kept_of_issuesOf made
  obtain ⟨record, -, makes⟩ := List.mem_filterMap.mp listed
  unfold issueOf? at makes
  split at makes
  · next own taken =>
      obtain rfl := Option.some.inj makes
      exact ((Issue.isValid_iff own).mpr ⟨_, taken⟩).id.2
  · cases makes

/-- The issues of records, whatever these name, are left as they are but for their inverse edges:
behind each stand all that wait for it, once for each time they name it, and all its parts, both in
the order of the records, or nothing where there are none. -/
theorem withInverseEdges_inverts {records : List StoreRecord}
    (made : (issuesOf records).value = .ok issues) :
    withInverseEdges issues = issues.map fun issue =>
      { issue with
        blocks := nonEmpty? (waitingFor issue.id issues)
        children := nonEmpty? (partsOf issue.id issues) } :=
  withInverseEdges_eq (id_ne_nil_of_issuesOf made)

/-- A record that depends on others. -/
def dependentRecord (id : Text) (dependencies : List Dependency) : StoreRecord :=
  ⟨id, none, none, none, .null, none, none, none, none, none, none, dependencies⟩

/-- Two records wait for each other, one of them twice; another of the same identifier names itself,
and two are parts, one of them of an issue that is not there. -/
def tangledRecords : List StoreRecord :=
  [dependentRecord "desk" [⟨none, "lamp", "blocks"⟩, ⟨none, "room", "parent-child"⟩],
   dependentRecord "lamp" [⟨none, "desk", "blocks"⟩, ⟨none, "desk", "blocks"⟩],
   dependentRecord "desk" [⟨none, "desk", "blocks"⟩, ⟨none, "lamp", "parent-child"⟩]]

/-- Records that wait for one another, some twice and some for nobody. -/
theorem withInverseEdges_tangledRecords :
    ∃ issues, (issuesOf tangledRecords).value = .ok issues ∧
      (withInverseEdges issues).map Issue.id = ["desk", "lamp", "desk"] ∧
      (withInverseEdges issues).map Issue.blocks =
        ([some ["lamp", "lamp"], some ["desk"], some ["lamp", "lamp"]] :
          List (Option (List Text))) ∧
      (withInverseEdges issues).map Issue.children =
        ([none, some ["desk"], none] : List (Option (List Text))) := by
  have made : (issuesOf tangledRecords).value = .ok (tangledRecords.filterMap issueOf?) := by rfl
  refine ⟨_, made, ?_⟩
  rw [withInverseEdges_inverts made]
  decide +kernel

end Issuebook.StoreLog
