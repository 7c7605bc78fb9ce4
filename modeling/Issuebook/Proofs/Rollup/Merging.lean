import Issuebook.Proofs.Entries
import Issuebook.Rollup.Compilation
import Mathlib.Tactic.SplitIfs

/-!
# Merging both sides

The rollup and the reconciliation choose between two copies of an issue by rules of their own. When
the newest copy stays, the rollup takes a copy without a time for the older one, and the
reconciliation takes it for one of the beginning of 1970. The rules part where one copy alone has a
time, and a time as early as that: `merge_agrees_iff`.

Whatever is chosen, every identifier of either side is left, and none twice: `isUnion_merge`.
-/

namespace Issuebook.Rollup

open Changes

variable {beads file : Issue} {strategy : Strategy}

/-- Of two copies of one issue the rollup shows the one it prefers. -/
theorem merge_pair (same : beads.id = file.id) : merge strategy [beads] [file] =
    [if prefersBeads strategy beads file then beads else file] := by
  have single : Entries.ofList [(file.id, file)] = [(file.id, file)] := rfl
  have found : Entries.get? beads.id [(file.id, file)] = some file := if_pos same.symm
  have replaced : Entries.put beads.id beads [(file.id, file)] = [(file.id, beads)] :=
    if_pos same.symm
  simp only [merge, List.map_cons, List.map_nil, single, List.foldl_cons, List.foldl_nil, takeIn,
    found, replaced]
  split_ifs <;> rfl

/-- The store's copy is the newest when the file's is not dated, or is dated no later. -/
theorem isBeadsNewest_iff : isBeadsNewest beads file ↔ ∀ fileTime ∈ changeTime file,
    ∃ beadsTime ∈ changeTime beads, fileTime.instant ≤ beadsTime.instant := by
  unfold isBeadsNewest
  cases changeTime file with
  | none => simp
  | some fileTime => cases changeTime beads <;> simp

/-- Of two equal copies that of the store counts as the newest. -/
theorem isBeadsNewest_self (issue : Issue) : isBeadsNewest issue issue :=
  isBeadsNewest_iff.mpr fun time dated => ⟨time, dated, Int.le_refl _⟩

/-- The newest copy wins, and of two changed at once that of the store. -/
theorem resolve_newest_iff : resolve .newestWins beads file = .beads ↔
    instantOf (changeTime file) ≤ instantOf (changeTime beads) := by
  simp only [resolve, newer]
  split_ifs with tied later
  · exact iff_of_true rfl (Int.le_of_eq tied.symm)
  · exact iff_of_true rfl (Int.le_of_lt later)
  · exact iff_of_false (by simp) (by omega)

/-- The rollup shows the store's copy exactly when it is the newest. -/
theorem merge_newest_iff (same : beads.id = file.id) :
    merge .newestWins [beads] [file] = [beads] ↔ isBeadsNewest beads file := by
  rw [merge_pair same, List.singleton_inj, prefersBeads]
  split_ifs with newest
  · exact iff_of_true rfl newest
  · refine iff_of_false (fun equal => newest ?_) newest
    rw [equal]
    exact isBeadsNewest_self beads

/-- A copy that alone has a time changed later than the beginning of 1970; the store's copy may have
changed just then. -/
structure IsLateIfAlone (beads file : Issue) : Prop where
  /-- The time of the file's copy, where the store's has none. -/
  ofFile : changeTime beads = none → ∀ time ∈ changeTime file, 0 < time.instant
  /-- The time of the store's copy, where the file's has none. -/
  ofBeads : changeTime file = none → ∀ time ∈ changeTime beads, 0 ≤ time.instant

/-- The rollup shows the store's copy exactly when the reconciliation would keep it, unless one copy
alone has a time, and one too early to be told from a copy without a time. -/
theorem merge_agrees_iff (same : beads.id = file.id) :
    (merge .newestWins [beads] [file] = [beads] ↔ resolve .newestWins beads file = .beads) ↔
      IsLateIfAlone beads file := by
  have late : IsLateIfAlone beads file ↔
      (changeTime beads = none → ∀ time ∈ changeTime file, 0 < time.instant) ∧
        (changeTime file = none → ∀ time ∈ changeTime beads, 0 ≤ time.instant) :=
    ⟨fun ⟨ofFile, ofBeads⟩ => ⟨ofFile, ofBeads⟩, fun ⟨ofFile, ofBeads⟩ => ⟨ofFile, ofBeads⟩⟩
  rw [merge_newest_iff same, isBeadsNewest_iff, resolve_newest_iff, late]
  cases changeTime beads with
  | none =>
    cases changeTime file with
    | none => simp [instantOf]
    | some fileTime => simp [instantOf]
  | some beadsTime =>
    cases changeTime file with
    | none => simp [instantOf]
    | some fileTime => simp [instantOf]

/-- A copy in the store, dated in the time of a zone to shortly before the landing on the moon. -/
def landingBeads : Issue :=
  { (default : Issue) with
    id := "a-1"
    title := "Beads"
    updatedAt := some "1969-07-20T22:00:00+02:00" }

/-- A copy in a file, dated to the landing. -/
def landingFile : Issue :=
  { (default : Issue) with
    id := "a-1"
    title := "File"
    updatedAt := some "1969-07-20T20:17:40Z" }

/-- For two copies of the landing both rules take the same side. -/
theorem landing_merge_agrees : landingBeads.id = landingFile.id ∧
    (merge .newestWins [landingBeads] [landingFile] = [landingBeads] ↔
      resolve .newestWins landingBeads landingFile = .beads) ∧
    resolve .newestWins landingBeads landingFile = .file := by
  have same : landingBeads.id = landingFile.id := rfl
  have bothDated : IsLateIfAlone landingBeads landingFile :=
    ⟨fun undated => absurd undated (by decide +kernel),
      fun undated => absurd undated (by decide +kernel)⟩
  exact ⟨same, (merge_agrees_iff same).mpr bothDated, by decide +kernel⟩

/-- Without the time of the store's copy the rollup shows the one in the file, and the
reconciliation keeps the store's. -/
theorem undated_merge_disagrees :
    let undated := { landingBeads with updatedAt := none }
    undated.id = landingFile.id ∧
      merge .newestWins [undated] [landingFile] = [landingFile] ∧ landingFile ≠ undated ∧
      resolve .newestWins undated landingFile = .beads := by
  decide +kernel

/-! ## Every identifier once -/

variable {merged : Entries Issue} {taken : List Issue} {issue : Issue}

/-- A collection of issues that were taken in: each stands under its identifier, and no identifier
is missing. -/
structure IsCollection (taken : List Issue) (merged : Entries Issue) : Prop where
  /-- No identifier comes twice. -/
  distinct : merged.keys.Nodup
  /-- Each issue stands under its own identifier. -/
  own : ∀ entry ∈ merged, entry.2.id = entry.1
  /-- No issue was not taken in. -/
  known : ∀ entry ∈ merged, entry.2 ∈ taken
  /-- No identifier is missing. -/
  complete : ∀ issue ∈ taken, issue.id ∈ merged.keys

namespace IsCollection

/-- Nothing is collected from nothing. -/
theorem empty : IsCollection [] [] where
  distinct := List.nodup_nil
  own _ listed := absurd listed List.not_mem_nil
  known _ listed := absurd listed List.not_mem_nil
  complete _ listed := absurd listed List.not_mem_nil

/-- An issue that is put in is collected. -/
theorem put (collection : IsCollection taken merged) (issue : Issue) :
    IsCollection (taken ++ [issue]) (merged.put issue.id issue) where
  distinct := Entries.nodup_keys_put collection.distinct
  own entry listed := by
    rcases Entries.mem_put listed with rfl | listed
    · rfl
    · exact collection.own entry listed
  known entry listed := by
    rcases Entries.mem_put listed with rfl | listed
    · exact List.mem_append_right _ (List.mem_singleton_self issue)
    · exact List.mem_append_left _ (collection.known entry listed)
  complete other listed := by
    rcases List.mem_append.mp listed with listed | listed
    · exact Entries.mem_keys_put (collection.complete other listed)
    · obtain rfl := List.mem_singleton.mp listed
      exact Entries.has_iff.mp (by rw [Entries.has, Entries.get?_put_same]; rfl)

/-- An issue need not be put where its identifier is taken. -/
theorem keep (collection : IsCollection taken merged) (present : issue.id ∈ merged.keys) :
    IsCollection (taken ++ [issue]) merged where
  distinct := collection.distinct
  own := collection.own
  known entry listed := List.mem_append_left _ (collection.known entry listed)
  complete other listed := by
    rcases List.mem_append.mp listed with listed | listed
    · exact collection.complete other listed
    · obtain rfl := List.mem_singleton.mp listed
      exact present

/-- So is an issue that is taken in beside a copy. -/
theorem takeIn (strategy : Strategy) (collection : IsCollection taken merged) (issue : Issue) :
    IsCollection (taken ++ [issue]) (Rollup.takeIn strategy merged issue) := by
  unfold Rollup.takeIn
  split
  · next file found =>
      split_ifs
      · exact collection.put issue
      · exact collection.keep (List.mem_map_of_mem (Entries.mem_of_get? found))
  · exact collection.put issue

/-- What takes in one issue takes in one after the other. -/
theorem foldl {step : Entries Issue → Issue → Entries Issue}
    (each : ∀ {taken merged}, IsCollection taken merged →
      ∀ issue, IsCollection (taken ++ [issue]) (step merged issue))
    (collection : IsCollection taken merged) (issues : List Issue) :
    IsCollection (taken ++ issues) (issues.foldl step merged) := by
  induction issues generalizing taken merged with
  | nil => rwa [List.append_nil]
  | cons issue issues inductionHypothesis =>
      have next := inductionHypothesis (each collection issue)
      rwa [List.append_assoc, List.singleton_append] at next

/-- The keys of a collection are the identifiers of its issues. -/
theorem ids_eq (collection : IsCollection taken merged) :
    (merged.map Prod.snd).map Issue.id = merged.keys := by
  rw [List.map_map]
  exact List.map_congr_left collection.own

end IsCollection

/-- A list of one issue for each identifier of either side. -/
structure IsUnion (beadsIssues fileIssues merged : List Issue) : Prop where
  /-- No identifier comes twice. -/
  distinct : (merged.map Issue.id).Nodup
  /-- The identifiers are those of both sides. -/
  ids : ∀ id, id ∈ merged.map Issue.id ↔
    id ∈ beadsIssues.map Issue.id ∨ id ∈ fileIssues.map Issue.id
  /-- Each issue is a copy from one of the sides. -/
  copies : ∀ issue ∈ merged, issue ∈ beadsIssues ∨ issue ∈ fileIssues

/-- Both sides are merged into their union. -/
theorem isUnion_merge (strategy : Strategy) (beadsIssues fileIssues : List Issue) :
    IsUnion beadsIssues fileIssues (merge strategy beadsIssues fileIssues) := by
  have files : IsCollection fileIssues
      (Entries.ofList (fileIssues.map fun issue => (issue.id, issue))) := by
    rw [Entries.ofList, Entries.putAll, List.foldl_map]
    exact IsCollection.empty.foldl IsCollection.put fileIssues
  have both := files.foldl (IsCollection.takeIn strategy) beadsIssues
  constructor
  · rw [merge, both.ids_eq]
    exact both.distinct
  · intro id
    rw [merge, both.ids_eq]
    constructor
    · intro listed
      obtain ⟨entry, place, rfl⟩ := List.mem_map.mp listed
      rw [← both.own entry place]
      exact (List.mem_append.mp (both.known entry place)).symm.imp List.mem_map_of_mem
        List.mem_map_of_mem
    · rintro (listed | listed)
      · obtain ⟨issue, place, rfl⟩ := List.mem_map.mp listed
        exact both.complete issue (List.mem_append_right _ place)
      · obtain ⟨issue, place, rfl⟩ := List.mem_map.mp listed
        exact both.complete issue (List.mem_append_left _ place)
  · intro issue listed
    obtain ⟨entry, place, rfl⟩ := List.mem_map.mp listed
    exact (List.mem_append.mp (both.known entry place)).symm

end Issuebook.Rollup
