import Issuebook.Proofs.Book.Keeping
import Issuebook.Proofs.Reconciliation.Planning
import Mathlib.Data.List.Perm.Basic
import Mathlib.Data.Prod.Basic

/-!
# Differences as a partition

Where identifiers are distinct on either side, the differences sort every identifier into one
bucket at most, and its two copies alone decide into which. So the buckets cover what differs, the
two sides can be exchanged, and the order of either side does not matter: `changes_isPartition`.
-/

namespace Issuebook

namespace Facet

/-- Agreement in a facet does not depend on the side. -/
theorem agrees_comm (one other : Issue) (facet : Facet) :
    facet.agrees one other = facet.agrees other one := by
  unfold agrees
  rw [decide_eq_decide]
  exact eq_comm

/-- Neither does the list of facets that differ. -/
theorem differing_comm (one other : Issue) : differing one other = differing other one := by
  unfold differing
  refine List.filter_congr fun facet _ => ?_
  rw [agrees_comm]

end Facet

namespace Conflict

/-- The copies in the store and in the file. -/
def copies (conflict : Conflict) : Issue × Issue :=
  (conflict.beads, conflict.file)

/-- The facets in which two copies differ, with the values of both. -/
def fieldsOf (copies : Issue × Issue) : List (Facet × FacetValue × FacetValue) :=
  (Facet.differing copies.1 copies.2).map fun facet =>
    (facet, facet.value copies.1, facet.value copies.2)

/-- The facets in which the copies differ, with their values in the store and in the file. -/
def fields (conflict : Conflict) : List (Facet × FacetValue × FacetValue) :=
  fieldsOf conflict.copies

/-- Exchanged copies differ in the same facets, with their values exchanged. -/
theorem fieldsOf_swap (copies : Issue × Issue) :
    fieldsOf copies.swap = (fieldsOf copies).map fun (facet, ofBeads, ofFile) =>
      (facet, ofFile, ofBeads) := by
  unfold fieldsOf
  rw [List.map_map, Prod.fst_swap, Prod.snd_swap, Facet.differing_comm]
  rfl

end Conflict

namespace Changes

/-- The newer side of exchanged times is the other side. -/
theorem newer_mirrored (beads file : Option Stamp) :
    newer file beads = (newer beads file).map Side.other := by
  unfold newer
  split_ifs <;> first | rfl | omega

/-- Closeness of two times does not depend on the side. -/
theorem isWithinWindow_comm (window : Window) (beads file : Option Stamp) :
    isWithinWindow window file beads = isWithinWindow window beads file := by
  cases beads with
  | none => cases file <;> rfl
  | some beads =>
      cases file with
      | none => rfl
      | some file =>
          have apart : (file.instant - beads.instant).natAbs =
              (beads.instant - file.instant).natAbs := by omega
          simp only [isWithinWindow, apart]

/-- With the sides exchanged the other side wins, and a conflict stays one. -/
theorem winner_mirrored (lastAgreed : Option Stamp) (window : Window)
    (beads file : Option Stamp) :
    winner lastAgreed window file beads =
      (winner lastAgreed window beads file).map Side.other := by
  unfold winner
  cases lastAgreed with
  | some point =>
      dsimp only
      cases changedAfter point beads <;> cases changedAfter point file
      · exact newer_mirrored beads file
      · rfl
      · rfl
      · rfl
  | none =>
      dsimp only
      rw [isWithinWindow_comm, Bool.and_comm file.isNone]
      split_ifs
      · rfl
      · exact newer_mirrored beads file

/-- A bucket that an issue is sorted into. -/
inductive Bucket where
  /-- Copies of the store for files. -/
  | toFiles
  /-- Copies of files for the store. -/
  | toBeads
  /-- Issues that changed on both sides. -/
  | conflicts
  deriving DecidableEq

/-- The bucket when the sides are exchanged. -/
def Bucket.mirrored : Bucket → Bucket
  | .toFiles => .toBeads
  | .toBeads => .toFiles
  | .conflicts => .conflicts

/-- The identifiers in the buckets. -/
def ids (changes : Changes) : List Text :=
  changes.toFiles.map Issue.id ++
    (changes.toBeads.map Issue.id ++ changes.conflicts.map Conflict.id)

/-- Differences that sort what is on either side. -/
structure IsPartition (changes : Changes) (beadsIssues fileIssues : List Issue) : Prop where
  /-- No identifier is in two buckets, nor twice in one. -/
  distinct : changes.ids.Nodup
  /-- What is for files is from the store. -/
  ofBeads : ∀ issue ∈ changes.toFiles, issue ∈ beadsIssues
  /-- What is for the store is from files. -/
  ofFiles : ∀ issue ∈ changes.toBeads, issue ∈ fileIssues
  /-- A conflict is between the two copies of an identifier. -/
  ofBoth : ∀ conflict ∈ changes.conflicts, conflict.beads ∈ beadsIssues ∧
    conflict.file ∈ fileIssues ∧ conflict.beads.id = conflict.file.id
  /-- In no bucket are the identifiers whose two copies agree. -/
  unsorted : ∀ id ∈ beadsIssues.map Issue.id ++ fileIssues.map Issue.id,
    id ∉ changes.ids ↔ ∃ beads ∈ beadsIssues, ∃ file ∈ fileIssues,
      beads.id = id ∧ file.id = id ∧ Facet.differing beads file = []
  /-- Identifiers without a file are listed once. -/
  beadsOnly : changes.beadsOnly.Nodup ∧ ∀ id, id ∈ changes.beadsOnly ↔
    id ∈ beadsIssues.map Issue.id ∧ id ∉ fileIssues.map Issue.id
  /-- Identifiers that the store has not are listed once. -/
  filesOnly : changes.filesOnly.Nodup ∧ ∀ id, id ∈ changes.filesOnly ↔
    id ∈ fileIssues.map Issue.id ∧ id ∉ beadsIssues.map Issue.id
  /-- What has no file is for files. -/
  beadsOnly_subset : changes.beadsOnly ⊆ changes.toFiles.map Issue.id
  /-- What the store has not is for the store. -/
  filesOnly_subset : changes.filesOnly ⊆ changes.toBeads.map Issue.id

/-- Two copies of an identifier that differ. -/
structure AreApart (beads file : Issue) : Prop where
  /-- They are copies of one identifier. -/
  same : beads.id = file.id
  /-- They differ. -/
  differ : Facet.differing beads file ≠ []

/-- Differences that sort copies by what changed after a point in time. -/
structure FollowsPoint (changes : Changes) (point : Stamp) (beadsIssues fileIssues : List Issue) :
    Prop where
  /-- A change in the store alone is for files. -/
  inBeads : ∀ beads ∈ beadsIssues, ∀ file ∈ fileIssues, AreApart beads file →
    changedAfter point (changeTime beads) = true →
      changedAfter point (changeTime file) = false → beads ∈ changes.toFiles
  /-- A change in the file alone is for the store. -/
  inFile : ∀ beads ∈ beadsIssues, ∀ file ∈ fileIssues, AreApart beads file →
    changedAfter point (changeTime beads) = false →
      changedAfter point (changeTime file) = true → file ∈ changes.toBeads
  /-- Changes on both sides are a conflict. -/
  inBoth : ∀ beads ∈ beadsIssues, ∀ file ∈ fileIssues, AreApart beads file →
    changedAfter point (changeTime beads) = true → changedAfter point (changeTime file) = true →
      ∃ conflict ∈ changes.conflicts, conflict.beads = beads ∧ conflict.file = file

/-- Differences with the two sides exchanged. -/
structure IsMirroredBy (changes mirrored : Changes) : Prop where
  /-- What is for files was for the store. -/
  toFiles : mirrored.toFiles.Perm changes.toBeads
  /-- What is for the store was for files. -/
  toBeads : mirrored.toBeads.Perm changes.toFiles
  /-- The conflicts are the same, with the two values of every facet exchanged. -/
  conflicts : (mirrored.conflicts.map fun conflict => (conflict.id, conflict.fields)).Perm
    (changes.conflicts.map fun conflict =>
      (conflict.id, conflict.fields.map fun (facet, ofBeads, ofFile) => (facet, ofFile, ofBeads)))
  /-- What the store alone has was in files alone. -/
  beadsOnly : mirrored.beadsOnly = changes.filesOnly
  /-- What files alone have was in the store alone. -/
  filesOnly : mirrored.filesOnly = changes.beadsOnly

/-- Differences with the same members in every list. -/
structure IsRearrangedBy (changes rearranged : Changes) : Prop where
  /-- The same copies are for files. -/
  toFiles : rearranged.toFiles.Perm changes.toFiles
  /-- The same copies are for the store. -/
  toBeads : rearranged.toBeads.Perm changes.toBeads
  /-- The same copies are in conflict. -/
  conflicts : rearranged.conflicts.Perm changes.conflicts
  /-- The store alone has the same identifiers. -/
  beadsOnly : rearranged.beadsOnly.Perm changes.beadsOnly
  /-- Files alone have the same identifiers. -/
  filesOnly : rearranged.filesOnly.Perm changes.filesOnly

end Changes

namespace Issue

variable {id : Text} {issues others : List Issue}

/-- The issue with an identifier does not depend on the order, if none is repeated. -/
theorem lastWithId?_perm (distinct : (issues.map Issue.id).Nodup) (same : others.Perm issues) :
    lastWithId? id others = lastWithId? id issues := by
  have otherDistinct : (others.map Issue.id).Nodup := (same.map Issue.id).nodup_iff.mpr distinct
  apply Option.ext
  intro issue
  rw [lastWithId?_eq_some distinct, lastWithId?_eq_some otherDistinct, same.mem_iff]

end Issue

namespace ReconcileOptions

open Changes

variable {options : ReconcileOptions} {beadsIssues fileIssues : List Issue} {id : Text}
  {issue beads file : Issue}

/-- The bucket of an issue with its copies in the store and in a file. -/
def bucketOf? (options : ReconcileOptions) : (beads file : Option Issue) → Option Bucket
  | none, none => none
  | some _, none => some .toFiles
  | none, some _ => some .toBeads
  | some beads, some file =>
    if (Facet.differing beads file).isEmpty then none
    else
      match winner (Stamp.ofOptional? options.lastAgreedAt) options.window (changeTime beads)
        (changeTime file) with
      | some .beads => some .toFiles
      | some .file => some .toBeads
      | none => some .conflicts

/-- The bucket of an identifier. -/
def bucket? (options : ReconcileOptions) (beadsIssues fileIssues : List Issue) (id : Text) :
    Option Bucket :=
  options.bucketOf? (Issue.lastWithId? id beadsIssues) (Issue.lastWithId? id fileIssues)

/-- Exchanged copies are sorted into the mirrored bucket. -/
theorem bucketOf?_mirrored (beads file : Option Issue) :
    options.bucketOf? file beads = (options.bucketOf? beads file).map Bucket.mirrored := by
  cases beads with
  | none => cases file <;> rfl
  | some beads =>
      cases file with
      | none => rfl
      | some file =>
          unfold bucketOf?
          dsimp only
          rw [Facet.differing_comm, winner_mirrored]
          split_ifs
          · rfl
          · cases winner (Stamp.ofOptional? options.lastAgreedAt) options.window (changeTime beads)
              (changeTime file) with
            | none => rfl
            | some side => cases side <;> rfl

/-- So is every identifier when both sides are exchanged. -/
theorem bucket?_mirrored : options.bucket? fileIssues beadsIssues id =
    (options.bucket? beadsIssues fileIssues id).map Bucket.mirrored :=
  bucketOf?_mirrored _ _

/-- The bucket that a verdict on a file means. -/
theorem bucketOf?_eq_verdict (beadsIssues : List Issue) (file : Issue) :
    options.bucketOf? (Issue.lastWithId? file.id beadsIssues) (some file) =
      match options.verdict beadsIssues file with
      | .fileOnly | .fileNewer => some .toBeads
      | .beadsNewer _ => some .toFiles
      | .conflicting _ => some .conflicts
      | .agreed => none := by
  cases stored : Issue.lastWithId? file.id beadsIssues with
  | none =>
      rw [verdict_of_absent stored]
      rfl
  | some beads =>
      rw [verdict_of_present stored]
      unfold bucketOf?
      dsimp only
      split_ifs
      · rfl
      · cases winner (Stamp.ofOptional? options.lastAgreedAt) options.window (changeTime beads)
          (changeTime file) with
        | none => rfl
        | some side => cases side <;> rfl

section Distinct

variable (filesDistinct : (fileIssues.map Issue.id).Nodup)
include filesDistinct

/-- An issue of the files is sorted by its own copy, if no identifier is repeated there. -/
theorem bucket?_of_file (present : file ∈ fileIssues) :
    options.bucket? beadsIssues fileIssues file.id =
      options.bucketOf? (Issue.lastWithId? file.id beadsIssues) (some file) := by
  have own : Issue.lastWithId? file.id fileIssues = some file :=
    (Issue.lastWithId?_eq_some filesDistinct).mpr ⟨present, rfl⟩
  rw [bucket?, own]

/-- Listed to be sent to the store are the files' issues that are sorted so. -/
theorem mem_toBeads : file ∈ (options.changes beadsIssues fileIssues).toBeads ↔
    file ∈ fileIssues ∧ options.bucket? beadsIssues fileIssues file.id = some .toBeads := by
  rw [changes_toBeads, List.mem_filter]
  refine and_congr_right fun present => ?_
  rw [bucket?_of_file filesDistinct present, bucketOf?_eq_verdict]
  cases options.verdict beadsIssues file <;> simp

/-- Listed to be sent to files are the store's issues that are sorted so. -/
theorem mem_toFiles (beadsDistinct : (beadsIssues.map Issue.id).Nodup) :
    beads ∈ (options.changes beadsIssues fileIssues).toFiles ↔
      beads ∈ beadsIssues ∧
        options.bucket? beadsIssues fileIssues beads.id = some .toFiles := by
  rw [changes_toFiles, List.mem_append, List.mem_filter]
  constructor
  · rintro (newer | ⟨present, unfiled⟩)
    · obtain ⟨file, filePresent, found⟩ := mem_pulled.mp newer
      obtain ⟨present, same⟩ := Issue.of_lastWithId? (stored_of_verdict (.inl found))
      rw [same, bucket?_of_file filesDistinct filePresent, bucketOf?_eq_verdict, found]
      exact ⟨present, rfl⟩
    · have own : Issue.lastWithId? beads.id beadsIssues = some beads :=
        (Issue.lastWithId?_eq_some beadsDistinct).mpr ⟨present, rfl⟩
      have absent : Issue.lastWithId? beads.id fileIssues = none :=
        Issue.lastWithId?_eq_none_iff_hasId.mpr (by simpa using unfiled)
      rw [bucket?, own, absent]
      exact ⟨present, rfl⟩
  · rintro ⟨present, sorted⟩
    cases filed : Issue.lastWithId? beads.id fileIssues with
    | none =>
        have absent := Issue.lastWithId?_eq_none_iff_hasId.mp filed
        exact .inr ⟨present, by rw [absent]; rfl⟩
    | some file =>
        obtain ⟨filePresent, same⟩ := Issue.of_lastWithId? filed
        have own : Issue.lastWithId? file.id beadsIssues = some beads :=
          (Issue.lastWithId?_eq_some beadsDistinct).mpr ⟨present, same.symm⟩
        rw [← same, bucket?_of_file filesDistinct filePresent, bucketOf?_eq_verdict] at sorted
        refine .inl (mem_pulled.mpr ⟨file, filePresent, ?_⟩)
        cases found : options.verdict beadsIssues file with
        | beadsNewer other =>
            have stored := stored_of_verdict (.inl found)
            rw [Option.some.inj (own.symm.trans stored)]
        | _ =>
            rw [found] at sorted
            cases sorted

/-- A conflict is about two copies with one identifier that is sorted as a conflict, and it is
resolved by the strategy. -/
theorem mem_conflicts_iff (beadsDistinct : (beadsIssues.map Issue.id).Nodup)
    {conflict : Conflict} :
    conflict ∈ (options.changes beadsIssues fileIssues).conflicts ↔
      conflict.beads ∈ beadsIssues ∧ conflict.file ∈ fileIssues ∧
        conflict.beads.id = conflict.file.id ∧
        options.bucket? beadsIssues fileIssues conflict.id = some .conflicts ∧
        conflict.resolution = resolve options.strategy conflict.beads conflict.file := by
  rw [mem_conflicts]
  constructor
  · rintro ⟨file, filePresent, beads, found, rfl⟩
    obtain ⟨present, same⟩ := Issue.of_lastWithId? (stored_of_verdict (.inr found))
    refine ⟨present, filePresent, same, ?_, rfl⟩
    change options.bucket? beadsIssues fileIssues file.id = _
    rw [bucket?_of_file filesDistinct filePresent, bucketOf?_eq_verdict, found]
  · obtain ⟨beads, file, resolution⟩ := conflict
    rintro ⟨present, filePresent, same, sorted, resolved⟩
    dsimp only at present filePresent same resolved
    change options.bucket? beadsIssues fileIssues file.id = _ at sorted
    have own : Issue.lastWithId? file.id beadsIssues = some beads :=
      (Issue.lastWithId?_eq_some beadsDistinct).mpr ⟨present, same⟩
    rw [bucket?_of_file filesDistinct filePresent, bucketOf?_eq_verdict] at sorted
    refine ⟨file, filePresent, beads, ?_, by rw [resolved]⟩
    cases found : options.verdict beadsIssues file with
    | conflicting other =>
        have stored := stored_of_verdict (.inr found)
        rw [Option.some.inj (own.symm.trans stored)]
    | _ =>
        rw [found] at sorted
        cases sorted

end Distinct

/-- What is sent to files is in the store. -/
theorem exists_of_toFiles {beads file : Option Issue}
    (sorted : options.bucketOf? beads file = some .toFiles) : ∃ issue, beads = some issue := by
  cases beads with
  | none => cases file <;> cases sorted
  | some issue => exact ⟨issue, rfl⟩

/-- What is in conflict is on both sides. -/
theorem exists_of_conflicts {beads file : Option Issue}
    (sorted : options.bucketOf? beads file = some .conflicts) :
    ∃ stored filed, beads = some stored ∧ file = some filed := by
  cases beads with
  | none => cases file <;> cases sorted
  | some stored =>
      cases file with
      | none => cases sorted
      | some filed => exact ⟨stored, filed, rfl, rfl⟩

/-- An identifier without a bucket is on neither side, or its copies agree. -/
theorem bucketOf?_eq_none {beads file : Option Issue} :
    options.bucketOf? beads file = none ↔ (beads = none ∧ file = none) ∨
      ∃ stored filed, beads = some stored ∧ file = some filed ∧
        Facet.differing stored filed = [] := by
  cases beads with
  | none => cases file <;> simp [bucketOf?]
  | some stored =>
      cases file with
      | none => simp [bucketOf?]
      | some filed =>
          have apart : ∀ verdict : Option Side, (match verdict with
              | some .beads => some Bucket.toFiles
              | some .file => some .toBeads
              | none => some .conflicts) ≠ none := by
            intro verdict
            cases verdict with
            | none => simp
            | some side => cases side <;> simp
          by_cases agreed : Facet.differing stored filed = []
          · simp [bucketOf?, agreed]
          · simp [bucketOf?, agreed, apart]

/-- The identifiers sent to the store are those that are sorted so. -/
theorem mem_ids_toBeads (filesDistinct : (fileIssues.map Issue.id).Nodup) :
    id ∈ (options.changes beadsIssues fileIssues).toBeads.map Issue.id ↔
      options.bucket? beadsIssues fileIssues id = some .toBeads := by
  rw [List.mem_map]
  constructor
  · rintro ⟨file, listed, rfl⟩
    exact ((mem_toBeads filesDistinct).mp listed).2
  · intro sorted
    have other : options.bucket? fileIssues beadsIssues id = some .toFiles := by
      rw [bucket?_mirrored, sorted]
      rfl
    obtain ⟨file, filed⟩ := exists_of_toFiles other
    obtain ⟨present, rfl⟩ := Issue.of_lastWithId? filed
    exact ⟨file, (mem_toBeads filesDistinct).mpr ⟨present, sorted⟩, rfl⟩

section BothDistinct

variable (beadsDistinct : (beadsIssues.map Issue.id).Nodup)
  (filesDistinct : (fileIssues.map Issue.id).Nodup)
include beadsDistinct filesDistinct

/-- The identifiers sent to files are those that are sorted so. -/
theorem mem_ids_toFiles : id ∈ (options.changes beadsIssues fileIssues).toFiles.map Issue.id ↔
    options.bucket? beadsIssues fileIssues id = some .toFiles := by
  rw [List.mem_map]
  constructor
  · rintro ⟨beads, listed, rfl⟩
    exact ((mem_toFiles filesDistinct beadsDistinct).mp listed).2
  · intro sorted
    obtain ⟨beads, stored⟩ := exists_of_toFiles sorted
    obtain ⟨present, rfl⟩ := Issue.of_lastWithId? stored
    exact ⟨beads, (mem_toFiles filesDistinct beadsDistinct).mpr ⟨present, sorted⟩, rfl⟩

/-- The identifiers in conflict are those that are sorted so. -/
theorem mem_ids_conflicts :
    id ∈ (options.changes beadsIssues fileIssues).conflicts.map Conflict.id ↔
      options.bucket? beadsIssues fileIssues id = some .conflicts := by
  rw [List.mem_map]
  constructor
  · rintro ⟨conflict, listed, rfl⟩
    exact ((mem_conflicts_iff filesDistinct beadsDistinct).mp listed).2.2.2.1
  · intro sorted
    obtain ⟨beads, file, stored, filed⟩ := exists_of_conflicts sorted
    obtain ⟨present, same⟩ := Issue.of_lastWithId? stored
    obtain ⟨filePresent, rfl⟩ := Issue.of_lastWithId? filed
    refine ⟨⟨beads, file, resolve options.strategy beads file⟩, ?_, rfl⟩
    exact (mem_conflicts_iff filesDistinct beadsDistinct).mpr
      ⟨present, filePresent, same, sorted, rfl⟩

end BothDistinct

/-! ## Identifiers of a bucket -/

/-- What is sent along a list carries keys of the list in order. -/
theorem map_filterMap_sublist {Item Sent : Type} {send : Item → Option Sent} {own : Item → Text}
    {key : Sent → Text} (same : ∀ item sent, send item = some sent → key sent = own item)
    (items : List Item) : ((items.filterMap send).map key).Sublist (items.map own) := by
  induction items with
  | nil => exact .slnil
  | cons item items inductionHypothesis =>
      rw [List.filterMap_cons, List.map_cons]
      cases sent : send item with
      | none => exact inductionHypothesis.cons _
      | some value =>
          rw [List.map_cons, same item value sent]
          exact inductionHypothesis.cons_cons _

/-- No identifier is sent to the store twice. -/
theorem nodup_ids_toBeads (filesDistinct : (fileIssues.map Issue.id).Nodup) :
    ((options.changes beadsIssues fileIssues).toBeads.map Issue.id).Nodup := by
  rw [changes_toBeads]
  exact (List.filter_sublist.map Issue.id).nodup filesDistinct

/-- None is sent to files twice. -/
theorem nodup_ids_toFiles (beadsDistinct : (beadsIssues.map Issue.id).Nodup)
    (filesDistinct : (fileIssues.map Issue.id).Nodup) :
    ((options.changes beadsIssues fileIssues).toFiles.map Issue.id).Nodup := by
  have pulledIds : ((options.pulled beadsIssues fileIssues).map Issue.id).Sublist
      (fileIssues.map Issue.id) := by
    apply map_filterMap_sublist
    intro file beads taken
    have found : options.verdict beadsIssues file = .beadsNewer beads := by
      revert taken
      cases options.verdict beadsIssues file <;> simp [pulled?]
    exact (Issue.of_lastWithId? (stored_of_verdict (.inl found))).2
  rw [changes_toFiles, List.map_append, List.nodup_append]
  refine ⟨pulledIds.nodup filesDistinct, (List.filter_sublist.map Issue.id).nodup beadsDistinct, ?_⟩
  -- A newer copy has a file, and the others have none.
  rintro newer pulled unfiled listed rfl
  obtain ⟨beads, kept, rfl⟩ := List.mem_map.mp listed
  obtain ⟨file, present, same⟩ := List.mem_map.mp (pulledIds.subset pulled)
  have absent : Issue.hasId beads.id fileIssues = false := by
    simpa using (List.mem_filter.mp kept).2
  rw [← same, Issue.hasId_of_mem present] at absent
  cases absent

/-- None is in conflict twice. -/
theorem nodup_ids_conflicts (filesDistinct : (fileIssues.map Issue.id).Nodup) :
    ((options.changes beadsIssues fileIssues).conflicts.map Conflict.id).Nodup := by
  change ((List.filterMap _ (fileIssues.map _)).map Conflict.id).Nodup
  rw [List.filterMap_map]
  refine (map_filterMap_sublist (fun file conflict found => ?_) fileIssues).nodup filesDistinct
  dsimp only [Function.comp] at found
  revert found
  cases judge beadsIssues (Stamp.ofOptional? options.lastAgreedAt) options.window file <;>
    simp [conflict?]
  rintro rfl
  rfl

/-- No two conflicts are about the same copies. -/
theorem nodup_copies (filesDistinct : (fileIssues.map Issue.id).Nodup) :
    ((options.changes beadsIssues fileIssues).conflicts.map
      Conflict.copies).Nodup := by
  apply List.Nodup.of_map fun copies : Issue × Issue => copies.2.id
  rw [List.map_map]
  exact nodup_ids_conflicts filesDistinct

/-- Only in the store are its issues without a file, in its order. -/
theorem changes_beadsOnly (options : ReconcileOptions) (beadsIssues fileIssues : List Issue) :
    (options.changes beadsIssues fileIssues).beadsOnly =
      (beadsIssues.filter fun beads => !Issue.hasId beads.id fileIssues).map Issue.id :=
  rfl

/-- Only in files are their issues without a copy in the store, in their order. -/
theorem changes_filesOnly (options : ReconcileOptions) (beadsIssues fileIssues : List Issue) :
    (options.changes beadsIssues fileIssues).filesOnly =
      (fileIssues.filter fun file => !Issue.hasId file.id beadsIssues).map Issue.id := by
  change ((fileIssues.map fun file => (file, options.verdict beadsIssues file)).filter
    fun judged => judged.2 == .fileOnly).map (fun judged => judged.1.id) = _
  rw [List.filter_map, List.map_map]
  refine congrArg (List.map Issue.id) (List.filter_congr fun file _ => ?_)
  dsimp only [Function.comp]
  rw [Bool.eq_iff_iff, beq_iff_eq, verdict_eq_fileOnly, Bool.not_eq_true']

/-! ## The partition -/

section BothDistinct

variable (beadsDistinct : (beadsIssues.map Issue.id).Nodup)
  (filesDistinct : (fileIssues.map Issue.id).Nodup)
include beadsDistinct filesDistinct

/-- An identifier is listed exactly when it is sorted into a bucket. -/
theorem mem_ids_changes : id ∈ (options.changes beadsIssues fileIssues).ids ↔
    options.bucket? beadsIssues fileIssues id ≠ none := by
  rw [ids, List.mem_append, List.mem_append, mem_ids_toFiles beadsDistinct filesDistinct,
    mem_ids_toBeads filesDistinct, mem_ids_conflicts beadsDistinct filesDistinct]
  cases options.bucket? beadsIssues fileIssues id with
  | none => simp
  | some bucket => cases bucket <;> simp

/-- It is listed once. -/
theorem nodup_ids_changes : (options.changes beadsIssues fileIssues).ids.Nodup := by
  rw [ids, List.nodup_append, List.nodup_append]
  refine ⟨nodup_ids_toFiles beadsDistinct filesDistinct,
    ⟨nodup_ids_toBeads filesDistinct, nodup_ids_conflicts filesDistinct, ?_⟩, ?_⟩
  · rintro id pushed other conflicting rfl
    rw [mem_ids_toBeads filesDistinct] at pushed
    rw [mem_ids_conflicts beadsDistinct filesDistinct, pushed] at conflicting
    cases conflicting
  · rintro id pulled other sorted rfl
    rw [mem_ids_toFiles beadsDistinct filesDistinct] at pulled
    rw [List.mem_append, mem_ids_toBeads filesDistinct,
      mem_ids_conflicts beadsDistinct filesDistinct, pulled] at sorted
    rcases sorted with sorted | sorted <;> cases sorted

/-- What changed is told by a partition of the identifiers of both sides. -/
theorem isPartition_changes :
    (options.changes beadsIssues fileIssues).IsPartition beadsIssues fileIssues where
  distinct := nodup_ids_changes beadsDistinct filesDistinct
  ofBeads := fun _ listed => ((mem_toFiles filesDistinct beadsDistinct).mp listed).1
  ofFiles := fun _ listed => ((mem_toBeads filesDistinct).mp listed).1
  ofBoth := by
    intro conflict listed
    obtain ⟨stored, filed, same, -⟩ := (mem_conflicts_iff filesDistinct beadsDistinct).mp listed
    exact ⟨stored, filed, same⟩
  unsorted := by
    intro id known
    rw [mem_ids_changes beadsDistinct filesDistinct, not_not, bucket?, bucketOf?_eq_none]
    constructor
    · rintro (⟨unstored, unfiled⟩ | ⟨beads, file, stored, filed, agreed⟩)
      · -- An identifier that neither side has is not among the known ones.
        rw [List.mem_append, List.mem_map, List.mem_map] at known
        rcases known with ⟨issue, present, same⟩ | ⟨issue, present, same⟩
        · exact absurd same (Issue.lastWithId?_eq_none.mp unstored issue present)
        · exact absurd same (Issue.lastWithId?_eq_none.mp unfiled issue present)
      · obtain ⟨present, same⟩ := Issue.of_lastWithId? stored
        obtain ⟨filePresent, fileSame⟩ := Issue.of_lastWithId? filed
        exact ⟨beads, present, file, filePresent, same, fileSame, agreed⟩
    · rintro ⟨beads, present, file, filePresent, same, fileSame, agreed⟩
      exact .inr ⟨beads, file, (Issue.lastWithId?_eq_some beadsDistinct).mpr ⟨present, same⟩,
        (Issue.lastWithId?_eq_some filesDistinct).mpr ⟨filePresent, fileSame⟩, agreed⟩
  beadsOnly := by
    constructor
    · rw [changes_beadsOnly]
      exact (List.filter_sublist.map Issue.id).nodup beadsDistinct
    · intro id
      rw [mem_beadsOnly, Issue.hasId_iff, Issue.hasId_eq_false]
      simp
  filesOnly := by
    constructor
    · rw [changes_filesOnly]
      exact (List.filter_sublist.map Issue.id).nodup filesDistinct
    · intro id
      rw [mem_filesOnly, Issue.hasId_iff, Issue.hasId_eq_false]
      simp
  beadsOnly_subset := by
    rw [changes_beadsOnly, changes_toFiles, List.map_append]
    exact List.subset_append_right _ _
  filesOnly_subset := by
    intro id only
    obtain ⟨filed, unstored⟩ := mem_filesOnly.mp only
    obtain ⟨file, present, rfl⟩ := Issue.hasId_iff.mp filed
    have pushed : file ∈ (options.changes beadsIssues fileIssues).toBeads := by
      rw [changes_toBeads, List.mem_filter]
      exact ⟨present, decide_eq_true (.inl (verdict_eq_fileOnly.mpr unstored))⟩
    exact List.mem_map_of_mem pushed

/-- The bucket of two copies that differ, where the last agreement is known. -/
theorem bucket?_of_areApart {point : Stamp}
    (known : Stamp.ofOptional? options.lastAgreedAt = some point) (present : beads ∈ beadsIssues)
    (filePresent : file ∈ fileIssues) (apart : AreApart beads file) :
    options.bucket? beadsIssues fileIssues file.id =
      match changedAfter point (changeTime beads), changedAfter point (changeTime file) with
      | true, true => some .conflicts
      | true, false => some .toFiles
      | false, true => some .toBeads
      | false, false => options.bucketOf? (some beads) (some file) := by
  have own : Issue.lastWithId? file.id beadsIssues = some beads :=
    (Issue.lastWithId?_eq_some beadsDistinct).mpr ⟨present, apart.same⟩
  rw [bucket?_of_file filesDistinct filePresent, own]
  have differ : (Facet.differing beads file).isEmpty = false := by simpa using apart.differ
  cases inBeads : changedAfter point (changeTime beads) <;>
    cases inFile : changedAfter point (changeTime file) <;>
      simp [bucketOf?, differ, winner, known, inBeads, inFile]

/-- With a time of agreement, what changed follows from the times since then. -/
theorem followsPoint_changes {point : Stamp}
    (known : Stamp.ofOptional? options.lastAgreedAt = some point) :
    (options.changes beadsIssues fileIssues).FollowsPoint point beadsIssues fileIssues where
  inBeads := by
    intro beads present file filePresent apart inBeads inFile
    rw [mem_toFiles filesDistinct beadsDistinct, apart.same,
      bucket?_of_areApart beadsDistinct filesDistinct known present filePresent apart, inBeads,
      inFile]
    exact ⟨present, rfl⟩
  inFile := by
    intro beads present file filePresent apart inBeads inFile
    rw [mem_toBeads filesDistinct,
      bucket?_of_areApart beadsDistinct filesDistinct known present filePresent apart, inBeads,
      inFile]
    exact ⟨filePresent, rfl⟩
  inBoth := by
    intro beads present file filePresent apart inBeads inFile
    refine ⟨⟨beads, file, resolve options.strategy beads file⟩, ?_, rfl, rfl⟩
    rw [mem_conflicts_iff filesDistinct beadsDistinct]
    refine ⟨present, filePresent, apart.same, ?_, rfl⟩
    have sorted := bucket?_of_areApart beadsDistinct filesDistinct known present filePresent apart
    rw [inBeads, inFile] at sorted
    exact sorted

/-! ## The sides exchanged -/

/-- When both sides are exchanged, what was sent to the store is sent to files. -/
theorem toFiles_mirrored : (options.changes fileIssues beadsIssues).toFiles.Perm
    (options.changes beadsIssues fileIssues).toBeads := by
  rw [List.perm_ext_iff_of_nodup ((nodup_ids_toFiles filesDistinct beadsDistinct).of_map)
    ((nodup_ids_toBeads filesDistinct).of_map)]
  intro issue
  rw [mem_toFiles beadsDistinct filesDistinct, mem_toBeads filesDistinct, bucket?_mirrored]
  refine and_congr_right fun _ => ?_
  cases options.bucket? beadsIssues fileIssues issue.id with
  | none => simp
  | some bucket => cases bucket <;> simp [Bucket.mirrored]

/-- The copies in conflict are those of both sides with one identifier that is sorted so. -/
theorem mem_copies {copies : Issue × Issue} :
    copies ∈ (options.changes beadsIssues fileIssues).conflicts.map Conflict.copies ↔
      copies.1 ∈ beadsIssues ∧ copies.2 ∈ fileIssues ∧ copies.1.id = copies.2.id ∧
        options.bucket? beadsIssues fileIssues copies.2.id = some .conflicts := by
  obtain ⟨beads, file⟩ := copies
  rw [List.mem_map]
  constructor
  · rintro ⟨conflict, listed, rfl, rfl⟩
    obtain ⟨present, filePresent, same, sorted, -⟩ :=
      (mem_conflicts_iff filesDistinct beadsDistinct).mp listed
    exact ⟨present, filePresent, same, sorted⟩
  · rintro ⟨present, filePresent, same, sorted⟩
    refine ⟨⟨beads, file, resolve options.strategy beads file⟩, ?_, rfl⟩
    exact (mem_conflicts_iff filesDistinct beadsDistinct).mpr
      ⟨present, filePresent, same, sorted, rfl⟩

/-- Conflicts hold the same copies on exchanged sides. -/
theorem copies_mirrored :
    ((options.changes fileIssues beadsIssues).conflicts.map Conflict.copies).Perm
      (((options.changes beadsIssues fileIssues).conflicts.map Conflict.copies).map Prod.swap) := by
  have distinct : (((options.changes beadsIssues fileIssues).conflicts.map
      Conflict.copies).map Prod.swap).Nodup :=
    (nodup_copies filesDistinct).map Prod.swap_injective
  rw [List.perm_ext_iff_of_nodup (nodup_copies beadsDistinct) distinct]
  intro copies
  have swapped : copies ∈ ((options.changes beadsIssues fileIssues).conflicts.map
      Conflict.copies).map Prod.swap ↔ copies.swap ∈
        (options.changes beadsIssues fileIssues).conflicts.map Conflict.copies :=
    List.mem_map_of_injective (a := copies.swap) Prod.swap_injective
  rw [swapped, mem_copies filesDistinct beadsDistinct, mem_copies beadsDistinct filesDistinct,
    Prod.fst_swap, Prod.snd_swap]
  constructor
  · rintro ⟨filed, stored, same, sorted⟩
    rw [bucket?_mirrored, same.symm] at sorted
    refine ⟨stored, filed, same.symm, ?_⟩
    cases found : options.bucket? beadsIssues fileIssues copies.1.id with
    | none => simp [found] at sorted
    | some bucket => cases bucket <;> simp_all [Bucket.mirrored]
  · rintro ⟨stored, filed, same, sorted⟩
    refine ⟨filed, stored, same.symm, ?_⟩
    rw [bucket?_mirrored, same, sorted]
    rfl

/-- When both sides are exchanged, all lists are. -/
theorem isMirroredBy_changes : (options.changes beadsIssues fileIssues).IsMirroredBy
    (options.changes fileIssues beadsIssues) where
  toFiles := toFiles_mirrored beadsDistinct filesDistinct
  toBeads := (toFiles_mirrored filesDistinct beadsDistinct).symm
  conflicts := by
    have same : (((options.changes fileIssues beadsIssues).conflicts.map Conflict.copies).map
        fun copies => (copies.2.id, Conflict.fieldsOf copies)).Perm _ :=
      (copies_mirrored beadsDistinct filesDistinct).map _
    simp only [List.map_map] at same
    refine same.trans (List.Perm.of_eq (List.map_congr_left fun conflict listed => ?_))
    obtain ⟨-, -, sameId, -⟩ := (mem_conflicts_iff filesDistinct beadsDistinct).mp listed
    dsimp only [Function.comp]
    rw [Conflict.fieldsOf_swap]
    exact Prod.ext sameId rfl
  beadsOnly := by rw [changes_beadsOnly, changes_filesOnly]
  filesOnly := by rw [changes_beadsOnly, changes_filesOnly]

/-! ## The order of either side -/

variable {beadsOthers fileOthers : List Issue} (sameBeads : beadsOthers.Perm beadsIssues)
  (sameFiles : fileOthers.Perm fileIssues)
include sameBeads sameFiles

/-- An identifier is sorted the same way whatever the order of both sides. -/
theorem bucket?_rearranged : options.bucket? beadsOthers fileOthers id =
    options.bucket? beadsIssues fileIssues id := by
  rw [bucket?, bucket?, Issue.lastWithId?_perm beadsDistinct sameBeads,
    Issue.lastWithId?_perm filesDistinct sameFiles]

/-- In another order of both sides, all lists are the same up to their order. -/
theorem isRearrangedBy_changes : (options.changes beadsIssues fileIssues).IsRearrangedBy
    (options.changes beadsOthers fileOthers) := by
  have othersDistinct : (beadsOthers.map Issue.id).Nodup :=
    (sameBeads.map Issue.id).nodup_iff.mpr beadsDistinct
  have fileOthersDistinct : (fileOthers.map Issue.id).Nodup :=
    (sameFiles.map Issue.id).nodup_iff.mpr filesDistinct
  have rearranged : ∀ id, options.bucket? beadsOthers fileOthers id =
      options.bucket? beadsIssues fileIssues id := fun id =>
    bucket?_rearranged beadsDistinct filesDistinct sameBeads sameFiles
  have parted : (options.changes beadsIssues fileIssues).IsPartition beadsIssues fileIssues :=
    isPartition_changes beadsDistinct filesDistinct
  have othersParted :
      (options.changes beadsOthers fileOthers).IsPartition beadsOthers fileOthers :=
    isPartition_changes othersDistinct fileOthersDistinct
  -- All lists are free of repetition, so the same members make a permutation.
  constructor
  case toFiles =>
    rw [List.perm_ext_iff_of_nodup (nodup_ids_toFiles othersDistinct fileOthersDistinct).of_map
      (nodup_ids_toFiles beadsDistinct filesDistinct).of_map]
    intro issue
    rw [mem_toFiles fileOthersDistinct othersDistinct, mem_toFiles filesDistinct beadsDistinct,
      sameBeads.mem_iff, rearranged]
  case toBeads =>
    rw [List.perm_ext_iff_of_nodup (nodup_ids_toBeads fileOthersDistinct).of_map
      (nodup_ids_toBeads filesDistinct).of_map]
    intro issue
    rw [mem_toBeads fileOthersDistinct, mem_toBeads filesDistinct, sameFiles.mem_iff, rearranged]
  case conflicts =>
    rw [List.perm_ext_iff_of_nodup (nodup_ids_conflicts fileOthersDistinct).of_map
      (nodup_ids_conflicts filesDistinct).of_map]
    intro conflict
    rw [mem_conflicts_iff fileOthersDistinct othersDistinct,
      mem_conflicts_iff filesDistinct beadsDistinct, sameBeads.mem_iff, sameFiles.mem_iff,
      rearranged]
  case beadsOnly =>
    rw [List.perm_ext_iff_of_nodup othersParted.beadsOnly.1 parted.beadsOnly.1]
    intro id
    rw [othersParted.beadsOnly.2, parted.beadsOnly.2, (sameBeads.map Issue.id).mem_iff,
      (sameFiles.map Issue.id).mem_iff]
  case filesOnly =>
    rw [List.perm_ext_iff_of_nodup othersParted.filesOnly.1 parted.filesOnly.1]
    intro id
    rw [othersParted.filesOnly.2, parted.filesOnly.2, (sameBeads.map Issue.id).mem_iff,
      (sameFiles.map Issue.id).mem_iff]

end BothDistinct

/-- Differences partition what is on either side, follow the last agreement, and depend neither
on which side is which nor on the order of a side. -/
theorem changes_isPartition (options : ReconcileOptions) (beadsIssues fileIssues : List Issue)
    (beadsDistinct : (beadsIssues.map Issue.id).Nodup)
    (filesDistinct : (fileIssues.map Issue.id).Nodup) :
    let changes := options.changes beadsIssues fileIssues
    changes.IsPartition beadsIssues fileIssues ∧
      (∀ point, Stamp.ofOptional? options.lastAgreedAt = some point →
        changes.FollowsPoint point beadsIssues fileIssues) ∧
      changes.IsMirroredBy (options.changes fileIssues beadsIssues) ∧
      ∀ beadsOthers fileOthers, beadsOthers.Perm beadsIssues → fileOthers.Perm fileIssues →
        changes.IsRearrangedBy (options.changes beadsOthers fileOthers) := by
  intro changes
  refine ⟨isPartition_changes beadsDistinct filesDistinct, fun point known => ?_,
    isMirroredBy_changes beadsDistinct filesDistinct, fun beadsOthers fileOthers => ?_⟩
  · exact followsPoint_changes beadsDistinct filesDistinct known
  · exact isRearrangedBy_changes beadsDistinct filesDistinct

/-- A copy of an issue with its title and when it changed. -/
def dated (id title updatedAt : Text) : Issue :=
  { Book.titled id title with updatedAt := some updatedAt }

/-- Both sides agreed last on the second day of a year. -/
def agreedBefore : ReconcileOptions :=
  { ReconcileOptions.ofRoot ⟨.root, ["p"]⟩ with lastAgreedAt := some "2024-01-02T00:00:00Z" }

/-- The store changed the first issue and the third, and alone has the fourth. -/
def datedBeads : List Issue :=
  [dated "1" "A" "2024-01-03T00:00:00Z", dated "2" "B" "2024-01-01T00:00:00Z",
    dated "3" "C" "2024-01-03T00:00:00Z", dated "4" "D" "2024-01-01T00:00:00Z",
    dated "6" "F" "2024-01-03T00:00:00Z"]

/-- Files changed the second issue and the third, and alone have the fifth. -/
def datedFiles : List Issue :=
  [dated "6" "F" "2024-01-01T00:00:00Z", dated "5" "E" "2024-01-03T00:00:00Z",
    dated "3" "c" "2024-01-04T00:00:00Z", dated "2" "b" "2024-01-03T00:00:00Z",
    dated "1" "a" "2024-01-01T00:00:00Z"]

/-- The partition of two dated collections. -/
theorem dated_isPartition :
    let changes := agreedBefore.changes datedBeads datedFiles
    changes.toFiles.map Issue.id = ["1", "4"] ∧ changes.toBeads.map Issue.id = ["5", "2"] ∧
      changes.conflicts.map Conflict.id = ["3"] ∧ changes.IsPartition datedBeads datedFiles ∧
      (∀ point, Stamp.ofOptional? agreedBefore.lastAgreedAt = some point →
        changes.FollowsPoint point datedBeads datedFiles) ∧
      changes.IsMirroredBy (agreedBefore.changes datedFiles datedBeads) ∧
      changes.IsRearrangedBy (agreedBefore.changes datedBeads.reverse datedFiles) := by
  obtain ⟨parted, followed, mirrored, rearranged⟩ :=
    changes_isPartition agreedBefore datedBeads datedFiles (by decide +kernel) (by decide +kernel)
  refine ⟨by decide +kernel, by decide +kernel, by decide +kernel, parted, followed, mirrored, ?_⟩
  exact rearranged _ _ datedBeads.reverse_perm (.refl _)

end ReconcileOptions

end Issuebook