import Issuebook.Proofs.Value.Differences

/-!
# Merged records

What a record is after updates are merged into it. Merging the same updates again changes nothing
(`merged_merged`). Where no path of one side leads below a path of the other, the leaves are those
of the record, overridden and extended by those of the updates (`isOverridden_merged`). Both
together are `merged_overrides`.
-/

namespace Issuebook.Value

variable {name : Text} {names : List Text} {value update base : Value} {current : Option Value}
  {fields updates : Entries Value} {isName : Text → Prop}

/-- What is merged into nothing is taken as it is. -/
@[simp] theorem mergeValue_none (update : Value) : mergeValue none update = update := by
  cases update <;> rfl

/-- A record merges with a record, and stands in the place of anything else. -/
theorem mergeValue_record (current : Option Value) (updates : Entries Value) :
    (∃ fields, current = some (.record fields) ∧
      mergeValue current (.record updates) = .record (mergeFields fields updates)) ∨
      mergeValue current (.record updates) = .record updates := by
  cases current with
  | none => exact .inr rfl
  | some value =>
      cases value with
      | record fields => exact .inl ⟨fields, rfl, rfl⟩
      | null | bool | int | float | text | list | issue => exact .inr rfl

/-- A record merged into anything is a record. -/
theorem exists_mergeValue (current : Option Value) (updates : Entries Value) :
    ∃ fields, mergeValue current (.record updates) = .record fields := by
  rcases mergeValue_record current updates with ⟨fields, -, merged⟩ | merged
  · exact ⟨_, merged⟩
  · exact ⟨_, merged⟩

/-- What becomes of a name when updates under distinct names are merged into a record. -/
theorem get?_mergeFields {updates : Entries Value} (distinct : updates.keys.Nodup)
    (fields : Entries Value) (name : Text) :
    (mergeFields fields updates).get? name =
      ((updates.get? name).map (mergeValue (fields.get? name))).or (fields.get? name) := by
  induction updates generalizing fields with
  | nil => simp [mergeFields]
  | cons entry updates inductionHypothesis =>
      obtain ⟨key, value⟩ := entry
      obtain ⟨absent, distinct⟩ := List.nodup_cons.mp distinct
      rw [mergeFields, inductionHypothesis distinct, Entries.get?_cons]
      split_ifs with same
      · subst same
        rw [Entries.get?_eq_none updates absent, Entries.get?_put_same]
        rfl
      · rw [Entries.get?_put_other same]

/-! ## Merging again -/

/-- Updates that have been merged in already change nothing. -/
theorem mergeFields_eq_self
    (settled : ∀ entry ∈ updates, ∃ held, fields.get? entry.1 = some held ∧
      mergeValue (some held) entry.2 = held) : mergeFields fields updates = fields := by
  induction updates with
  | nil => rfl
  | cons entry updates inductionHypothesis =>
      obtain ⟨name, update⟩ := entry
      obtain ⟨⟨held, found, same⟩, settled⟩ := List.forall_mem_cons.mp settled
      rw [mergeFields, found, same, Entries.put_of_get? found, inductionHypothesis settled]

/-- Merging an update again changes nothing. -/
theorem mergeValue_mergeValue (nested : update.IsNested isName) (current : Option Value) :
    mergeValue (some (mergeValue current update)) update = mergeValue current update := by
  induction nested generalizing current with
  | @leaf update ends =>
      cases update with
      | record updates =>
          obtain rfl := isLeaf_record.mp ends
          obtain ⟨fields, merged⟩ := exists_mergeValue current []
          rw [merged]
          rfl
      | null | bool | int | float | text | list | issue => rfl
  | @record updates distinct named each inductionHypothesis =>
      have again (fields : Entries Value) :
          mergeFields (mergeFields fields updates) updates = mergeFields fields updates := by
        refine mergeFields_eq_self fun entry listed => ?_
        have own := (Entries.get?_eq_some_iff distinct).mpr listed
        refine ⟨mergeValue (fields.get? entry.1) entry.2, ?_, inductionHypothesis entry listed _⟩
        rw [get?_mergeFields distinct, own]
        rfl
      have alone : mergeFields updates updates = updates := by
        refine mergeFields_eq_self fun entry listed => ?_
        have own := (Entries.get?_eq_some_iff distinct).mpr listed
        refine ⟨entry.2, own, ?_⟩
        simpa using inductionHypothesis entry listed none
      rcases mergeValue_record current updates with ⟨fields, -, merged⟩ | merged
      · rw [merged]
        exact congrArg record (again fields)
      · rw [merged]
        exact congrArg record alone

/-! ## Nested results -/

/-- Nested updates merged into a nested value make a nested value. -/
theorem IsNested.mergeValue (nested : update.IsNested isName)
    (nestedCurrent : ∀ value ∈ current, value.IsNested isName) :
    (mergeValue current update).IsNested isName := by
  induction nested generalizing current with
  | @leaf update ends =>
      cases update with
      | record updates =>
          obtain rfl := isLeaf_record.mp ends
          rcases mergeValue_record current [] with ⟨fields, rfl, merged⟩ | merged
          · rw [merged]
            exact nestedCurrent _ rfl
          · rw [merged]
            exact .leaf ends
      | null | bool | int | float | text | list | issue => exact .leaf ends
  | @record updates distinct named each inductionHypothesis =>
      have fieldwise {fields : Entries Value} (nestedFields : IsNested isName (.record fields)) :
          IsNested isName (.record (mergeFields fields updates)) := by
        clear distinct each
        induction updates generalizing fields with
        | nil => exact nestedFields
        | cons entry updates later =>
            obtain ⟨name, update⟩ := entry
            obtain ⟨namedHere, named⟩ := List.forall_mem_cons.mp named
            obtain ⟨here, inductionHypothesis⟩ := List.forall_mem_cons.mp inductionHypothesis
            refine later named inductionHypothesis (isNested_put nestedFields namedHere ?_)
            exact here fun value held => nestedFields.of_get? held
      rcases mergeValue_record current updates with ⟨fields, rfl, merged⟩ | merged
      · rw [merged]
        exact fieldwise (nestedCurrent _ rfl)
      · rw [merged]
        exact .record distinct named each

/-- Nested records are nested after merging. -/
theorem IsNested.merged (nested : base.plain.IsNested isName)
    (nestedUpdates : (Value.record updates).plain.IsNested isName) :
    (Value.record (base.merged updates)).IsNested isName := by
  have nestedFields : ∀ value ∈ some (Value.record base.plain.fields), value.IsNested isName := by
    rintro _ ⟨⟩
    exact isNested_record.mpr nested.parts
  exact nestedUpdates.mergeValue nestedFields

/-! ## Leaves of the result -/

/-- No names that lead to a leaf of one value lead on to a leaf of the other. -/
def StaysOut (one other : Value) : Prop :=
  ∀ names rest, (leaf? names one).isSome → (leaf? (names ++ rest) other).isSome → rest = []

/-- Values that stay out of one another do so in every field. -/
theorem StaysOut.below {one other : Value} (apart : StaysOut value base)
    (held : value.fields.get? name = some one) (heldBase : base.fields.get? name = some other) :
    StaysOut one other := by
  intro names rest leads leadsOther
  refine apart (name :: names) rest ?_ ?_
  · rwa [leaf?_cons, held, Option.bind_some]
  · rwa [List.cons_append, leaf?_cons, heldBase, Option.bind_some]

/-- What a leaf stays out of is a leaf. -/
theorem StaysOut.isLeaf (apart : StaysOut value base) (ends : value.isLeaf = true)
    (nested : base.IsNested isName) : base.isLeaf = true := by
  obtain ⟨names, found, leads⟩ := nested.exists_leaf
  obtain rfl : names = [] := apart [] names (by simp [ends]) (by simp [leads])
  rw [leaf?_nil] at leads
  split_ifs at leads with endsBase
  exact endsBase

/-- The leaves below a name are those of the update, and else the old ones, if this holds of its
value. -/
theorem leaf?_mergeFields (distinct : updates.keys.Nodup)
    (each : ∀ update, updates.get? name = some update →
      leaf? names (mergeValue (fields.get? name) update) =
        (leaf? names update).or ((fields.get? name).bind (leaf? names))) :
    leaf? (name :: names) (.record (mergeFields fields updates)) =
      (leaf? (name :: names) (.record updates)).or (leaf? (name :: names) (.record fields)) := by
  simp only [leaf?_cons, Value.fields]
  rw [get?_mergeFields distinct]
  cases held : updates.get? name with
  | none => rfl
  | some update => exact each update held

/-- A leaf in the place of a leaf overrides it. -/
theorem leaf?_mergeValue_of_isLeaf (ends : update.isLeaf = true) (endsValue : value.isLeaf = true)
    (names : List Text) :
    leaf? names (mergeValue (some value) update) = (leaf? names update).or (leaf? names value) := by
  have merged : mergeValue (some value) update = update := by
    cases update with
    | record updates =>
        obtain rfl := isLeaf_record.mp ends
        rcases mergeValue_record (some value) [] with ⟨fields, same, merged⟩ | merged
        · obtain rfl := Option.some.inj same
          obtain rfl := isLeaf_record.mp endsValue
          exact merged
        · exact merged
    | null | bool | int | float | text | list | issue => rfl
  rw [merged, leaf?_of_isLeaf ends, leaf?_of_isLeaf endsValue]
  split_ifs <;> rfl

/-- Merging something leaves something. -/
theorem mergeFields_ne_nil (distinct : updates.keys.Nodup) (present : updates ≠ [])
    (fields : Entries Value) : mergeFields fields updates ≠ [] := by
  obtain ⟨entry, updates, rfl⟩ := List.exists_cons_of_ne_nil present
  intro empty
  have found := get?_mergeFields distinct fields entry.1
  rw [empty, (Entries.get?_eq_some_iff distinct).mpr List.mem_cons_self] at found
  cases found

/-- Where neither value stands in the way of the other, names lead to a leaf of the update, and
else to one of the current value. -/
theorem leaf?_mergeValue (nested : update.IsNested isName)
    (nestedCurrent : ∀ value ∈ current, value.IsNested isName)
    (apart : ∀ value ∈ current, StaysOut update value ∧ StaysOut value update)
    (names : List Text) :
    leaf? names (mergeValue current update) =
      (leaf? names update).or (current.bind (leaf? names)) := by
  -- The induction is on the update; under each name another current value stands against it.
  induction nested generalizing current names with
  | @leaf update ends =>
      cases current with
      | none => simp
      | some value =>
          have endsValue := (apart value rfl).1.isLeaf ends (nestedCurrent value rfl)
          exact leaf?_mergeValue_of_isLeaf ends endsValue names
  | @record updates distinct named each inductionHypothesis =>
      have nested : IsNested isName (.record updates) := .record distinct named each
      cases current with
      | none => simp
      | some value =>
          obtain ⟨out, back⟩ := apart value rfl
          by_cases ends : (record updates).isLeaf = true
          · exact leaf?_mergeValue_of_isLeaf ends (out.isLeaf ends (nestedCurrent value rfl)) names
          have goesOn :
              ¬ value.isLeaf = true := fun endsValue => ends (back.isLeaf endsValue nested)
          obtain ⟨fields, rfl, -⟩ := exists_record (nestedCurrent value rfl) goesOn
          have present := mt isLeaf_record.mpr ends
          have merged : mergeValue (some (.record fields)) (.record updates) =
              .record (mergeFields fields updates) := rfl
          rw [merged, Option.bind_some]
          cases names with
          | nil =>
              have still := mt isLeaf_record.mp (mergeFields_ne_nil distinct present fields)
              simp [ends, goesOn, still]
          | cons name names =>
              refine leaf?_mergeFields distinct fun update held => ?_
              refine inductionHypothesis _ (Entries.mem_of_get? held)
                (fun value heldValue => (nestedCurrent _ rfl).of_get? heldValue)
                (fun value heldValue => ⟨out.below held heldValue, back.below heldValue held⟩) names

/-! ## Flat results -/

/-- Names that lead to a leaf are a path of the flat record. -/
theorem mem_keys_flat (nested : value.plain.IsNested IsName)
    (leads : (leaf? (name :: names) value.plain).isSome) :
    (name :: names).foldl pathTo [] ∈ value.flat.keys := by
  obtain ⟨found, leads⟩ := Option.isSome_iff_exists.mp leads
  have parts := splitOn_foldl_pathTo (List.cons_ne_nil _ _) (nested.names_of_leaf? leads)
  rw [← Entries.has_iff, Entries.has, get?_flat nested, parts, leads]
  rfl

/-- Where no path leads below a path of the other side, the values of a field stay out of one
another. -/
theorem staysOut_of_flat {one other : Value} (nested : value.plain.IsNested IsName)
    (nestedBase : base.plain.IsNested IsName) (apart : NoneLeadsInto value.flat.keys base.flat.keys)
    (held : value.plain.fields.get? name = some one)
    (heldBase : base.plain.fields.get? name = some other) : StaysOut one other := by
  intro names rest leads leadsOther
  have listed : (name :: names).foldl pathTo [] ∈ value.flat.keys :=
    mem_keys_flat nested (by rwa [leaf?_cons, held, Option.bind_some])
  have listedBase : (name :: (names ++ rest)).foldl pathTo [] ∈ base.flat.keys :=
    mem_keys_flat nestedBase (by rwa [leaf?_cons, heldBase, Option.bind_some])
  cases rest with
  | nil => rfl
  | cons next rest =>
      have here : IsName name :=
        nested.parts.2.1 name (List.mem_map.mpr ⟨_, Entries.mem_of_get? held, rfl⟩)
      have present : (name :: names).foldl pathTo [] ≠ [] := by
        have whole : (name :: names).foldl pathTo [] = name ++ names.flatMap ('.' :: ·) :=
          foldl_pathTo here.1 names
        rw [whole]
        exact List.append_ne_nil_of_left_ne_nil here.1 _
      refine absurd ?_ (apart _ listed _ listedBase)
      rw [← List.cons_append, List.foldl_append, foldl_pathTo present]
      exact ⟨next ++ rest.flatMap ('.' :: ·), by simp⟩

/-- Under every path the merged record has the leaf of the updates, and else the old one. -/
theorem get?_flat_merged (nested : base.plain.IsNested IsName)
    (nestedUpdates : (Value.record updates).plain.IsNested IsName)
    (apart : NoneLeadsInto (Value.record updates).flat.keys base.flat.keys)
    (coapart : NoneLeadsInto base.flat.keys (Value.record updates).flat.keys) (path : Text) :
    (Value.record (base.merged updates)).flat.get? path =
      ((Value.record updates).flat.get? path).or (base.flat.get? path) := by
  have nestedMerged := nested.merged nestedUpdates
  rw [get?_flat (nestedMerged.plain_eq.symm ▸ nestedMerged), nestedMerged.plain_eq,
    get?_flat nested, get?_flat nestedUpdates]
  obtain ⟨name, names, parts⟩ := List.exists_cons_of_ne_nil (splitOn_ne_nil path)
  rw [parts]
  refine leaf?_mergeFields nestedUpdates.parts.1 fun update held => ?_
  refine leaf?_mergeValue (nestedUpdates.of_get? held) (fun value heldValue =>
    nested.of_get? heldValue) (fun value heldValue => ⟨?_, ?_⟩) names
  · exact staysOut_of_flat nestedUpdates nested apart held heldValue
  · exact staysOut_of_flat nested nestedUpdates coapart heldValue held

/-- Merging the same updates again changes nothing. -/
theorem merged_merged (nested : base.plain.IsNested isName)
    (nestedUpdates : (Value.record updates).plain.IsNested isName) :
    (Value.record (base.merged updates)).merged updates = base.merged updates := by
  have again := mergeValue_mergeValue nestedUpdates (some (.record base.plain.fields))
  rw [merged, (nested.merged nestedUpdates).plain_eq]
  exact record.inj again

/-- What a record is after updates in whose way no leaf stands. -/
structure IsOverridden (base : Value) (updates merged : Entries Value) : Prop where
  /-- Its leaves are the old ones, overridden and extended by those of the updates. -/
  leaves : (Value.record merged).flat.Perm (Entries.putAll base.flat (Value.record updates).flat)
  /-- Under every path that the updates do not have, it is as it was. -/
  keeps : ∀ path, path ∉ (Value.record updates).flat.keys →
    (Value.record merged).flat.get? path = base.flat.get? path
  /-- No path is lost. -/
  removes : (Difference.between base (.record merged)).removed = []

/-- Records whose paths do not lead below one another are overridden by merging. -/
theorem isOverridden_merged (nested : base.plain.IsNested IsName)
    (nestedUpdates : (Value.record updates).plain.IsNested IsName)
    (apart : NoneLeadsInto (Value.record updates).flat.keys base.flat.keys)
    (coapart : NoneLeadsInto base.flat.keys (Value.record updates).flat.keys) :
    IsOverridden base updates (base.merged updates) where
  leaves := by
    refine Entries.perm_of_get? (nodup_keys_flat _)
      (Entries.nodup_keys_putAll (nodup_keys_flat base) _) fun path => ?_
    rw [get?_flat_merged nested nestedUpdates apart coapart, Entries.get?_putAll,
      Entries.get?_reverse (nodup_keys_flat _)]
  keeps := by
    intro path absent
    rw [get?_flat_merged nested nestedUpdates apart coapart, Entries.get?_eq_none _ absent,
      Option.none_or]
  removes := by
    refine Entries.eq_nil_iff.mpr fun path => ?_
    rw [Difference.between, Difference.get?_missingIn,
      get?_flat_merged nested nestedUpdates apart coapart]
    cases base.flat.get? path <;> cases (Value.record updates).flat.get? path <;> rfl

/-- Merging updates twice is merging them once, and where no path of one side leads below a path of
the other, the leaves of the updates override those of the record. -/
theorem merged_overrides (distinct : base.plain.IsNested fun _ => True)
    (distinctUpdates : (Value.record updates).plain.IsNested fun _ => True) :
    (Value.record (base.merged updates)).merged updates = base.merged updates ∧
      (base.plain.IsNested IsName → (Value.record updates).plain.IsNested IsName →
        NoneLeadsInto (Value.record updates).flat.keys base.flat.keys →
        NoneLeadsInto base.flat.keys (Value.record updates).flat.keys →
        IsOverridden base updates (base.merged updates)) :=
  ⟨merged_merged distinct distinctUpdates, isOverridden_merged⟩

/-- A folder with an issue and a note in it. -/
def folder : Value :=
  .record [("issue", .issue { (default : Issue) with id := "n-1", title := "old" }),
    ("note", .record [("tags", .list [.text "a"]), ("rest", .record [])]), ("count", .int 1)]

/-- What was found for the folder. -/
def foundNote : Entries Value :=
  [("note", .record [("rest", .record []), ("place", .record [("x", .null)])]),
    ("issue", .record [("title", .text "new")])]

/-- A record and the updates that a document found. -/
theorem folder_overridden :
    (Value.record (folder.merged foundNote)).merged foundNote = folder.merged foundNote ∧
      IsOverridden folder foundNote (folder.merged foundNote) := by
  have distinct : folder.plain.IsNested fun _ => True := by decide +kernel
  have distinctFound : (Value.record foundNote).plain.IsNested fun _ => True := by decide +kernel
  have settled := merged_overrides distinct distinctFound
  exact ⟨settled.1, settled.2 (by decide +kernel) (by decide +kernel) (by decide +kernel)
    (by decide +kernel)⟩

end Issuebook.Value
