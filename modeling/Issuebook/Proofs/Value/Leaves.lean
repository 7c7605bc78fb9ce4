import Issuebook.Proofs.Entries
import Issuebook.Proofs.Text.Lines
import Issuebook.Value.Flat

/-!
# Leaves of nested records

Names lead through a nested record to its leaves, one at most for each list of names (`leaf?`). A
flat record shows the same leaves: where no name is empty or holds a dot, the leaf under a dotted
path is the one that the names between the dots lead to (`get?_flat`).
-/

namespace Issuebook.Value

variable {name path : Text} {names : List Text} {value found : Value} {fields : Entries Value}
  {isName : Text → Prop}

/-- A name that can stand between dots. -/
def IsName (name : Text) : Prop :=
  name ≠ [] ∧ '.' ∉ name

instance : DecidablePred IsName := fun name =>
  inferInstanceAs (Decidable (name ≠ [] ∧ '.' ∉ name))

/-- Whether no name leads on from a value. An empty record is a leaf. -/
def isLeaf : Value → Bool
  | .record (_ :: _) => false
  | .issue _ => false
  | _ => true

/-- Records within records, each under distinct names of a kind, with any other values but issues
as leaves. -/
inductive IsNested (isName : Text → Prop) : Value → Prop
  | leaf {value : Value} (ends : value.isLeaf = true) : IsNested isName value
  | record {fields : Entries Value} (distinct : fields.keys.Nodup)
      (named : ∀ name ∈ fields.keys, isName name)
      (each : ∀ entry ∈ fields, IsNested isName entry.2) : IsNested isName (.record fields)

/-- The leaf that names lead to. -/
def leaf? : List Text → Value → Option Value
  | [], value => if value.isLeaf then some value else none
  | name :: names, value => (value.fields.get? name).bind (leaf? names)

/-- At the end of a path there is the value, if it is a leaf. -/
@[simp] theorem leaf?_nil (value : Value) :
    leaf? [] value = if value.isLeaf then some value else none :=
  rfl

/-- A path leads on through the field of its first name. -/
@[simp] theorem leaf?_cons (name : Text) (names : List Text) (value : Value) :
    leaf? (name :: names) value = (value.fields.get? name).bind (leaf? names) :=
  rfl

/-- A leaf has no fields. -/
theorem fields_of_isLeaf (ends : value.isLeaf = true) : value.fields = [] := by
  cases value with
  | record fields =>
      cases fields with
      | nil => rfl
      | cons => cases ends
  | null | bool | int | float | text | list | issue => rfl

/-- A record is a leaf exactly when it is empty. -/
theorem isLeaf_record : isLeaf (.record fields) = true ↔ fields = [] := by
  cases fields with
  | nil => simp [isLeaf]
  | cons => simp [isLeaf]

/-- No name leads on from a leaf. -/
theorem leaf?_of_isLeaf (ends : value.isLeaf = true) :
    leaf? names value = if names = [] then some value else none := by
  cases names with
  | nil => simp [ends]
  | cons name names => simp [fields_of_isLeaf ends]

/-- A record is nested when its keys are distinct names and its values nested. -/
theorem isNested_record : IsNested isName (.record fields) ↔ fields.keys.Nodup ∧
    (∀ name ∈ fields.keys, isName name) ∧ ∀ entry ∈ fields, entry.2.IsNested isName := by
  constructor
  · rintro (ends | ⟨distinct, named, each⟩)
    · obtain rfl := isLeaf_record.mp ends
      exact ⟨List.nodup_nil, List.forall_mem_nil _, List.forall_mem_nil _⟩
    · exact ⟨distinct, named, each⟩
  · rintro ⟨distinct, named, each⟩
    exact .record distinct named each

mutual

instance decidableIsNested [DecidablePred isName] :
    (value : Value) → Decidable (value.IsNested isName)
  | .record fields =>
    have := decidableAreNested fields
    decidable_of_iff _ isNested_record.symm
  | .issue _ => .isFalse nofun
  | .null | .bool _ | .int _ | .float _ | .text _ | .list _ => .isTrue (.leaf rfl)

instance decidableAreNested [DecidablePred isName] :
    (fields : Entries Value) → Decidable (∀ entry ∈ fields, entry.2.IsNested isName)
  | [] => .isTrue (List.forall_mem_nil _)
  | (_, value) :: fields =>
    have := decidableIsNested value
    have := decidableAreNested fields
    decidable_of_iff _ List.forall_mem_cons.symm

end

namespace IsNested

/-- What a nested value holds under its names. -/
theorem parts (nested : value.IsNested isName) : value.fields.keys.Nodup ∧
    (∀ name ∈ value.fields.keys, isName name) ∧
      ∀ entry ∈ value.fields, entry.2.IsNested isName := by
  cases value with
  | record fields => exact isNested_record.mp nested
  | null | bool | int | float | text | list | issue =>
      exact ⟨List.nodup_nil, List.forall_mem_nil _, List.forall_mem_nil _⟩

/-- The value of a field of a nested value is nested. -/
theorem of_get? (nested : value.IsNested isName) (held : value.fields.get? name = some found) :
    found.IsNested isName :=
  nested.parts.2.2 _ (Entries.mem_of_get? held)

/-- Names that lead to a leaf are names. -/
theorem names_of_leaf? (nested : value.IsNested isName)
    (leads : leaf? names value = some found) : ∀ name ∈ names, isName name := by
  induction names generalizing value with
  | nil => exact List.forall_mem_nil _
  | cons name names inductionHypothesis =>
      obtain ⟨child, held, leads⟩ := Option.bind_eq_some_iff.mp leads
      have listed : name ∈ value.fields.keys := List.mem_map_of_mem (Entries.mem_of_get? held)
      exact List.forall_mem_cons.mpr
        ⟨nested.parts.2.1 name listed, inductionHypothesis (nested.of_get? held) leads⟩

/-- Every nested value has a leaf. -/
theorem exists_leaf (nested : value.IsNested isName) :
    ∃ names found, leaf? names value = some found := by
  induction nested with
  | @leaf value ends => exact ⟨[], value, by simp [ends]⟩
  | @record fields distinct named each inductionHypothesis =>
      cases fields with
      | nil => exact ⟨[], .record [], rfl⟩
      | cons entry fields =>
          obtain ⟨names, found, leads⟩ := inductionHypothesis entry List.mem_cons_self
          obtain ⟨name, child⟩ := entry
          exact ⟨name :: names, found, by simpa [Value.fields] using leads⟩

end IsNested

/-- A nested value under a name keeps a record nested. -/
theorem isNested_put (nested : IsNested isName (.record fields)) (named : isName name)
    (nestedValue : value.IsNested isName) : IsNested isName (.record (fields.put name value)) := by
  obtain ⟨distinct, names, each⟩ := isNested_record.mp nested
  refine .record (Entries.nodup_keys_put distinct) (fun key listed => ?_) fun entry listed => ?_
  · obtain ⟨entry, written, rfl⟩ := List.mem_map.mp listed
    rcases Entries.mem_put written with rfl | before
    · exact named
    · exact names _ (List.mem_map_of_mem before)
  · rcases Entries.mem_put listed with rfl | before
    · exact nestedValue
    · exact each entry before

/-- Fields are made plain one by one. -/
theorem plainFields_eq_map (fields : Entries Value) :
    plainFields fields = fields.map fun entry => (entry.1, plain entry.2) := by
  induction fields with
  | nil => rfl
  | cons entry fields inductionHypothesis => rw [plainFields, inductionHypothesis, List.map_cons]

/-- Making them plain keeps the keys. -/
theorem keys_plainFields (fields : Entries Value) : (plainFields fields).keys = fields.keys := by
  rw [plainFields_eq_map, Entries.keys, List.map_map]
  rfl

/-- The plain value of a field is found under its key. -/
theorem get?_plainFields (fields : Entries Value) (name : Text) :
    (plainFields fields).get? name = (fields.get? name).map plain := by
  rw [plainFields_eq_map]
  exact Entries.get?_map plain fields

/-- A nested value holds no issue outside of lists. -/
theorem IsNested.plain_eq (nested : value.IsNested isName) : value.plain = value := by
  induction nested with
  | @leaf value ends =>
      cases value with
      | record fields =>
          obtain rfl := isLeaf_record.mp ends
          rfl
      | issue => cases ends
      | null | bool | int | float | text | list => rfl
  | @record fields distinct named each inductionHypothesis =>
      have same : fields.map (fun entry => (entry.1, plain entry.2)) = fields.map id :=
        List.map_congr_left fun entry listed => by rw [inductionHypothesis entry listed, id]
      rw [plain, plainFields_eq_map, same, List.map_id]

/-! ## Dotted paths -/

/-- Further names stand behind a path with a dot in front of each. -/
theorem foldl_pathTo {above : Text} (present : above ≠ []) (names : List Text) :
    names.foldl pathTo above = above ++ names.flatMap ('.' :: ·) := by
  induction names generalizing above with
  | nil => simp
  | cons name names inductionHypothesis =>
      have step : pathTo above name = above ++ '.' :: name := if_neg (by simpa using present)
      rw [List.foldl_cons, step, inductionHypothesis (by simp), List.flatMap_cons,
        List.append_assoc]

/-- The path of the names between the dots of a path is the path. -/
theorem foldl_pathTo_splitOn (named : ∀ name ∈ Text.splitOn '.' path, name ≠ []) :
    (Text.splitOn '.' path).foldl pathTo [] = path := by
  obtain ⟨first, more, pieces, whole⟩ := Text.splitOn_shape '.' path
  rw [pieces] at named ⊢
  exact (foldl_pathTo (named first List.mem_cons_self) more).trans whole.symm

/-- The names between the dots of a path are those that it was made of. -/
theorem splitOn_foldl_pathTo (present : names ≠ []) (named : ∀ name ∈ names, IsName name) :
    Text.splitOn '.' (names.foldl pathTo []) = names := by
  obtain ⟨first, more, rfl⟩ := List.exists_cons_of_ne_nil present
  obtain ⟨here, later⟩ := List.forall_mem_cons.mp named
  have whole : (first :: more).foldl pathTo [] = first ++ more.flatMap ('.' :: ·) :=
    foldl_pathTo here.1 more
  rw [whole, Text.splitOn_flatMap here.2 fun name listed => (later name listed).2]

/-- A path has at least one name. -/
theorem splitOn_ne_nil (path : Text) : Text.splitOn '.' path ≠ [] := by
  obtain ⟨first, more, pieces, -⟩ := Text.splitOn_shape '.' path
  simp [pieces]

/-- No path leads, behind a dot, to one of the others. -/
def NoneLeadsInto (paths others : List Text) : Prop :=
  ∀ path ∈ paths, ∀ other ∈ others, ¬ path ++ ['.'] <+: other

instance (paths others : List Text) : Decidable (NoneLeadsInto paths others) :=
  inferInstanceAs (Decidable (∀ path ∈ paths, ∀ other ∈ others, ¬ path ++ ['.'] <+: other))

/-! ## Flat records -/

/-- A leaf is its only leaf. -/
theorem leaves_of_isLeaf (ends : value.isLeaf = true) (above : Text) :
    leaves above value = leafAt above value := by
  cases value with
  | record fields =>
      obtain rfl := isLeaf_record.mp ends
      rfl
  | null | bool | int | float | text | list | issue => rfl

/-- A record has the leaves of its fields. -/
theorem leaves_record (present : fields ≠ []) (above : Text) :
    leaves above (.record fields) =
      fields.flatMap fun entry => leaves (pathTo above entry.1) entry.2 := by
  have each (fields : Entries Value) : fieldLeaves above fields =
      fields.flatMap fun entry => leaves (pathTo above entry.1) entry.2 := by
    induction fields with
    | nil => rfl
    | cons entry fields inductionHypothesis =>
        rw [fieldLeaves, inductionHypothesis, List.flatMap_cons]
  obtain ⟨entry, fields, rfl⟩ := List.exists_cons_of_ne_nil present
  rw [leaves, each]

/-- The leaves below a path stand under the path and the names that lead to them. -/
theorem mem_leaves (nested : value.IsNested isName) {above : Text} :
    (path, found) ∈ leaves above value ↔
      ∃ names, leaf? names value = some found ∧ names.foldl pathTo above = path ∧ path ≠ [] := by
  have single {value : Value} (ends : value.isLeaf = true) {above : Text} :
      (path, found) ∈ leaves above value ↔
        ∃ names, leaf? names value = some found ∧ names.foldl pathTo above = path ∧ path ≠ [] := by
    rw [leaves_of_isLeaf ends, leafAt]
    constructor
    · intro listed
      split_ifs at listed with top
      · cases listed
      · obtain ⟨rfl, rfl⟩ := Prod.mk.inj (List.mem_singleton.mp listed)
        exact ⟨[], by simp [ends], rfl, by simpa using top⟩
    · rintro ⟨names, leads, rfl, present⟩
      rw [leaf?_of_isLeaf ends] at leads
      split_ifs at leads with here
      obtain rfl := Option.some.inj leads
      subst here
      have top : ¬ above.isEmpty := by simpa using present
      simp [top]
  induction nested generalizing above with
  | leaf ends => exact single ends
  | @record fields distinct named each inductionHypothesis =>
      by_cases empty : fields = []
      · exact single (isLeaf_record.mpr empty)
      rw [leaves_record empty, List.mem_flatMap]
      constructor
      · rintro ⟨entry, listed, below⟩
        obtain ⟨names, leads, path, present⟩ := (inductionHypothesis entry listed).mp below
        have held := (Entries.get?_eq_some_iff distinct).mpr listed
        exact ⟨entry.1 :: names, by simpa [Value.fields, held] using leads, path, present⟩
      · rintro ⟨names, leads, path, present⟩
        cases names with
        | nil => simp [isLeaf_record, empty] at leads
        | cons name names =>
            obtain ⟨child, held, leads⟩ := Option.bind_eq_some_iff.mp leads
            have listed := Entries.mem_of_get? held
            exact ⟨_, listed, (inductionHypothesis _ listed).mpr ⟨names, leads, path, present⟩⟩

/-- The leaf under a dotted path is the one that the names between the dots lead to. -/
theorem get?_flat (nested : value.plain.IsNested IsName) (path : Text) :
    value.flat.get? path = leaf? (Text.splitOn '.' path) value.plain := by
  rw [flat, Entries.get?_ofList]
  refine Entries.get?_eq_of_mem_iff fun found => ?_
  rw [List.mem_reverse, mem_leaves nested]
  constructor
  · rintro ⟨names, leads, rfl, present⟩
    have some : names ≠ [] := by
      rintro rfl
      exact present rfl
    rwa [splitOn_foldl_pathTo some (nested.names_of_leaf? leads)]
  · intro leads
    have named := nested.names_of_leaf? leads
    refine ⟨_, leads, foldl_pathTo_splitOn fun name listed => (named name listed).1, ?_⟩
    rintro rfl
    exact (named [] (by simp [Text.splitOn])).1 rfl

/-- No path is listed twice in a flat record. -/
theorem nodup_keys_flat (value : Value) : value.flat.keys.Nodup :=
  Entries.nodup_keys_ofList _

end Issuebook.Value
