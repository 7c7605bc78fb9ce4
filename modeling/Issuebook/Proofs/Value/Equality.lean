import Issuebook.Proofs.Value.Leaves
import Mathlib.Data.List.Perm.Subperm

/-!
# Equal values

Two records with distinct names are equal when they have equal values under every name, in any
order (`same_record_iff`). So nested records are equal exactly when the same names lead to equal
leaves in both (`same_iff_leaves`). An issue equals another issue only, so values in which issues
stand are equal when they are so with every issue read as its record, and the issues stand in the
same places (`same_iff_plain`).
-/

namespace Issuebook.Value

variable {name : Text} {names : List Text} {value other : Value} {fields others : Entries Value}
  {isName : Text → Prop}

/-- Both values are absent, or they are equal. -/
def AreSame : Option Value → Option Value → Prop :=
  Option.Rel fun one other => one.same other = true

/-- No value is the same as none. -/
@[simp] theorem areSame_none : AreSame none none :=
  .none

/-- Two values that are there are compared. -/
@[simp] theorem areSame_some : AreSame (some value) (some other) ↔ value.same other = true :=
  ⟨fun | .some same => same, fun same => .some same⟩

/-- A value that is there is not the same as none. -/
@[simp] theorem not_areSame_some_none : ¬ AreSame (some value) none :=
  nofun

/-- None is not the same as one that is there. -/
@[simp] theorem not_areSame_none_some : ¬ AreSame none (some value) :=
  nofun

/-- Fields are the same when each has the same value on the other side. -/
theorem sameFields_iff : sameFields fields others = true ↔
    ∀ entry ∈ fields, AreSame (some entry.2) (others.get? entry.1) := by
  induction fields with
  | nil => simp [sameFields]
  | cons entry fields inductionHypothesis =>
      obtain ⟨name, value⟩ := entry
      rw [sameFields, Bool.and_eq_true, inductionHypothesis, List.forall_mem_cons]
      cases others.get? name with
      | none => simp
      | some other => simp

/-- Records with distinct names are equal when they have equal values under every name. -/
theorem same_record_iff (distinct : fields.keys.Nodup) (distinctOther : others.keys.Nodup) :
    same (.record fields) (.record others) = true ↔
      ∀ name, AreSame (fields.get? name) (others.get? name) := by
  rw [same, Bool.and_eq_true, beq_iff_eq, sameFields_iff]
  constructor
  · rintro ⟨length, each⟩ name
    have subset : fields.keys ⊆ others.keys := by
      intro name listed
      obtain ⟨⟨_, value⟩, present, rfl⟩ := List.mem_map.mp listed
      have found := each _ present
      by_contra absent
      rw [Entries.get?_eq_none others absent] at found
      exact not_areSame_some_none found
    have perm : fields.keys.Perm others.keys := by
      refine (List.subperm_of_subset distinct subset).perm_of_length_le ?_
      simp [Entries.keys, length]
    cases held : fields.get? name with
    | some value => exact each _ (Entries.mem_of_get? held)
    | none =>
        have absent := mt perm.mem_iff.mpr (Entries.absent_of_get? held)
        rw [Entries.get?_eq_none others absent]
        exact areSame_none
  · intro each
    have perm : fields.keys.Perm others.keys := by
      refine (List.perm_ext_iff_of_nodup distinct distinctOther).mpr fun name => ?_
      rw [← Entries.has_iff, ← Entries.has_iff, Entries.has, Entries.has]
      have here := each name
      generalize fields.get? name = one at here
      generalize others.get? name = two at here
      cases here <;> simp
    refine ⟨by simpa [Entries.keys] using perm.length_eq, fun entry listed => ?_⟩
    have held := (Entries.get?_eq_some_iff distinct).mpr listed
    rw [← held]
    exact each entry.1

/-! ## Nested records -/

/-- A nested value that is no leaf is a record with fields. -/
theorem exists_record (nested : value.IsNested isName) (goesOn : ¬ value.isLeaf) :
    ∃ fields, value = .record fields ∧ fields ≠ [] := by
  cases nested with
  | leaf ends => exact absurd ends goesOn
  | @record fields => exact ⟨fields, rfl, fun empty => goesOn (isLeaf_record.mpr empty)⟩

/-- Equal values are both leaves, or neither is. -/
theorem isLeaf_of_same (same : value.same other = true) : value.isLeaf = other.isLeaf := by
  cases value with
  | record fields =>
      cases other with
      | record others =>
          have length : fields.length = others.length := by
            simp only [Value.same, Bool.and_eq_true, beq_iff_eq] at same
            exact same.1
          cases fields <;> cases others <;> first | rfl | cases length
      | null | bool | int | float | text | list | issue => simp [Value.same] at same
  | issue =>
      cases other with
      | issue => rfl
      | null | bool | int | float | text | list | record => simp [Value.same] at same
  | null | bool | int | float | text | list =>
      cases other <;> first | rfl | simp [Value.same] at same

/-- A leaf equals another value exactly when the same names lead to equal leaves. -/
theorem same_iff_of_isLeaf (ends : value.isLeaf) :
    value.same other = true ↔ ∀ names, AreSame (leaf? names value) (leaf? names other) := by
  constructor
  · intro same names
    have endsOther : other.isLeaf := isLeaf_of_same same ▸ ends
    rw [leaf?_of_isLeaf ends, leaf?_of_isLeaf endsOther]
    split_ifs
    · exact areSame_some.mpr same
    · exact areSame_none
  · intro each
    have root := each []
    rw [leaf?_nil, leaf?_nil, if_pos ends] at root
    split_ifs at root with endsOther
    · exact areSame_some.mp root
    · exact absurd root not_areSame_some_none

/-- Every nested value has a leaf, so what is absent on one side only shows in the leaves. -/
theorem areSame_iff_leaves {one other : Option Value}
    (nested : ∀ value ∈ one, value.IsNested isName)
    (nestedOther : ∀ value ∈ other, value.IsNested isName)
    (each : ∀ value ∈ one, ∀ own ∈ other, value.same own = true ↔
      ∀ names, AreSame (leaf? names value) (leaf? names own)) :
    AreSame one other ↔
      ∀ names, AreSame (one.bind (leaf? names)) (other.bind (leaf? names)) := by
  cases one with
  | none =>
      cases other with
      | none => simp
      | some own =>
          obtain ⟨names, found, leads⟩ := (nestedOther own rfl).exists_leaf
          refine iff_of_false not_areSame_none_some fun below => ?_
          simpa [leads] using below names
  | some value =>
      cases other with
      | none =>
          obtain ⟨names, found, leads⟩ := (nested value rfl).exists_leaf
          refine iff_of_false not_areSame_some_none fun below => ?_
          simpa [leads] using below names
      | some own => simpa using each value rfl own rfl

/-- Records are equal when the same names lead to equal leaves in both, if that is so of what they
hold. -/
theorem same_record_iff_below (nested : IsNested isName (.record fields))
    (nestedOther : IsNested isName (.record others))
    (each : ∀ entry ∈ fields, ∀ own : Value, own.IsNested isName →
      (entry.2.same own = true ↔ ∀ names, AreSame (leaf? names entry.2) (leaf? names own))) :
    same (.record fields) (.record others) = true ↔
      ∀ name names, AreSame (leaf? (name :: names) (.record fields))
        (leaf? (name :: names) (.record others)) := by
  have distinct : (Entries.keys fields).Nodup := nested.parts.1
  have distinctOther : (Entries.keys others).Nodup := nestedOther.parts.1
  rw [same_record_iff distinct distinctOther]
  refine forall_congr' fun name => ?_
  refine areSame_iff_leaves (fun value held => nested.of_get? held)
    (fun own held => nestedOther.of_get? held) fun value held own heldOther => ?_
  exact each _ (Entries.mem_of_get? held) own (nestedOther.of_get? heldOther)

/-- Nested values are equal exactly when the same names lead to equal leaves in both. -/
theorem same_iff_leaves (nested : value.IsNested isName) (nestedOther : other.IsNested isName) :
    value.same other = true ↔ ∀ names, AreSame (leaf? names value) (leaf? names other) := by
  induction nested generalizing other with
  | leaf ends => exact same_iff_of_isLeaf ends
  | @record fields distinct named each inductionHypothesis =>
      -- An empty record is a leaf, so only a record with fields is taken apart.
      by_cases empty : fields = []
      · exact same_iff_of_isLeaf (isLeaf_record.mpr empty)
      have goesOn : ¬ (record fields).isLeaf := fun ends => empty (isLeaf_record.mp ends)
      by_cases endsOther : other.isLeaf
      · refine iff_of_false (fun same => goesOn (isLeaf_of_same same ▸ endsOther)) fun leaves => ?_
        simpa [goesOn, endsOther] using leaves []
      obtain ⟨others, rfl, -⟩ := exists_record nestedOther endsOther
      rw [same_record_iff_below (.record distinct named each) nestedOther
        fun entry listed _ nestedOwn => inductionHypothesis entry listed nestedOwn]
      constructor
      · intro below names
        cases names with
        | nil => simp [goesOn, endsOther]
        | cons name names => exact below name names
      · exact fun leaves name names => leaves (name :: names)

/-- Nested records are equal exactly when every name that leads to a leaf leads to an equal one. -/
theorem same_record_iff_leaves (nested : IsNested isName (.record fields))
    (nestedOther : IsNested isName (.record others)) :
    same (.record fields) (.record others) = true ↔
      ∀ name names, AreSame (leaf? (name :: names) (.record fields))
        (leaf? (name :: names) (.record others)) :=
  same_record_iff_below nested nestedOther fun entry listed _ nestedOwn =>
    same_iff_leaves (nested.parts.2.2 entry listed) nestedOwn

/-! ## Values that equal themselves -/

/-- Values without `nan`, whose records have distinct names. -/
inductive IsExact : Value → Prop
  | null : IsExact .null
  | bool (truth : Bool) : IsExact (.bool truth)
  | int (number : Int) : IsExact (.int number)
  | float {number : Binary64} (exact : number ≠ .nan) : IsExact (.float number)
  | text (written : Text) : IsExact (.text written)
  | list {items : List Value} (each : ∀ item ∈ items, IsExact item) : IsExact (.list items)
  | record {fields : Entries Value} (distinct : fields.keys.Nodup)
      (each : ∀ entry ∈ fields, IsExact entry.2) : IsExact (.record fields)
  | issue (own : Issue) : IsExact (.issue own)

/-- A list is exact when its items are. -/
theorem isExact_list {items : List Value} :
    IsExact (.list items) ↔ ∀ item ∈ items, item.IsExact :=
  ⟨fun | .list each => each, .list⟩

/-- A record is exact when its keys are distinct and its values exact. -/
theorem isExact_record : IsExact (.record fields) ↔ fields.keys.Nodup ∧
    ∀ entry ∈ fields, entry.2.IsExact :=
  ⟨fun | .record distinct each => ⟨distinct, each⟩, fun both => .record both.1 both.2⟩

mutual

instance decidableIsExact : (value : Value) → Decidable value.IsExact
  | .null => .isTrue .null
  | .bool truth => .isTrue (.bool truth)
  | .int number => .isTrue (.int number)
  | .float .nan => .isFalse fun | .float exact => exact rfl
  | .float (.infinite _) | .float (.finite _ _ _) => .isTrue (.float nofun)
  | .text written => .isTrue (.text written)
  | .list items =>
    have := decidableAreExact items
    decidable_of_iff _ isExact_list.symm
  | .record fields =>
    have := decidableHoldExact fields
    decidable_of_iff _ isExact_record.symm
  | .issue own => .isTrue (.issue own)

instance decidableAreExact : (items : List Value) → Decidable (∀ item ∈ items, item.IsExact)
  | [] => .isTrue (List.forall_mem_nil _)
  | item :: items =>
    have := decidableIsExact item
    have := decidableAreExact items
    decidable_of_iff _ List.forall_mem_cons.symm

instance decidableHoldExact :
    (fields : Entries Value) → Decidable (∀ entry ∈ fields, entry.2.IsExact)
  | [] => .isTrue (List.forall_mem_nil _)
  | (_, value) :: fields =>
    have := decidableIsExact value
    have := decidableHoldExact fields
    decidable_of_iff _ List.forall_mem_cons.symm

end

/-- An exact value is the same as itself. -/
theorem IsExact.same_self (exact : value.IsExact) : value.same value = true := by
  induction exact with
  | null => rfl
  | bool | int | text | issue => simp [same]
  | @float number exact =>
      cases number with
      | nan => exact absurd rfl exact
      | infinite => simp [same, Binary64.sameValue]
      | finite => simp [same, Binary64.sameValue]
  | @list items each inductionHypothesis =>
      rw [same]
      clear each
      induction items with
      | nil => rfl
      | cons item items later =>
          obtain ⟨here, rest⟩ := List.forall_mem_cons.mp inductionHypothesis
          simp [sameItems, here, later rest]
  | @record fields distinct each inductionHypothesis =>
      rw [same, Bool.and_eq_true, sameFields_iff]
      refine ⟨beq_self_eq_true _, fun entry listed => ?_⟩
      rw [(Entries.get?_eq_some_iff distinct).mpr listed, areSame_some]
      exact inductionHypothesis entry listed

/-- The leaves of an exact value are exact. -/
theorem IsExact.of_leaf? {found : Value} (exact : value.IsExact)
    (leads : leaf? names value = some found) : found.IsExact := by
  induction names generalizing value with
  | nil =>
      rw [leaf?_nil] at leads
      split_ifs at leads
      exact Option.some.inj leads ▸ exact
  | cons name names inductionHypothesis =>
      obtain ⟨child, held, below⟩ := Option.bind_eq_some_iff.mp leads
      cases exact with
      | record distinct each =>
          exact inductionHypothesis (each _ (Entries.mem_of_get? held)) below
      | null | bool | int | float | text | list | issue => cases held

/-! ## Issues and their records -/

/-- A name belongs to one status. -/
theorem statusName_injective : Function.Injective Status.name := by
  intro one other named
  revert named
  cases one <;> cases other <;> decide

/-- A name belongs to one kind. -/
theorem kindName_injective : Function.Injective Kind.name := by
  intro one other named
  revert named
  cases one <;> cases other <;> decide

/-- A name belongs to one side. -/
theorem sideName_injective : Function.Injective Side.name := by
  intro one other named
  revert named
  cases one <;> cases other <;> decide

/-- Lists of texts are the same when the texts are. -/
theorem sameItems_map_text (texts others : List Text) :
    sameItems (texts.map .text) (others.map .text) = true ↔ texts = others := by
  induction texts generalizing others with
  | nil => cases others <;> simp [sameItems]
  | cons written texts inductionHypothesis =>
      cases others with
      | nil => simp [sameItems]
      | cons other others => simp [sameItems, same, inductionHypothesis]

/-- Optional texts are the same values when they are the same texts. -/
@[simp] theorem same_ofText? (written other : Option Text) :
    (ofText? written).same (ofText? other) = true ↔ written = other := by
  cases written <;> cases other <;> simp [ofText?, same]

/-- So are optional lists of texts. -/
@[simp] theorem same_ofTexts? (written other : Option (List Text)) :
    (ofTexts? written).same (ofTexts? other) = true ↔ written = other := by
  cases written <;> cases other <;> simp [ofTexts?, ofTexts, same, sameItems_map_text]

/-- The records of two issues are equal exactly when the issues are. -/
theorem same_toRecord (one other : Issue) :
    same (.record one.toRecord) (.record other.toRecord) = true ↔ one = other := by
  obtain ⟨⟩ := one
  obtain ⟨⟩ := other
  simp [Issue.toRecord, same, sameFields, Entries.get?, statusName_injective.eq_iff,
    kindName_injective.eq_iff, (Option.map_injective sideName_injective).eq_iff, Fin.ext_iff,
      Int.ofNat_inj]

/-- Whether names lead to an issue. -/
def holdsIssue : List Text → Value → Bool
  | [], .issue _ => true
  | [], _ => false
  | name :: names, value => (value.fields.get? name).any (holdsIssue names)

/-- The same names lead to an issue in both values. -/
def SharesIssues (value other : Value) : Prop :=
  ∀ names, value.holdsIssue names = other.holdsIssue names

/-- A leaf holds no issue at any path. -/
theorem holdsIssue_of_isLeaf (ends : value.isLeaf = true) (names : List Text) :
    value.holdsIssue names = false := by
  cases names with
  | cons name names => simp [holdsIssue, fields_of_isLeaf ends]
  | nil => cases value <;> first | rfl | cases ends

/-- Two records share their issues when what they hold under each name does. -/
theorem sharesIssues_record : SharesIssues (.record fields) (.record others) ↔
    ∀ name names, (fields.get? name).any (holdsIssue names) =
      (others.get? name).any (holdsIssue names) := by
  constructor
  · exact fun shared name names => shared (name :: names)
  · intro below names
    cases names with
    | nil => rfl
    | cons name names => exact below name names

/-- No names lead to an issue in a leaf. -/
theorem sharesIssues_of_isLeaf (ends : value.isLeaf = true) (endsOther : other.isLeaf = true) :
    SharesIssues value other := fun names => by
  rw [holdsIssue_of_isLeaf ends, holdsIssue_of_isLeaf endsOther]

/-- An issue and a record do not share the issue. -/
theorem not_sharesIssues (own : Issue) (fields : Entries Value) :
    ¬ SharesIssues (.issue own) (.record fields) ∧ ¬ SharesIssues (.record fields) (.issue own) :=
  ⟨fun shared => Bool.noConfusion (shared []), fun shared => Bool.noConfusion (shared [])⟩

/-- What both records hold under a name is equal exactly when it is so with every issue read as its
record and the same names lead on to an issue, if that is so of any two such values. -/
theorem areSame_iff_plain (each : ∀ value, fields.get? name = some value →
      ∀ own, others.get? name = some own →
        (value.same own = true ↔ value.plain.same own.plain = true ∧ SharesIssues value own)) :
    AreSame (fields.get? name) (others.get? name) ↔
      AreSame ((plainFields fields).get? name) ((plainFields others).get? name) ∧
        ∀ names, (fields.get? name).any (holdsIssue names) =
          (others.get? name).any (holdsIssue names) := by
  rw [get?_plainFields, get?_plainFields]
  cases held : fields.get? name with
  | none => cases others.get? name <;> simp
  | some value =>
      cases heldOther : others.get? name with
      | none => simp
      | some own => simpa [SharesIssues] using each value held own heldOther

/-- What holds of a record when it holds of all its fields, and of everything that is no record,
holds of every value. -/
theorem record_induction {motive : Value → Prop}
    (record : ∀ fields : Entries Value,
      (∀ entry ∈ fields, motive entry.2) → motive (.record fields))
    (single : ∀ value : Value, (∀ fields, value ≠ .record fields) → motive value) :
    ∀ value, motive value
  | .record fields => record fields fun entry _ => record_induction record single entry.2
  | .null => single _ nofun
  | .bool _ => single _ nofun
  | .int _ => single _ nofun
  | .float _ => single _ nofun
  | .text _ => single _ nofun
  | .list _ => single _ nofun
  | .issue _ => single _ nofun
termination_by value => sizeOf value
decreasing_by
  have smaller := List.sizeOf_lt_of_mem ‹entry ∈ fields›
  have within : sizeOf entry.2 < sizeOf entry := by
    obtain ⟨name, value⟩ := entry
    simp only [Prod.mk.sizeOf_spec]
    omega
  rw [Value.record.sizeOf_spec]
  omega

/-- Values are equal exactly when they are so with every issue read as its record, and the same
names lead to an issue in both. -/
theorem same_iff_plain (nested : value.plain.IsNested isName)
    (nestedOther : other.plain.IsNested isName) :
    value.same other = true ↔ value.plain.same other.plain = true ∧ SharesIssues value other := by
  induction value using record_induction generalizing other with
  | record fields inductionHypothesis =>
      cases other with
      | record others =>
          have distinct : (plainFields fields).keys.Nodup := nested.parts.1
          have distinctOther : (plainFields others).keys.Nodup := nestedOther.parts.1
          rw [plain, plain, same_record_iff (keys_plainFields fields ▸ distinct)
            (keys_plainFields others ▸ distinctOther), same_record_iff distinct distinctOther,
            sharesIssues_record, ← forall_and]
          refine forall_congr' fun name => areSame_iff_plain fun value held own heldOther => ?_
          have here : (Value.record fields).plain.fields.get? name = some value.plain :=
            (get?_plainFields fields name).trans (congrArg _ held)
          have there : (Value.record others).plain.fields.get? name = some own.plain :=
            (get?_plainFields others name).trans (congrArg _ heldOther)
          exact inductionHypothesis _ (Entries.mem_of_get? held) (nested.of_get? here)
            (nestedOther.of_get? there)
      | issue other => simp [same, (not_sharesIssues other fields).2]
      | null | bool | int | float | text | list => simp [plain, same]
  | single value apart =>
      cases value with
      | record fields => exact absurd rfl (apart fields)
      | issue one =>
          cases other with
          | issue other =>
              have shared : SharesIssues (.issue one) (.issue other) := fun names => by
                cases names <;> rfl
              rw [plain, plain, same_toRecord, same, beq_iff_eq, and_iff_left shared]
          | record others => simp [same, (not_sharesIssues one others).1]
          | null | bool | int | float | text | list => simp [plain, same]
      | null | bool | int | float | text | list =>
          cases other with
          | record | issue => simp [plain, same]
          | null | bool | int | float | text | list =>
              exact (and_iff_left (sharesIssues_of_isLeaf rfl rfl)).symm

end Issuebook.Value
