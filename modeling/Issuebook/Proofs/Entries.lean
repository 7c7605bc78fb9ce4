import Issuebook.Entries
import Mathlib.Data.List.Induction
import Mathlib.Data.List.Nodup
import Mathlib.Tactic.SplitIfs

/-!
# Laws of entries

Looking up a key after writing one, and dictionaries made of pairs with distinct keys.
-/

namespace Issuebook.Entries

variable {α : Type} {key name : Text} {value : α}

/-- Nothing is found among no entries. -/
@[simp] theorem get?_nil : get? key ([] : Entries α) = none :=
  rfl

/-- The first entry counts if it has the key, and else the others do. -/
@[simp] theorem get?_cons (entries : Entries α) :
    get? key ((name, value) :: entries) = if name = key then some value else get? key entries :=
  rfl

/-- Entries behind others count where the others have no such key. -/
theorem get?_append (entries later : Entries α) :
    get? key (entries ++ later) = (get? key entries).or (get? key later) := by
  induction entries with
  | nil => rfl
  | cons entry entries inductionHypothesis =>
      obtain ⟨name, value⟩ := entry
      by_cases found : name = key
      · simp [found]
      · simp [found, inductionHypothesis]

/-- A key that is absent has no value. -/
theorem get?_eq_none (entries : Entries α) (absent : key ∉ entries.keys) :
    get? key entries = none := by
  induction entries with
  | nil => rfl
  | cons entry entries inductionHypothesis =>
      obtain ⟨name, value⟩ := entry
      have parts : key ≠ name ∧ key ∉ keys entries := by
        simpa [keys] using absent
      rw [get?_cons, if_neg (Ne.symm parts.1), inductionHypothesis parts.2]

/-- A key without a value is absent. -/
theorem absent_of_get? {entries : Entries α} (absent : get? key entries = none) :
    key ∉ entries.keys := by
  induction entries with
  | nil => exact List.not_mem_nil
  | cons entry entries inductionHypothesis =>
      obtain ⟨name, value⟩ := entry
      rw [get?_cons] at absent
      split_ifs at absent with same
      exact fun present =>
        (List.mem_cons.mp present).elim (Ne.symm same) (inductionHypothesis absent)

/-- A value that is found has an entry. -/
theorem mem_of_get? {entries : Entries α} (found : get? key entries = some value) :
    (key, value) ∈ entries := by
  induction entries with
  | nil => cases found
  | cons entry entries inductionHypothesis =>
      obtain ⟨name, old⟩ := entry
      by_cases same : name = key
      · rw [get?_cons, if_pos same] at found
        obtain rfl := Option.some.inj found
        simp [same]
      · rw [get?_cons, if_neg same] at found
        exact List.mem_cons_of_mem _ (inductionHypothesis found)

/-- After a value was put, the entries are the new one and old ones. -/
theorem mem_put {entry : Text × α} {entries : Entries α} (present : entry ∈ put key value entries) :
    entry = (key, value) ∨ entry ∈ entries := by
  induction entries with
  | nil => exact .inl (List.mem_singleton.mp present)
  | cons first entries inductionHypothesis =>
      obtain ⟨name, old⟩ := first
      rw [put] at present
      split_ifs at present with same
      · rcases List.mem_cons.mp present with rfl | later
        · exact .inl (by rw [same])
        · exact .inr (List.mem_cons_of_mem _ later)
      · rcases List.mem_cons.mp present with rfl | later
        · exact .inr List.mem_cons_self
        · exact (inductionHypothesis later).imp_right (List.mem_cons_of_mem _)

/-- Writing to a key that is present keeps the keys. -/
theorem keys_put_of_present {entries : Entries α} (present : key ∈ entries.keys) :
    (put key value entries).keys = entries.keys := by
  induction entries with
  | nil => cases present
  | cons entry entries inductionHypothesis =>
      obtain ⟨name, old⟩ := entry
      rw [put]
      split_ifs with same
      · rfl
      · exact congrArg (name :: ·)
          (inductionHypothesis ((List.mem_cons.mp present).resolve_left (Ne.symm same)))

/-- A dictionary holds no pair but those it was made of. -/
theorem mem_of_mem_ofList {entry : Text × α} {pairs : List (Text × α)}
    (present : entry ∈ ofList pairs) : entry ∈ pairs := by
  have wider (entries : Entries α) (present : entry ∈ putAll entries pairs) :
      entry ∈ entries ∨ entry ∈ pairs := by
    clear * - present
    induction pairs generalizing entries with
    | nil => exact .inl present
    | cons first pairs inductionHypothesis =>
        rcases inductionHypothesis _ present with place | later
        · rcases mem_put place with rfl | place
          · exact .inr List.mem_cons_self
          · exact .inl place
        · exact .inr (List.mem_cons_of_mem _ later)
  exact (wider [] present).resolve_left List.not_mem_nil

/-- A value that was put is found. -/
theorem get?_put_same (entries : Entries α) : get? key (put key value entries) = some value := by
  induction entries with
  | nil => simp [put]
  | cons entry entries inductionHypothesis =>
      obtain ⟨name, old⟩ := entry
      by_cases found : name = key
      · simp [put, found]
      · simp [put, found, inductionHypothesis]

/-- Other keys keep their values. -/
theorem get?_put_other (other : key ≠ name) (entries : Entries α) :
    get? name (put key value entries) = get? name entries := by
  induction entries with
  | nil => simp [put, other]
  | cons entry entries inductionHypothesis =>
      obtain ⟨first, old⟩ := entry
      by_cases found : first = key
      · simp [put, found, other]
      · simp [put, found, inductionHypothesis]

/-- A dictionary holds every key that is written to it. -/
theorem has_putAll {entries later : Entries α}
    (present : has key entries = true ∨ key ∈ later.keys) :
    has key (putAll entries later) = true := by
  induction later generalizing entries with
  | nil => exact present.resolve_right List.not_mem_nil
  | cons entry later inductionHypothesis =>
      obtain ⟨name, value⟩ := entry
      apply inductionHypothesis
      by_cases same : name = key
      · exact .inl (by rw [same, has, get?_put_same]; rfl)
      · rcases present with before | listed
        · exact .inl (by rw [has, get?_put_other same]; exact before)
        · exact .inr ((List.mem_cons.mp listed).resolve_left (Ne.symm same))

/-- A new key is written behind the others. -/
theorem put_of_absent {entries : Entries α} (absent : key ∉ entries.keys) :
    put key value entries = entries ++ [(key, value)] := by
  induction entries with
  | nil => rfl
  | cons entry entries inductionHypothesis =>
      obtain ⟨name, old⟩ := entry
      have parts : key ≠ name ∧ key ∉ keys entries := by
        simpa [keys] using absent
      rw [put, if_neg (Ne.symm parts.1), inductionHypothesis parts.2]
      rfl

/-- Writing to a dictionary keeps its keys distinct. -/
theorem nodup_keys_put {entries : Entries α} (distinct : entries.keys.Nodup) :
    (put key value entries).keys.Nodup := by
  by_cases present : key ∈ entries.keys
  · rwa [keys_put_of_present present]
  · rw [put_of_absent present, keys, List.map_append]
    refine List.nodup_append.mpr ⟨distinct, List.nodup_singleton key, ?_⟩
    rintro name listed _ single rfl
    obtain rfl : name = key := List.mem_singleton.mp single
    exact present listed

/-- Entries with new keys are put behind the others as they are. -/
theorem putAll_of_distinct (entries : Entries α) {later : Entries α}
    (distinct : (keys (entries ++ later)).Nodup) :
    putAll entries later = entries ++ later := by
  induction later generalizing entries with
  | nil => simp [putAll]
  | cons entry later inductionHypothesis =>
      obtain ⟨name, value⟩ := entry
      have absent : name ∉ entries.keys := by
        intro present
        have apart := (List.nodup_append.mp (by simpa [keys] using distinct)).2.2
        exact apart name present name (by simp) rfl
      have shape : entries ++ (name, value) :: later = entries ++ [(name, value)] ++ later := by
        simp
      rw [shape] at distinct ⊢
      rw [← inductionHypothesis _ distinct, ← put_of_absent absent]
      rfl

/-- Pairs with distinct keys are a dictionary as they stand. -/
theorem ofList_of_distinct {pairs : List (Text × α)} (distinct : (keys pairs).Nodup) :
    ofList pairs = pairs := by
  simpa [ofList] using putAll_of_distinct [] distinct

/-- Of several writings to a key the last counts. -/
theorem get?_putAll (entries later : Entries α) :
    get? key (putAll entries later) = (get? key later.reverse).or (get? key entries) := by
  induction later generalizing entries with
  | nil => rfl
  | cons entry later inductionHypothesis =>
      obtain ⟨name, value⟩ := entry
      rw [List.reverse_cons, get?_append, Option.or_assoc]
      refine (inductionHypothesis _).trans (congrArg _ ?_)
      rw [get?_cons]
      split_ifs with same
      · rw [same, get?_put_same, Option.some_or]
      · rw [get?_put_other same]
        rfl

/-- Of several pairs with one key the last counts. -/
theorem get?_ofList (pairs : List (Text × α)) :
    get? key (ofList pairs) = get? key pairs.reverse := by
  rw [ofList, get?_putAll, get?_nil, Option.or_none]

/-- Putting values keeps the keys distinct. -/
theorem nodup_keys_putAll {entries : Entries α} (distinct : entries.keys.Nodup)
    (later : List (Text × α)) : (keys (putAll entries later)).Nodup := by
  induction later generalizing entries with
  | nil => exact distinct
  | cons entry later inductionHypothesis => exact inductionHypothesis (nodup_keys_put distinct)

/-- Pairs become entries with distinct keys. -/
theorem nodup_keys_ofList (pairs : List (Text × α)) : (keys (ofList pairs)).Nodup := by
  have none : (keys ([] : Entries α)).Nodup := List.nodup_nil
  exact nodup_keys_putAll none pairs

/-- What is found under a key when all its pairs agree. -/
theorem get?_eq_of_mem_iff {entries : Entries α} {found : Option α}
    (listed : ∀ value, (key, value) ∈ entries ↔ found = some value) :
    get? key entries = found := by
  cases held : get? key entries with
  | some value => exact ((listed value).mp (mem_of_get? held)).symm
  | none =>
      refine (Option.eq_none_iff_forall_ne_some.mpr fun value same => ?_).symm
      have present : key ∈ entries.keys := List.mem_map_of_mem ((listed value).mpr same)
      exact absent_of_get? held present

/-- Where keys are distinct, a value is found exactly when it has an entry. -/
theorem get?_eq_some_iff {entries : Entries α} (distinct : entries.keys.Nodup) :
    get? key entries = some value ↔ (key, value) ∈ entries := by
  refine ⟨mem_of_get?, fun listed => ?_⟩
  induction entries with
  | nil => cases listed
  | cons entry entries inductionHypothesis =>
      obtain ⟨name, old⟩ := entry
      obtain ⟨absent, distinct⟩ := List.nodup_cons.mp distinct
      rw [get?_cons]
      rcases List.mem_cons.mp listed with same | later
      · obtain ⟨rfl, rfl⟩ := Prod.mk.inj same
        exact if_pos rfl
      · have other : name ≠ key := by
          rintro rfl
          exact absent (List.mem_map.mpr ⟨_, later, rfl⟩)
        rw [if_neg other, inductionHypothesis distinct later]

/-- An entry is there if its key is. -/
theorem has_iff {entries : Entries α} : has key entries = true ↔ key ∈ entries.keys := by
  constructor
  · intro held
    obtain ⟨value, held⟩ := Option.isSome_iff_exists.mp held
    exact List.mem_map_of_mem (mem_of_get? held)
  · intro listed
    by_contra absent
    exact absent_of_get? (Option.not_isSome_iff_eq_none.mp absent) listed

/-- The order of distinct keys does not matter. -/
theorem get?_reverse {entries : Entries α} (distinct : entries.keys.Nodup) :
    get? key entries.reverse = get? key entries := by
  refine get?_eq_of_mem_iff fun value => ?_
  rw [List.mem_reverse, get?_eq_some_iff distinct]

/-- Among the entries of some keys, those keys keep their values. -/
theorem get?_filter (keep : Text → Bool) (entries : Entries α) :
    get? key (entries.filter fun entry => keep entry.1) =
      if keep key then get? key entries else none := by
  induction entries with
  | nil => simp
  | cons entry entries inductionHypothesis =>
      obtain ⟨name, value⟩ := entry
      by_cases same : name = key
      · subst same
        by_cases kept : keep name
        · simp [kept]
        · simp [kept, inductionHypothesis]
      · by_cases kept : keep name
        · simp [kept, same, inductionHypothesis]
        · simp [kept, same, inductionHypothesis]

/-- Leaving out entries keeps the keys distinct. -/
theorem nodup_keys_filter {entries : Entries α} (distinct : entries.keys.Nodup)
    (keep : Text × α → Bool) : (keys (entries.filter keep)).Nodup :=
  distinct.sublist (List.filter_sublist.map Prod.fst)

/-- After all values were changed, the changed value is found. -/
theorem get?_map {β : Type} (change : α → β) (entries : Entries α) :
    get? key (entries.map fun entry => (entry.1, change entry.2)) =
      (get? key entries).map change := by
  induction entries with
  | nil => rfl
  | cons entry entries inductionHypothesis =>
      rw [List.map_cons, get?_cons, inductionHypothesis]
      obtain ⟨name, value⟩ := entry
      rw [get?_cons]
      split_ifs <;> rfl

/-- Entries that are changed or left out, each under its own key. -/
theorem get?_filterMap {β : Type} (change : Text → α → Option β) {entries : Entries α}
    (distinct : entries.keys.Nodup) :
    get? key (entries.filterMap fun entry => (change entry.1 entry.2).map (entry.1, ·)) =
      (get? key entries).bind (change key) := by
  induction entries with
  | nil => rfl
  | cons entry entries inductionHypothesis =>
      obtain ⟨name, value⟩ := entry
      obtain ⟨absent, distinct⟩ := List.nodup_cons.mp distinct
      have later := inductionHypothesis distinct
      rw [List.filterMap_cons, get?_cons]
      by_cases same : name = key
      · subst same
        rw [get?_eq_none entries absent] at later
        cases changed : change name value with
        | none => simpa [changed] using later
        | some result => simp [changed]
      · cases changed : change name value with
        | none => simpa [changed, same] using later
        | some result => simpa [changed, same] using later

/-- Changing values and leaving out some keeps the order of the keys. -/
theorem keys_filterMap_sublist {β : Type} (change : Text → α → Option β) (entries : Entries α) :
    (keys (entries.filterMap fun entry => (change entry.1 entry.2).map (entry.1, ·))).Sublist
      entries.keys := by
  induction entries with
  | nil => exact .slnil
  | cons entry entries inductionHypothesis =>
      obtain ⟨name, value⟩ := entry
      rw [List.filterMap_cons]
      cases changed : change name value with
      | none => exact inductionHypothesis.cons name
      | some result => exact inductionHypothesis.cons_cons name

/-- There are no entries exactly when no key has a value. -/
theorem eq_nil_iff {entries : Entries α} : entries = [] ↔ ∀ key, get? key entries = none := by
  constructor
  · rintro rfl key
    rfl
  · intro absent
    cases entries with
    | nil => rfl
    | cons entry entries =>
        have held := absent entry.1
        obtain ⟨name, value⟩ := entry
        simp at held

/-- Dictionaries that hold the same are equal up to order. -/
theorem perm_of_get? {entries other : Entries α} (distinct : entries.keys.Nodup)
    (distinctOther : other.keys.Nodup) (each : ∀ key, get? key entries = get? key other) :
    entries.Perm other := by
  refine (List.perm_ext_iff_of_nodup distinct.of_map distinctOther.of_map).mpr fun entry => ?_
  rw [← get?_eq_some_iff distinct, ← get?_eq_some_iff distinctOther, each]

/-- Writing what is there already changes nothing. -/
theorem put_of_get? {entries : Entries α} (held : get? key entries = some value) :
    put key value entries = entries := by
  induction entries with
  | nil => cases held
  | cons entry entries inductionHypothesis =>
      obtain ⟨name, old⟩ := entry
      rw [get?_cons] at held
      rw [put]
      split_ifs at held ⊢ with same
      · rw [Option.some.inj held]
      · rw [inductionHypothesis held]

/-! ## Writing in another order -/

variable {old : α}

/-- Of two writings to the same key the later one counts, at the place of the first. -/
theorem put_put_same (entries : Entries α) :
    put key value (put key old entries) = put key value entries := by
  induction entries with
  | nil => simp [put]
  | cons entry entries inductionHypothesis =>
      obtain ⟨first, held⟩ := entry
      by_cases same : first = key
      · simp [put, same]
      · simp [put, same, inductionHypothesis]

/-- A key that is present keeps its place, whatever is written to other keys before. -/
theorem put_put_of_present {entries : Entries α} (present : key ∈ entries.keys)
    (other : name ≠ key) :
    put key value (put name old entries) = put name old (put key value entries) := by
  induction entries with
  | nil => cases present
  | cons entry entries inductionHypothesis =>
      obtain ⟨first, held⟩ := entry
      by_cases same : first = key
      · subst same
        simp [put, Ne.symm other]
      · have later : key ∈ keys entries :=
          (List.mem_cons.mp present).resolve_left (Ne.symm same)
        by_cases sameName : first = name
        · subst sameName
          simp [put, same]
        · simp [put, same, sameName, inductionHypothesis later]

/-- A key stays when a value is put. -/
theorem mem_keys_put {entries : Entries α} (present : key ∈ entries.keys) :
    key ∈ (put name old entries).keys := by
  by_cases held : name ∈ entries.keys
  · rwa [keys_put_of_present held]
  · rw [put_of_absent held, keys, List.map_append]
    exact List.mem_append_left _ present

/-- Pairs behind others are put after them. -/
theorem putAll_append (entries : Entries α) (first second : List (Text × α)) :
    putAll entries (first ++ second) = putAll (putAll entries first) second :=
  List.foldl_append

/-- Writing to a key that is present can be done before others are written. -/
theorem put_putAll_of_present {entries : Entries α} (present : key ∈ entries.keys)
    {later : List (Text × α)} (absent : key ∉ keys later) :
    put key value (putAll entries later) = putAll (put key value entries) later := by
  induction later generalizing entries with
  | nil => rfl
  | cons entry later inductionHypothesis =>
      obtain ⟨name, old⟩ := entry
      obtain ⟨other, absent⟩ := not_or.mp (List.mem_cons.not.mp absent)
      calc put key value (putAll (put name old entries) later)
          = putAll (put key value (put name old entries)) later :=
            inductionHypothesis (mem_keys_put present) absent
        _ = putAll (put name old (put key value entries)) later := by
            rw [put_put_of_present present (Ne.symm other)]

/-- What is written to a dictionary in the end is written to every dictionary that takes it in. -/
theorem putAll_put (entries : Entries α) {later : Entries α} (distinct : later.keys.Nodup) :
    putAll entries (put key value later) = put key value (putAll entries later) := by
  induction later generalizing entries with
  | nil => rfl
  | cons entry later inductionHypothesis =>
      obtain ⟨name, old⟩ := entry
      obtain ⟨absent, distinct⟩ := List.nodup_cons.mp distinct
      by_cases same : name = key
      · subst same
        have present : name ∈ (put name old entries).keys :=
          has_iff.mp (by rw [has, get?_put_same]; rfl)
        calc putAll entries (put name value ((name, old) :: later))
            = putAll (put name value entries) later := by rw [put, if_pos rfl]; rfl
          _ = putAll (put name value (put name old entries)) later := by rw [put_put_same]
          _ = put name value (putAll (put name old entries) later) :=
              (put_putAll_of_present present absent).symm
      · calc putAll entries (put key value ((name, old) :: later))
            = putAll (put name old entries) (put key value later) := by rw [put, if_neg same]; rfl
          _ = put key value (putAll (put name old entries) later) :=
              inductionHypothesis _ distinct

/-- Pairs are taken in one by one as the dictionary that they make. -/
theorem putAll_ofList (entries : Entries α) (pairs : List (Text × α)) :
    putAll entries (ofList pairs) = putAll entries pairs := by
  induction pairs using List.reverseRecOn with
  | nil => rfl
  | append_singleton pairs entry inductionHypothesis =>
      obtain ⟨key, value⟩ := entry
      have last (entries : Entries α) : putAll entries (pairs ++ [(key, value)]) =
          put key value (putAll entries pairs) :=
        putAll_append entries pairs [(key, value)]
      rw [last, ofList, last [], ← ofList, putAll_put entries (nodup_keys_ofList pairs),
        inductionHypothesis]

/-- Entries of pairs behind others are those of the first, with the second put. -/
theorem ofList_append (first second : List (Text × α)) :
    ofList (first ++ second) = putAll (ofList first) (ofList second) := by
  rw [putAll_ofList, ofList, putAll_append, ← ofList]

end Issuebook.Entries
