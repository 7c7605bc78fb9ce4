import Issuebook.Proofs.Value.Leaves
import Issuebook.Template.Extraction

/-!
# Data of extractions

What texts that were found along paths of any shape make under one name: a record as soon as one of
them stands below the name, and else the first that stands at the name itself (`get?_assignAll`).
Where no path leads into another, the leaves of the data are the texts that were found first, each
under its path: `get?_flat_data`.
-/

namespace Issuebook

variable {name text : Text} {data : Entries Value}

namespace Extraction

variable {names : List Text} {isName : Text → Prop} {found : List (List Text × Text)}
  {captured : List Capture}

/-- The data with texts assigned in order, each along its path. -/
def assignAll (found : List (List Text × Text)) (data : Entries Value) : Entries Value :=
  found.foldl (fun data entry => assign entry.2 entry.1 data) data

/-- The texts that captures found, each with the names along its path. -/
def finds (captures : List Capture) : List (List Text × Text) :=
  captures.filterMap fun capture =>
    capture.found.map fun text => (Text.splitOn '.' capture.path, text)

/-- The fields of the record under a name, none where there is no record. -/
def fieldsAt (name : Text) (data : Entries Value) : Entries Value :=
  ((data.get? name).map Value.fields).getD []

/-- What a path has below a name. -/
def pathBelow? (name : Text) : List Text → Option (List Text)
  | first :: next :: names => if first = name then some (next :: names) else none
  | _ => none

/-- The texts that stand below a name, each with the rest of its path. -/
def below (name : Text) (found : List (List Text × Text)) : List (List Text × Text) :=
  found.filterMap fun entry => (pathBelow? name entry.1).map fun names => (names, entry.2)

/-- The first text found along names. -/
def firstAlong (names : List Text) (found : List (List Text × Text)) : Option Text :=
  found.findSome? fun entry => if entry.1 = names then some entry.2 else none

/-- The first text that stands at a name. -/
def firstAt (name : Text) (found : List (List Text × Text)) : Option Text :=
  found.findSome? fun entry => if entry.1 = [name] then some entry.2 else none

/-- What is found below a name, the first finding first. -/
theorem below_cons (name : Text) (entry : List Text × Text) (found : List (List Text × Text)) :
    below name (entry :: found) =
      ((pathBelow? name entry.1).map fun names => (names, entry.2)).toList ++ below name found := by
  rw [below, List.filterMap_cons]
  cases pathBelow? name entry.1 <;> rfl

/-- The first text along a path, the first finding first. -/
theorem firstAlong_cons (names : List Text) (entry : List Text × Text)
    (found : List (List Text × Text)) : firstAlong names (entry :: found) =
      (if entry.1 = names then some entry.2 else none).or (firstAlong names found) := by
  rw [firstAlong, List.findSome?_cons]
  cases (if entry.1 = names then some entry.2 else none) <;> rfl

/-- The first text at a name, the first finding first. -/
theorem firstAt_cons (name : Text) (entry : List Text × Text) (found : List (List Text × Text)) :
    firstAt name (entry :: found) =
      (if entry.1 = [name] then some entry.2 else none).or (firstAt name found) :=
  firstAlong_cons [name] entry found

/-- The data of captures are the texts that they found, assigned in order. -/
theorem data_ofCaptures (captures : List Capture) :
    (ofCaptures captures).data = assignAll (finds captures) [] := by
  suffices each : ∀ data, captures.foldl record data = assignAll (finds captures) data from each []
  induction captures with
  | nil => exact fun data => rfl
  | cons capture captures inductionHypothesis =>
      intro data
      obtain ⟨path, found⟩ := capture
      cases found <;> exact inductionHypothesis _

/-- A text below a name fills the record there. -/
theorem get?_assign_below {names rest : List Text} (inside : pathBelow? name names = some rest)
    (text : Text) (data : Entries Value) :
    (assign text names data).get? name =
      some (.record (assign text rest (fieldsAt name data))) := by
  unfold pathBelow? at inside
  split at inside
  · split_ifs at inside with same
    subst same
    obtain rfl := Option.some.inj inside
    rw [assign, Entries.get?_put_same]
    rfl
  · cases inside

/-- A text that is not below a name counts there only when it stands at the name itself and nothing
is there yet. -/
theorem get?_assign_beside {names : List Text} (beside : pathBelow? name names = none)
    (text : Text) (data : Entries Value) :
    (assign text names data).get? name =
      (data.get? name).or (if names = [name] then some (.text text) else none) := by
  match names with
  | [] => simp [assign]
  | [key] =>
      rw [assign]
      by_cases same : key = name
      · subst same
        rw [if_pos rfl]
        split_ifs with held
        · obtain ⟨value, held⟩ := Option.isSome_iff_exists.mp held
          rw [held, Option.some_or]
        · have absent : data.get? key = none := by simpa [Entries.has] using held
          rw [absent, Entries.get?_put_same, Option.none_or]
      · rw [if_neg fun one => same (List.cons.inj one).1, Option.or_none]
        split_ifs
        · rfl
        · exact Entries.get?_put_other same data
  | key :: next :: rest =>
      have other : key ≠ name := by
        rintro rfl
        simp [pathBelow?] at beside
      rw [assign, Entries.get?_put_other other, if_neg (by simp), Option.or_none]

/-- A text that is assigned beside a name leaves the fields there. -/
theorem fieldsAt_assign_beside {names : List Text} (beside : pathBelow? name names = none)
    (text : Text) (data : Entries Value) :
    fieldsAt name (assign text names data) = fieldsAt name data := by
  rw [fieldsAt, get?_assign_beside beside]
  split_ifs
  · cases held : data.get? name <;> simp [fieldsAt, held, Value.fields]
  · rw [Option.or_none, fieldsAt]

/-- What assigned texts make under a name. -/
theorem get?_assignAll (found : List (List Text × Text)) (data : Entries Value) (name : Text) :
    (assignAll found data).get? name =
      if below name found = [] then (data.get? name).or ((firstAt name found).map .text)
      else some (.record (assignAll (below name found) (fieldsAt name data))) := by
  induction found generalizing data with
  | nil => simp [assignAll, below, firstAt]
  | cons entry found inductionHypothesis =>
      obtain ⟨names, text⟩ := entry
      have later := inductionHypothesis (assign text names data)
      rw [below_cons, firstAt_cons]
      change (assignAll found (assign text names data)).get? name = _
      cases inside : pathBelow? name names with
      | some rest =>
          have first := get?_assign_below inside text data
          have filled : fieldsAt name (assign text names data) =
              assign text rest (fieldsAt name data) := by
            rw [fieldsAt, first]
            rfl
          rw [later, first, filled, Option.some_or]
          simp only [Option.map_some, Option.toList_some, List.singleton_append,
            List.cons_ne_nil, if_false]
          split_ifs with last
          · rw [last]
            rfl
          · rfl
      | none =>
          rw [later, get?_assign_beside inside, fieldsAt_assign_beside inside, Option.or_assoc,
            Option.map_none, Option.toList_none, List.nil_append]
          congr 2
          split_ifs <;> rfl

/-! ## Found texts -/

/-- A path is below a name when the name begins it and something follows. -/
theorem pathBelow?_eq_some {names rest : List Text} :
    pathBelow? name names = some rest ↔ rest ≠ [] ∧ names = name :: rest := by
  unfold pathBelow?
  split
  · rename_i first next more
    split_ifs with same
    · subst same
      refine Option.some_inj.trans ⟨?_, fun both => (List.cons.inj both.2).2⟩
      rintro rfl
      exact ⟨List.cons_ne_nil _ _, rfl⟩
    · exact iff_of_false (fun impossible => nomatch impossible)
        fun both => same (List.cons.inj both.2).1
  · rename_i short
    refine iff_of_false (fun impossible => nomatch impossible) ?_
    rintro ⟨present, rfl⟩
    obtain ⟨next, more, rfl⟩ := List.exists_cons_of_ne_nil present
    exact short name next more rfl

/-- What is found below a name is found with the name in front. -/
theorem mem_below {rest : List Text} {found : List (List Text × Text)} :
    (rest, text) ∈ below name found ↔ rest ≠ [] ∧ (name :: rest, text) ∈ found := by
  simp only [below, List.mem_filterMap, Option.map_eq_some_iff, Prod.mk.injEq]
  constructor
  · rintro ⟨⟨names, held⟩, listed, more, inside, rfl, rfl⟩
    obtain ⟨present, rfl⟩ := pathBelow?_eq_some.mp inside
    exact ⟨present, listed⟩
  · rintro ⟨present, listed⟩
    exact ⟨_, listed, rest, pathBelow?_eq_some.mpr ⟨present, rfl⟩, rfl, rfl⟩

/-- A finding is a text that was captured, with its path in names. -/
theorem mem_finds {names : List Text} : (names, text) ∈ finds captured ↔
    ∃ path, ⟨path, some text⟩ ∈ captured ∧ Text.splitOn '.' path = names := by
  simp only [finds, List.mem_filterMap, Option.map_eq_some_iff, Prod.mk.injEq]
  constructor
  · rintro ⟨⟨path, held⟩, listed, other, found, names, rfl⟩
    exact ⟨path, found ▸ listed, names⟩
  · rintro ⟨path, listed, names⟩
    exact ⟨_, listed, text, rfl, names, rfl⟩

/-! ## Leaves of the data -/

/-- Assigning along names keeps records nested. -/
theorem isNested_assign (named : ∀ name ∈ names, isName name)
    (nested : Value.IsNested isName (.record data)) (text : Text) :
    Value.IsNested isName (.record (assign text names data)) := by
  induction names generalizing data with
  | nil => exact nested
  | cons name names inductionHypothesis =>
      obtain ⟨here, later⟩ := List.forall_mem_cons.mp named
      cases names with
      | nil =>
          rw [assign]
          split_ifs
          · exact nested
          · exact Value.isNested_put nested here (.leaf rfl)
      | cons next names =>
          refine Value.isNested_put nested here (inductionHypothesis later ?_)
          cases held : data.get? name with
          | none => exact .leaf rfl
          | some inner => exact Value.isNested_record.mpr (nested.of_get? held).parts

/-- So does assigning all findings. -/
theorem isNested_assignAll (named : ∀ entry ∈ found, ∀ name ∈ entry.1, isName name)
    (nested : Value.IsNested isName (.record data)) :
    Value.IsNested isName (.record (assignAll found data)) := by
  induction found generalizing data with
  | nil => exact nested
  | cons entry found inductionHypothesis =>
      obtain ⟨here, later⟩ := List.forall_mem_cons.mp named
      exact inductionHypothesis later (isNested_assign here nested entry.2)

/-- No name is assigned twice. -/
theorem nodup_keys_assignAll (found : List (List Text × Text)) :
    (assignAll found []).keys.Nodup := by
  have nested : Value.IsNested (fun _ => True) (.record (assignAll found [])) :=
    isNested_assignAll (fun _ _ _ _ => trivial) (.leaf rfl)
  exact nested.parts.1

/-- The first text along a path was found. -/
theorem mem_of_firstAlong (first : firstAlong names found = some text) : (names, text) ∈ found := by
  obtain ⟨⟨own, held⟩, listed, shows⟩ := List.exists_of_findSome?_eq_some first
  dsimp only at shows
  split_ifs at shows with same
  rwa [same, Option.some.inj shows] at listed

/-- The first text below a name is the first along the longer path. -/
theorem firstAlong_below (present : names ≠ []) (name : Text) (found : List (List Text × Text)) :
    firstAlong names (below name found) = firstAlong (name :: names) found := by
  induction found with
  | nil => rfl
  | cons entry found inductionHypothesis =>
      obtain ⟨own, text⟩ := entry
      rw [below_cons, firstAlong_cons, ← inductionHypothesis]
      cases inside : pathBelow? name own with
      | none =>
          have other : own ≠ name :: names := fun same =>
            nomatch inside.symm.trans (pathBelow?_eq_some.mpr ⟨present, same⟩)
          rw [if_neg other]
          rfl
      | some rest =>
          obtain ⟨-, rfl⟩ := pathBelow?_eq_some.mp inside
          simp only [Option.map_some, Option.toList_some, List.singleton_append, firstAlong_cons,
            List.cons.injEq, true_and]

/-- No names along which a text was found lead on to further names. -/
def AreApart (found : List (List Text × Text)) : Prop :=
  ∀ names text rest other, (names, text) ∈ found → (names ++ rest, other) ∈ found → rest = []

/-- Findings below a name are apart when all are. -/
theorem AreApart.below (apart : AreApart found) (name : Text) :
    AreApart (below name found) := by
  intro names text rest other listed listedOther
  obtain ⟨-, listed⟩ := mem_below.mp listed
  obtain ⟨-, listedOther⟩ := mem_below.mp listedOther
  exact apart (name :: names) text rest other listed listedOther

/-- Where something was found there is data. -/
theorem assignAll_ne_nil (listed : (names, text) ∈ found) (present : names ≠ []) :
    assignAll found [] ≠ [] := by
  obtain ⟨name, rest, rfl⟩ := List.exists_cons_of_ne_nil present
  intro empty
  have absent := get?_assignAll found [] name
  rw [empty, Entries.get?_nil, Option.none_or] at absent
  split_ifs at absent with shallow
  obtain rfl : rest = [] := by
    by_contra goesOn
    exact List.ne_nil_of_mem (mem_below.mpr ⟨goesOn, listed⟩) shallow
  have first := List.findSome?_eq_none_iff.mp (Option.map_eq_none_iff.mp absent.symm) _ listed
  simp at first

/-- Where no names lead on, the leaves of assigned texts are those that were found first. -/
theorem leaf?_assignAll (apart : AreApart found) (present : names ≠ []) :
    Value.leaf? names (.record (assignAll found [])) = (firstAlong names found).map .text := by
  induction names generalizing found with
  | nil => exact absurd rfl present
  | cons name names inductionHypothesis =>
      have first : firstAlong [name] found = firstAt name found := rfl
      rw [Value.leaf?_cons, Value.fields, get?_assignAll, Entries.get?_nil, Option.none_or]
      by_cases shallow : Extraction.below name found = []
      · rw [if_pos shallow, ← first]
        by_cases last : names = []
        · subst last
          cases firstAlong [name] found <;> rfl
        · rw [← firstAlong_below last, shallow]
          cases firstAlong [name] found with
          | none => rfl
          | some text =>
              have ends : (Value.text text).isLeaf = true := rfl
              simp [Value.leaf?_of_isLeaf ends, last, firstAlong]
      · rw [if_neg shallow, Option.bind_some]
        change Value.leaf? names (.record (assignAll (Extraction.below name found) [])) = _
        by_cases last : names = []
        · -- A text below the name stands in the way of one at the name.
          subst last
          obtain ⟨⟨rest, text⟩, listed⟩ := List.exists_mem_of_ne_nil _ shallow
          obtain ⟨goesOn, inside⟩ := mem_below.mp listed
          have none : firstAlong [name] found = none := by
            refine Option.eq_none_iff_forall_ne_some.mpr fun other here => goesOn ?_
            exact apart [name] other rest text (mem_of_firstAlong here) inside
          have full : ¬ (Value.record (assignAll (Extraction.below name found) [])).isLeaf := by
            rw [Value.isLeaf_record]
            exact assignAll_ne_nil listed goesOn
          rw [none, Value.leaf?_nil, if_neg full]
          rfl
        · rw [inductionHypothesis (apart.below name) last, firstAlong_below last]

/-- The first text found for a path. -/
def foundAt (path : Text) (captured : List Capture) : Option Text :=
  captured.findSome? fun capture => if capture.path = path then capture.found else none

/-- The first text along the names of a path is the first one captured for it. -/
theorem firstAlong_finds (path : Text) (captured : List Capture) :
    firstAlong (Text.splitOn '.' path) (finds captured) = foundAt path captured := by
  induction captured with
  | nil => rfl
  | cons capture captured inductionHypothesis =>
      obtain ⟨own, found⟩ := capture
      rw [foundAt, List.findSome?_cons]
      cases found with
      | none =>
          rw [ite_self]
          exact inductionHypothesis
      | some text =>
          have first : finds (⟨own, some text⟩ :: captured) =
              (Text.splitOn '.' own, text) :: finds captured := rfl
          rw [first, firstAlong_cons, inductionHypothesis]
          dsimp only
          rw [if_congr Text.splitOn_inj rfl rfl]
          split_ifs <;> rfl

/-- A path whose names are not blank. -/
def IsNamed (path : Text) : Prop :=
  ∀ name ∈ Text.splitOn '.' path, name ≠ []

/-- The names of a path are names. -/
theorem isNamed_of_isPath {path : Text} (isPath : Segment.isPath path) : IsNamed path := by
  intro name present
  have names := (Bool.and_eq_true_iff.mp isPath).2
  have isName := List.all_eq_true.mp names name present
  rintro rfl
  cases isName

/-- The data are nested along the names of the paths. -/
theorem isNested_data (named : ∀ path ∈ captured.map Capture.path, IsNamed path) :
    Value.IsNested Value.IsName (.record (ofCaptures captured).data) := by
  rw [data_ofCaptures]
  refine isNested_assignAll (fun entry listed => ?_) (.leaf rfl)
  obtain ⟨own, here, names⟩ := mem_finds.mp (show (entry.1, entry.2) ∈ _ from listed)
  rw [← names]
  exact fun name part => ⟨named own (List.mem_map_of_mem here) name part,
    Text.not_mem_of_mem_splitOn part⟩

/-- Findings of independent paths are apart. -/
theorem areApart_finds
    (independent : Value.NoneLeadsInto (captured.map Capture.path) (captured.map Capture.path)) :
    AreApart (finds captured) := by
  intro names text rest other listed listedOther
  obtain ⟨own, here, rfl⟩ := mem_finds.mp listed
  obtain ⟨below, further, pieces⟩ := mem_finds.mp listedOther
  by_contra goesOn
  exact independent own (List.mem_map_of_mem here) below (List.mem_map_of_mem further)
    (Text.prefix_of_splitOn pieces goesOn)

/-- Where no path leads into another, the leaves of the data are the texts found first. -/
theorem get?_flat_data (named : ∀ path ∈ captured.map Capture.path, IsNamed path)
    (independent : Value.NoneLeadsInto (captured.map Capture.path) (captured.map Capture.path))
    (path : Text) :
    (Value.record (ofCaptures captured).data).flat.get? path =
      (foundAt path captured).map .text := by
  have nested := isNested_data named
  rw [Value.get?_flat (nested.plain_eq.symm ▸ nested), nested.plain_eq, data_ofCaptures,
    leaf?_assignAll (areApart_finds independent) (Value.splitOn_ne_nil path), firstAlong_finds]

end Extraction

end Issuebook
