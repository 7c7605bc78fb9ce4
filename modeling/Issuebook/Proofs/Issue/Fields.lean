import Issuebook.Proofs.Issue.Validity
import Issuebook.Template.Lookup

/-!
# Fields of issues

How every field of an issue comes from the value under its name in the record that makes it, when
the record has no field under its second name alone: `issueField_of_isWritten` gives the field, and
`exists_ofRecord_iff` tells whether there is an issue at all.
-/

namespace Issuebook.Intake

variable {record : Entries Value} {issue base : Issue} {name : Text}

/-! ## What is taken in -/

/-- The value of a text field that was taken in. -/
def takeText (held : Option Value) : Value :=
  .ofText? ((checkText held).getD none)

/-- The value of a list field that was taken in. -/
def takeList (held : Option Value) : Value :=
  .ofTexts? (held.bind Value.idList?)

/-- The priority that was taken in. -/
def takePriority (held : Option Value) : Priority :=
  ((held.map Priority.ofValue?).getD (some .standard)).getD .standard

/-- The value of the source that was taken in. -/
def takeSource (held : Option Value) : Value :=
  .ofText? ((held.bind Side.ofValue?).map Side.name)

/-- How every field that a template can show is taken in, from the value under its name. -/
def takers : Entries (Option Value → Value) :=
  [("id", fun held => .text ((checkId held).getD [])),
    ("title", fun held => .text ((checkTitle held).getD [])), ("description", takeText),
    ("status", fun held => .text ((held.map Status.ofValue).getD .opened).name),
    ("type", fun held => .text ((held.map Kind.ofValue).getD .task).name),
    ("priority", fun held => .int (takePriority held).val),
    ("labels", takeList), ("assignee", takeText), ("createdAt", takeText),
    ("updatedAt", takeText), ("closedAt", takeText), ("dependsOn", takeList),
    ("blocks", takeList), ("children", takeList), ("parent", takeText)]

/-- How every field is taken in. -/
def allTakers : Entries (Option Value → Value) :=
  takers ++ ([("source", takeSource)] : Entries (Option Value → Value))

/-- Whether a value is accepted for a field that holds a text. -/
def acceptsText (held : Option Value) : Bool :=
  (checkText held).isOk

/-- Which values are accepted for the fields that hold a text; others accept every value. -/
def checks : Entries (Option Value → Bool) :=
  [("id", fun held => (checkId held).isOk), ("title", fun held => (checkTitle held).isOk),
    ("description", acceptsText), ("assignee", acceptsText), ("createdAt", acceptsText),
    ("updatedAt", acceptsText), ("closedAt", acceptsText), ("parent", acceptsText)]

/-! ## Records with the names that are written -/

/-- The other names of fields. -/
def otherNames : List Text :=
  ["created_at", "updated_at", "closed_at", "depends_on"]

/-- The names that are written for fields with another name. -/
def usualNames : Entries Text :=
  [("created_at", "createdAt"), ("updated_at", "updatedAt"), ("closed_at", "closedAt"),
    ("depends_on", "dependsOn")]

/-- The name that is written for a field. -/
def usualName (name : Text) : Text :=
  (usualNames.get? name).getD name

/-- A record in which no field stands under its other name alone. -/
def IsWritten (record : Entries Value) : Prop :=
  ∀ names ∈ usualNames, record.has names.2 ∨ record.get? names.1 = none

/-- A field with one name is found under it. -/
theorem field?_single (record : Entries Value) (name : Text) :
    field? record [name] = record.get? name := by
  simp only [field?, List.findSome?_cons, List.findSome?_nil]
  cases record.get? name <;> rfl

/-- A field with two names is found under the usual one, if it is there or the other is not. -/
theorem field?_pair {usual other : Text} (written : record.has usual ∨ record.get? other = none) :
    field? record [usual, other] = record.get? usual := by
  simp only [field?, List.findSome?_cons, List.findSome?_nil]
  rcases written with held | absent
  · obtain ⟨value, held⟩ := Option.isSome_iff_exists.mp held
    rw [held]
  · rw [absent]
    cases record.get? usual <;> rfl

/-- Such a field has its usual name in the record. -/
theorem nameIn_of_written {usual other : Text}
    (written : record.has usual ∨ record.get? other = none) :
    nameIn record usual other = usual := by
  rcases written with held | absent
  · rw [nameIn, held, Bool.true_or, if_pos rfl]
  · exact nameIn_usual usual absent

/-- In such a record every field is looked up under the name that is written. -/
theorem IsWritten.names (written : IsWritten record) :
    nameIn record "createdAt" "created_at" = "createdAt" ∧
      nameIn record "updatedAt" "updated_at" = "updatedAt" ∧
      nameIn record "closedAt" "closed_at" = "closedAt" ∧
      field? record ["dependsOn", "depends_on"] = record.get? "dependsOn" := by
  simp only [IsWritten, usualNames, List.forall_mem_cons] at written
  obtain ⟨created, updated, closed, depends, -⟩ := written
  exact ⟨nameIn_of_written created, nameIn_of_written updated, nameIn_of_written closed,
    field?_pair depends⟩

/-- A priority that is found is taken. -/
theorem takePriority_eq {priority : Priority} (found : priority? record = some priority) :
    takePriority (record.get? "priority") = priority := by
  unfold priority? at found
  cases held : record.get? "priority" with
  | none =>
      rw [held] at found
      exact Option.some.inj found
  | some value =>
      rw [held] at found
      exact congrArg (fun read : Option Priority => read.getD .standard) found

/-- The fields of an issue are taken from the values under their names. -/
theorem issueField_of_isWritten (made : ofRecord record = .ok issue) (written : IsWritten record) :
    ∀ entry ∈ allTakers, Finding.issueField issue entry.1 = entry.2 (record.get? entry.1) := by
  obtain ⟨created, updated, closed, depends⟩ := written.names
  unfold ofRecord at made
  simp only [created, updated, closed, depends, field?_single] at made
  split at made
  · cases made
  · rename_i priority found
    split_ifs at made
    obtain rfl := Except.ok.inj made
    obtain rfl := takePriority_eq found
    simp only [allTakers, takers, List.cons_append, List.nil_append, List.forall_mem_cons]
    exact ⟨rfl, rfl, rfl, rfl, rfl, rfl, rfl, rfl, rfl, rfl, rfl, rfl, rfl, rfl, rfl, rfl,
      List.forall_mem_nil _⟩

/-- A field has no problem exactly when its check passes. -/
theorem problem_eq_nil {α : Type} {name : Text} {field : Checked α} :
    Checked.problem name field = [] ↔ field.isOk = true := by
  cases field with
  | ok value => exact iff_of_true rfl rfl
  | error defect => exact iff_of_false (List.cons_ne_nil _ _) Bool.false_ne_true

/-- A record makes an issue when it has a priority and accepted values for the texts. -/
theorem exists_ofRecord_iff (written : IsWritten record) :
    (∃ issue, ofRecord record = .ok issue) ↔ priority? record ≠ none ∧
      ∀ check ∈ checks, check.2 (record.get? check.1) = true := by
  obtain ⟨created, updated, closed, -⟩ := written.names
  unfold ofRecord
  simp only [created, updated, closed, field?_single]
  cases found : priority? record with
  | none =>
      refine iff_of_false ?_ fun both => both.1 rfl
      rintro ⟨issue, made⟩
      cases made
  | some priority =>
      dsimp only
      rw [and_iff_right (Option.some_ne_none _)]
      simp only [checks, acceptsText, List.forall_mem_cons, List.not_mem_nil, false_implies,
        implies_true, and_true]
      split_ifs with clear
      · simp only [List.isEmpty_iff, List.append_eq_nil_iff, problem_eq_nil, and_assoc] at clear
        exact iff_of_true ⟨_, rfl⟩ clear
      · simp only [List.isEmpty_iff, List.append_eq_nil_iff, problem_eq_nil, and_assoc] at clear
        refine iff_of_false ?_ clear
        rintro ⟨issue, made⟩
        cases made

/-! ## Records of issues and their edits -/

/-- The record of an issue has a key for each taker. -/
theorem keys_toRecord (base : Issue) : base.toRecord.keys = allTakers.keys :=
  rfl

/-- So it has each of these fields. -/
theorem has_toRecord (base : Issue) (known : name ∈ allTakers.keys) :
    base.toRecord.has name = true := by
  rw [← keys_toRecord base] at known
  cases held : base.toRecord.get? name with
  | none => exact absurd known (Entries.absent_of_get? held)
  | some value => rw [Entries.has, held, Option.isSome_some]

/-- Of two names the usual one has a taker, and the other has none. -/
theorem mem_keys_of_mem_usualNames :
    ∀ names ∈ usualNames, names.2 ∈ allTakers.keys ∧ names.1 ∉ allTakers.keys := by
  decide +kernel

/-- A record with all fields has the usual names. -/
theorem isWritten_of_has (held : ∀ name ∈ allTakers.keys, record.has name) : IsWritten record :=
  fun names listed => .inl (held names.2 (mem_keys_of_mem_usualNames names listed).1)

/-- So has a record without the other names. -/
theorem isWritten_of_others (others : ∀ name ∈ otherNames, record.get? name = none) :
    IsWritten record :=
  fun names listed => .inr (others names.1 (List.mem_map_of_mem listed))

/-- Where no field stands under its other name, the fields are taken from the values under the
names that are written. -/
theorem issueField_of_ofRecord (made : ofRecord record = .ok issue)
    (others : ∀ name ∈ otherNames, record.get? name = none) :
    ∀ entry ∈ takers, Finding.issueField issue entry.1 = entry.2 (record.get? entry.1) :=
  fun entry listed => issueField_of_isWritten made (isWritten_of_others others) entry
    (List.mem_append_left _ listed)

/-- Every check is about a field with a taker. -/
theorem checks_subset : checks.keys ⊆ allTakers.keys := by
  intro name listed
  revert name
  decide +kernel

/-- The record of an issue has the usual names. -/
theorem isWritten_toRecord (base : Issue) : IsWritten base.toRecord :=
  isWritten_of_has fun _ => has_toRecord base

/-- A valid issue is read back from its record. -/
theorem ofRecord_toRecord (valid : base.IsValid) : ofRecord base.toRecord = .ok base :=
  ofRecord_of_carries (carries_toRecord valid) valid.id

/-- The fields of a valid issue are taken from its own record. -/
theorem issueField_own (valid : base.IsValid) : ∀ entry ∈ allTakers,
    Finding.issueField base entry.1 = entry.2 (base.toRecord.get? entry.1) :=
  issueField_of_isWritten (ofRecord_toRecord valid) (isWritten_toRecord base)

/-- A valid issue passes its own checks. -/
theorem checks_own (valid : base.IsValid) :
    ∀ check ∈ checks, check.2 (base.toRecord.get? check.1) = true :=
  ((exists_ofRecord_iff (isWritten_toRecord base)).mp ⟨base, ofRecord_toRecord valid⟩).2

/-- A text that is not blank is accepted for every field. -/
theorem checks_text {text : Text} (solid : ¬ Text.isAllBlank text) :
    ∀ check ∈ checks, check.2 (some (.text text)) = true := by
  have trimmed : Text.trim text ≠ [] := fun gone => solid ((Text.trim_eq_nil_iff text).mp gone)
  have id : checkId (some (.text text)) = .ok (Text.trim text) := by
    simp [checkId, Value.cleanText?, Value.scalarText?, trimmed]
  simp only [checks, List.forall_mem_cons, id]
  exact ⟨rfl, rfl, rfl, rfl, rfl, rfl, rfl, rfl, List.forall_mem_nil _⟩

/-- A record is accepted for no field that holds a text. -/
theorem checks_record (fields : Entries Value) :
    ∀ check ∈ checks, check.2 (some (.record fields)) = false := by
  simp only [checks, List.forall_mem_cons]
  exact ⟨rfl, rfl, rfl, rfl, rfl, rfl, rfl, rfl, List.forall_mem_nil _⟩

/-- A valid issue has no record for a field that holds a text. -/
theorem own_ne_record (valid : base.IsValid) (listed : name ∈ checks.keys)
    (fields : Entries Value) : base.toRecord.get? name ≠ some (.record fields) := by
  obtain ⟨check, present, rfl⟩ := List.mem_map.mp listed
  intro held
  have accepted := checks_own valid check present
  rw [held, checks_record fields check present] at accepted
  cases accepted

/-- What is in a record does not matter where a field is made of it. -/
theorem takers_record (fields : Entries Value) :
    ∀ entry ∈ allTakers, entry.2 (some (.record fields)) = entry.2 (some (.record [])) := by
  simp only [allTakers, takers, List.cons_append, List.nil_append, List.forall_mem_cons]
  exact ⟨rfl, rfl, rfl, rfl, rfl, rfl, rfl, rfl, rfl, rfl, rfl, rfl, rfl, rfl, rfl, rfl,
    List.forall_mem_nil _⟩

/-- What a name of a field can hold so that the field is taken in: a text that is not blank, or
the value of a valid issue. -/
def IsTakable (base : Issue) (name : Text) (held : Option Value) : Prop :=
  held = base.toRecord.get? name ∨ ∃ text, ¬ Text.isAllBlank text ∧ held = some (.text text)

/-- What a name holds after an edit: the value of an issue, a text that is not blank, or a
record. -/
def IsEdited (base : Issue) (name : Text) (held : Option Value) : Prop :=
  IsTakable base name held ∨ ∃ fields, held = some (.record fields)

/-- What can be taken for a field passes its check. -/
theorem accepts_of_isTakable (valid : base.IsValid) {held : Option Value}
    {check : Text × (Option Value → Bool)} (listed : check ∈ checks)
    (takable : IsTakable base check.1 held) : check.2 held = true := by
  rcases takable with rfl | ⟨text, solid, rfl⟩
  · exact checks_own valid check listed
  · exact checks_text solid check listed

/-- An edited record has a priority. -/
theorem priority?_of_isEdited (edited : IsEdited base "priority" (record.get? "priority")) :
    priority? record ≠ none := by
  unfold priority?
  rcases edited with (own | ⟨text, -, held⟩) | ⟨fields, held⟩
  · rw [own]
    exact fun absent => Option.some_ne_none _ ((ofValue?_priority base.priority).symm.trans absent)
  · rw [held]
    exact Option.some_ne_none _
  · rw [held]
    exact Option.some_ne_none _

/-- It has the usual names. -/
theorem isWritten_of_isEdited (edited : ∀ name, IsEdited base name (record.get? name)) :
    IsWritten record := by
  refine isWritten_of_has fun name known => ?_
  rw [Entries.has]
  rcases edited name with (own | ⟨text, -, held⟩) | ⟨fields, held⟩
  · rw [own]
    exact has_toRecord base known
  · rw [held, Option.isSome_some]
  · rw [held, Option.isSome_some]

/-- An edited record makes an issue exactly when no field that holds a text has become a record. -/
theorem exists_ofRecord_of_isEdited (valid : base.IsValid)
    (edited : ∀ name, IsEdited base name (record.get? name)) :
    (∃ issue, ofRecord record = .ok issue) ↔
      ∀ name ∈ checks.keys, ∀ fields, record.get? name ≠ some (.record fields) := by
  rw [exists_ofRecord_iff (isWritten_of_isEdited edited), and_iff_right
    (priority?_of_isEdited (edited "priority")), Entries.keys, List.forall_mem_map]
  refine forall₂_congr fun check listed => ⟨fun accepted fields held => ?_, fun plain => ?_⟩
  · rw [held, checks_record fields check listed] at accepted
    cases accepted
  · refine accepts_of_isTakable valid listed ((edited check.1).resolve_right ?_)
    rintro ⟨fields, held⟩
    exact plain fields held

/-- A valid issue with an accepted value in the place of one field makes an issue, whose other
fields are the same. -/
theorem exists_ofRecord_put (valid : base.IsValid) {value : Value}
    (edited : IsEdited base name (some value))
    (fits : name ∈ checks.keys → ∀ fields, value ≠ .record fields) :
    ∃ made, ofRecord (base.toRecord.put name value) = .ok made ∧
      ∀ entry ∈ allTakers, Finding.issueField made entry.1 =
        entry.2 (if name = entry.1 then some value else base.toRecord.get? entry.1) := by
  have held (other : Text) : (base.toRecord.put name value).get? other =
      if name = other then some value else base.toRecord.get? other := by
    split_ifs with same
    · rw [same, Entries.get?_put_same]
    · exact Entries.get?_put_other same _
  have each : ∀ other, IsEdited base other ((base.toRecord.put name value).get? other) := by
    intro other
    rw [held]
    split_ifs with same
    · exact same ▸ edited
    · exact .inl (.inl rfl)
  obtain ⟨made, taken⟩ := (exists_ofRecord_of_isEdited valid each).mpr fun other listed fields => by
    rw [held]
    split_ifs with same
    · exact fun record => fits (same ▸ listed) fields (Option.some.inj record)
    · exact own_ne_record valid listed fields
  refine ⟨made, taken, fun entry listed => ?_⟩
  rw [issueField_of_isWritten taken (isWritten_of_isEdited each) entry listed, held]

end Issuebook.Intake
