import Issuebook.Issue.Intake
import Issuebook.Proofs.Entries
import Issuebook.Proofs.Text.Trimming
import Mathlib.Tactic.SplitIfs

/-!
# Valid issues

The issues that records can make: `isValid_iff` shows that the laws of `Issue.IsValid` are
exactly those of the issues that intake lets in.
-/

namespace Issuebook

/-- A text that trimming leaves as it is and something of. -/
def Text.IsClean (text : Text) : Prop :=
  Text.trim text = text ∧ text ≠ []

instance (text : Text) : Decidable (Text.IsClean text) :=
  inferInstanceAs (Decidable (_ ∧ _))

/-- A clean text is not blank. -/
theorem Text.IsClean.solid {text : Text} (clean : Text.IsClean text) :
    ¬ Text.isAllBlank text := by
  rw [← Text.trim_eq_nil_iff, clean.1]
  exact clean.2

/-- It begins with no white space. -/
theorem Text.dropWhile_of_isClean {text : Text} (clean : Text.IsClean text) :
    text.dropWhile Text.isBlank = text := by
  refine (List.dropWhile_suffix Text.isBlank).eq_of_length_le ?_
  calc text.length = (Text.trim text).length := by rw [clean.1]
    _ ≤ (text.dropWhile Text.isBlank).length := (List.rdropWhile_prefix Text.isBlank _).length_le

/-- A clean text begins with no white space. -/
theorem Text.IsClean.not_isBlank {first : Char} {rest : Text}
    (clean : Text.IsClean (first :: rest)) :
    ¬ Text.isBlank first :=
  List.dropWhile_eq_self_iff.mp (Text.dropWhile_of_isClean clean) (Nat.succ_pos _)

/-- It ends with none. -/
theorem Text.trimEnd_of_isClean {text : Text} (clean : Text.IsClean text) :
    Text.trimEnd text = text := by
  have trimmed := clean.1
  rwa [Text.trim_eq, Text.dropWhile_of_isClean clean] at trimmed

namespace Issue

/-- Every item of an optional list is clean. -/
def HasCleanItems (field : Option (List Text)) : Prop :=
  ∀ item ∈ itemsOrNone field, Text.IsClean item

instance (field : Option (List Text)) : Decidable (HasCleanItems field) :=
  List.decidableBAll _ _

/-- An optional text says something where it is present. -/
def SaysSomething (field : Option Text) : Prop :=
  ∀ written ∈ field, Text.isAllBlank written = false

instance (field : Option Text) : Decidable (SaysSomething field) :=
  inferInstanceAs (Decidable (∀ written ∈ field, Text.isAllBlank written = false))

/-- The laws of an issue that was taken in: identifiers and list items are clean, and an
optional text is not blank. -/
structure IsValid (issue : Issue) : Prop where
  /-- The identifier is clean. -/
  id : Text.IsClean issue.id
  /-- A present description says something. -/
  description : SaysSomething issue.description
  /-- Labels are clean. -/
  labels : HasCleanItems issue.labels
  /-- A present assignee says something. -/
  assignee : SaysSomething issue.assignee
  /-- A present time of creation says something. -/
  createdAt : SaysSomething issue.createdAt
  /-- A present time of change says something. -/
  updatedAt : SaysSomething issue.updatedAt
  /-- A present time of closing says something. -/
  closedAt : SaysSomething issue.closedAt
  /-- The issues it waits for have clean identifiers. -/
  dependsOn : HasCleanItems issue.dependsOn
  /-- The issues that wait for it have clean identifiers. -/
  blocks : HasCleanItems issue.blocks
  /-- Its parts have clean identifiers. -/
  children : HasCleanItems issue.children
  /-- A present parent says something. -/
  parent : SaysSomething issue.parent

end Issue

namespace Intake

variable {record : Entries Value} {issue : Issue}

/-- A record whose fields are those of an issue, each under its usual name. -/
structure Carries (record : Entries Value) (issue : Issue) : Prop where
  /-- The identifier. -/
  id : record.get? "id" = some (.text issue.id)
  /-- The title. -/
  title : record.get? "title" = some (.text issue.title)
  /-- The description. -/
  description : checkText (record.get? "description") = .ok issue.description
  /-- The status. -/
  status : record.get? "status" = some (.text issue.status.name)
  /-- The kind. -/
  kind : record.get? "type" = some (.text issue.kind.name)
  /-- The priority. -/
  priority : record.get? "priority" = some (.int issue.priority.val)
  /-- The labels. -/
  labels : (record.get? "labels").bind Value.idList? = issue.labels
  /-- The assignee. -/
  assignee : checkText (record.get? "assignee") = .ok issue.assignee
  /-- The time of creation. -/
  createdAt : checkText (record.get? "createdAt") = .ok issue.createdAt
  /-- The time of change. -/
  updatedAt : checkText (record.get? "updatedAt") = .ok issue.updatedAt
  /-- The time of closing. -/
  closedAt : checkText (record.get? "closedAt") = .ok issue.closedAt
  /-- The issues it waits for. -/
  dependsOn : (record.get? "dependsOn").bind Value.idList? = issue.dependsOn
  /-- The issues that wait for it. -/
  blocks : (record.get? "blocks").bind Value.idList? = issue.blocks
  /-- Its parts. -/
  children : (record.get? "children").bind Value.idList? = issue.children
  /-- The parent. -/
  parent : checkText (record.get? "parent") = .ok issue.parent
  /-- The source. -/
  source : (record.get? "source").bind Side.ofValue? = issue.source
  /-- No field stands under its other name. -/
  others : ∀ name ∈ (["created_at", "updated_at", "closed_at", "depends_on"] : List Text),
    record.get? name = none

/-- A clean text stays as it is. -/
theorem cleanText?_text {text : Text} (clean : Text.IsClean text) :
    Value.cleanText? (.text text) = some text := by
  simp [Value.cleanText?, Value.scalarText?, clean.1, clean.2]

/-- It passes as an identifier. -/
theorem checkId_text {id : Text} (clean : Text.IsClean id) :
    checkId (some (.text id)) = .ok id := by
  rw [checkId, cleanText?_text clean]

/-- A text that says something passes as it is. -/
theorem checkText_ofText? {field : Option Text} (present : Issue.SaysSomething field) :
    checkText (some (.ofText? field)) = .ok field := by
  cases field with
  | none => rfl
  | some written =>
      simp [Value.ofText?, checkText, Value.scalarText?, present written rfl]

/-- A list of clean texts stays as it is. -/
theorem idList?_ofTexts {texts : List Text} (clean : ∀ text ∈ texts, Text.IsClean text) :
    (Value.ofTexts texts).idList? = some texts := by
  have items : texts.filterMap (fun text => Value.cleanText? (.text text)) = texts := by
    induction texts with
    | nil => rfl
    | cons text texts inductionHypothesis =>
        rw [List.filterMap_cons, cleanText?_text (clean text (by simp))]
        simp only
        rw [inductionHypothesis fun text later => clean text (by simp [later])]
  simp [Value.ofTexts, Value.idList?, List.filterMap_map, items]

/-- A status is read back from its name. -/
theorem ofValue_statusName (status : Status) : Status.ofValue (.text status.name) = status := by
  cases status <;> rfl

/-- A kind is read back from its name. -/
theorem ofValue_kindName (kind : Kind) : Kind.ofValue (.text kind.name) = kind := by
  cases kind <;> rfl

/-- A side is read back from its name. -/
theorem ofValue?_sideName (side : Side) : Side.ofValue? (.text side.name) = some side := by
  cases side <;> rfl

/-- A priority is read back from its number. -/
theorem ofValue?_priority (priority : Priority) :
    Priority.ofValue? (.int priority.val) = some priority := by
  match priority with
  | 0 | 1 | 2 | 3 | 4 => rfl

/-- Without the other name, a field has the usual one. -/
theorem nameIn_usual (usual : Text) {other : Text} (absent : record.get? other = none) :
    nameIn record usual other = usual := by
  simp [nameIn, Entries.has, absent]

/-- A record that carries an issue makes it. -/
theorem ofRecord_of_carries (carries : Carries record issue) (clean : Text.IsClean issue.id) :
    ofRecord record = .ok issue := by
  have createdName := nameIn_usual "createdAt" (carries.others "created_at" (by simp))
  have updatedName := nameIn_usual "updatedAt" (carries.others "updated_at" (by simp))
  have closedName := nameIn_usual "closedAt" (carries.others "closed_at" (by simp))
  have alone (name : Text) : field? record [name] = record.get? name := by
    simp only [field?, List.findSome?_cons, List.findSome?_nil]
    cases record.get? name <;> rfl
  have id : checkId (field? record ["id"]) = .ok issue.id := by
    rw [alone, carries.id, checkId_text clean]
  have title : checkTitle (field? record ["title"]) = .ok issue.title := by
    rw [alone, carries.title]
    rfl
  have priority : priority? record = some issue.priority := by
    rw [priority?, carries.priority]
    exact ofValue?_priority issue.priority
  have depends : field? record ["dependsOn", "depends_on"] = record.get? "dependsOn" := by
    simp only [field?, List.findSome?_cons, List.findSome?_nil,
      carries.others "depends_on" (by simp)]
    cases record.get? "dependsOn" <;> rfl
  simp only [ofRecord, createdName, updatedName, closedName, id, title, priority, depends]
  simp only [alone, carries.description, carries.assignee, carries.createdAt, carries.updatedAt,
    carries.closedAt, carries.parent, carries.labels, carries.dependsOn, carries.blocks,
    carries.children, carries.source, carries.status, carries.kind, Option.map_some,
    ofValue_statusName, ofValue_kindName]
  rfl

/-- A cleaned text is clean. -/
theorem isClean_of_cleanText? {value : Value} {text : Text}
    (kept : value.cleanText? = some text) : Text.IsClean text := by
  unfold Value.cleanText? at kept
  split at kept
  · rename_i written _
    by_cases blank : (Text.trim written).isEmpty
    · simp [blank] at kept
    · obtain rfl : Text.trim written = text := by
        simpa [blank] using kept
      exact ⟨Text.trim_trim written, by simpa using blank⟩
  · cases kept

/-- An identifier that passed is clean. -/
theorem isClean_of_checkId {value : Option Value} {id : Text} (made : checkId value = .ok id) :
    Text.IsClean id := by
  unfold checkId at made
  split at made
  · cases made
  · split at made
    · rename_i kept
      obtain rfl := Except.ok.inj made
      exact isClean_of_cleanText? kept
    · cases made

/-- A text that passed says something, or is none. -/
theorem saysSomething_of_checkText {value : Option Value} {field : Option Text}
    (made : checkText value = .ok field) : Issue.SaysSomething field := by
  unfold checkText at made
  split at made
  · obtain rfl := Except.ok.inj made
    simp [Issue.SaysSomething]
  · obtain rfl := Except.ok.inj made
    simp [Issue.SaysSomething]
  · split at made
    · rename_i written _
      obtain rfl := Except.ok.inj made
      by_cases blank : Text.isAllBlank written
      · simp [Issue.SaysSomething, blank]
      · simp [Issue.SaysSomething, blank]
    · cases made

/-- The items of a list that passed are clean. -/
theorem hasCleanItems_of_idList? {value : Option Value} {field : Option (List Text)}
    (made : value.bind Value.idList? = field) : Issue.HasCleanItems field := by
  subst made
  intro item present
  rcases value with - | value
  · cases present
  · simp only [Option.bind_some] at present
    unfold Value.idList? at present
    split at present
    · obtain ⟨_, _, kept⟩ := List.mem_filterMap.mp present
      exact isClean_of_cleanText? kept
    · obtain ⟨_, _, kept⟩ := List.mem_filterMap.mp present
      exact isClean_of_cleanText? kept
    · cases present

/-- A field without a problem has a value. -/
theorem ok_of_problem_eq_nil {α : Type} {name : Text} {field : Checked α}
    (clear : Checked.problem name field = []) : ∃ value, field = .ok value := by
  cases field with
  | ok value => exact ⟨value, rfl⟩
  | error defect => cases clear

/-- How the fields of an issue come from those of the record that makes it. -/
structure Makes (record : Entries Value) (issue : Issue) : Prop where
  /-- The identifier. -/
  id : checkId (field? record ["id"]) = .ok issue.id
  /-- The title. -/
  title : checkTitle (field? record ["title"]) = .ok issue.title
  /-- The description. -/
  description : checkText (field? record ["description"]) = .ok issue.description
  /-- The labels. -/
  labels : (field? record ["labels"]).bind Value.idList? = issue.labels
  /-- The assignee. -/
  assignee : checkText (field? record ["assignee"]) = .ok issue.assignee
  /-- The time of creation. -/
  createdAt : checkText (record.get? (nameIn record "createdAt" "created_at")) =
    .ok issue.createdAt
  /-- The time of change. -/
  updatedAt : checkText (record.get? (nameIn record "updatedAt" "updated_at")) =
    .ok issue.updatedAt
  /-- The time of closing. -/
  closedAt : checkText (record.get? (nameIn record "closedAt" "closed_at")) = .ok issue.closedAt
  /-- The issues it waits for. -/
  dependsOn : (field? record ["dependsOn", "depends_on"]).bind Value.idList? = issue.dependsOn
  /-- The issues that wait for it. -/
  blocks : (field? record ["blocks"]).bind Value.idList? = issue.blocks
  /-- Its parts. -/
  children : (field? record ["children"]).bind Value.idList? = issue.children
  /-- The parent. -/
  parent : checkText (field? record ["parent"]) = .ok issue.parent

/-- An issue that a record makes has all its fields from there. -/
theorem makes_of_ofRecord (made : ofRecord record = .ok issue) : Makes record issue := by
  unfold ofRecord at made
  simp only at made
  split at made
  · cases made
  · split_ifs at made with clear
    simp only [List.isEmpty_iff, List.append_eq_nil_iff] at clear
    obtain ⟨⟨⟨⟨⟨⟨⟨idClear, titleClear⟩, descriptionClear⟩, assigneeClear⟩, createdClear⟩,
      updatedClear⟩, closedClear⟩, parentClear⟩ := clear
    obtain ⟨_, id⟩ := ok_of_problem_eq_nil idClear
    obtain ⟨_, title⟩ := ok_of_problem_eq_nil titleClear
    obtain ⟨_, description⟩ := ok_of_problem_eq_nil descriptionClear
    obtain ⟨_, assignee⟩ := ok_of_problem_eq_nil assigneeClear
    obtain ⟨_, createdAt⟩ := ok_of_problem_eq_nil createdClear
    obtain ⟨_, updatedAt⟩ := ok_of_problem_eq_nil updatedClear
    obtain ⟨_, closedAt⟩ := ok_of_problem_eq_nil closedClear
    obtain ⟨_, parent⟩ := ok_of_problem_eq_nil parentClear
    rw [id, title, description, assignee, createdAt, updatedAt, closedAt, parent] at made
    obtain rfl := Except.ok.inj made
    exact {
      id := id
      title := title
      description := description
      labels := rfl
      assignee := assignee
      createdAt := createdAt
      updatedAt := updatedAt
      closedAt := closedAt
      dependsOn := rfl
      blocks := rfl
      children := rfl
      parent := parent }

/-- Every issue that intake makes is valid. -/
theorem isValid_of_makes (makes : Makes record issue) : issue.IsValid where
  id := isClean_of_checkId makes.id
  description := saysSomething_of_checkText makes.description
  labels := hasCleanItems_of_idList? makes.labels
  assignee := saysSomething_of_checkText makes.assignee
  createdAt := saysSomething_of_checkText makes.createdAt
  updatedAt := saysSomething_of_checkText makes.updatedAt
  closedAt := saysSomething_of_checkText makes.closedAt
  dependsOn := hasCleanItems_of_idList? makes.dependsOn
  blocks := hasCleanItems_of_idList? makes.blocks
  children := hasCleanItems_of_idList? makes.children
  parent := saysSomething_of_checkText makes.parent

/-- An optional list of clean texts stays as it is. -/
theorem bind_idList?_ofTexts? {field : Option (List Text)} (clean : Issue.HasCleanItems field) :
    (Value.ofTexts? field).idList? = field := by
  cases field with
  | none => rfl
  | some texts => exact idList?_ofTexts clean

/-- The record of a valid issue carries it. -/
theorem carries_toRecord (valid : issue.IsValid) : Carries issue.toRecord issue where
  id := rfl
  title := rfl
  description := checkText_ofText? valid.description
  status := rfl
  kind := rfl
  priority := rfl
  labels := bind_idList?_ofTexts? valid.labels
  assignee := checkText_ofText? valid.assignee
  createdAt := checkText_ofText? valid.createdAt
  updatedAt := checkText_ofText? valid.updatedAt
  closedAt := checkText_ofText? valid.closedAt
  dependsOn := bind_idList?_ofTexts? valid.dependsOn
  blocks := bind_idList?_ofTexts? valid.blocks
  children := bind_idList?_ofTexts? valid.children
  parent := checkText_ofText? valid.parent
  source := by
    change (some (Value.ofText? (issue.source.map Side.name))).bind Side.ofValue? = issue.source
    cases issue.source with
    | none => rfl
    | some side => exact ofValue?_sideName side
  others := by
    simp [Issue.toRecord]

end Intake

/-- The valid issues are those that some record makes. -/
theorem Issue.isValid_iff (issue : Issue) :
    issue.IsValid ↔ ∃ record, Intake.ofRecord record = .ok issue := by
  constructor
  · intro valid
    exact ⟨issue.toRecord, Intake.ofRecord_of_carries (Intake.carries_toRecord valid) valid.id⟩
  · rintro ⟨record, made⟩
    exact Intake.isValid_of_makes (Intake.makes_of_ofRecord made)

end Issuebook
