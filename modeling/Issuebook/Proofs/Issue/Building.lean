import Issuebook.Proofs.Reconciliation.Settling
import Issuebook.Proofs.Store.Edges
import Issuebook.Proofs.Store.Records
import Issuebook.Proofs.Template.Rebuilding

/-!
# Issues that are built

Most issues are taken in from loose data, where the fields are checked; others are copies of them
with some fields computed anew, which nothing checks. All obey the same laws, so each is taken in
again from its own record as it is: `ofValue_toRecord_of_isBuilt`.
-/

namespace Issuebook

/-- What is left of a text is clean, if anything is. -/
theorem Text.isClean_trim {text : Text} (some : trim text ≠ []) : IsClean (trim text) :=
  ⟨trim_trim text, some⟩

/-- A safe name is clean, if it is not empty. -/
theorem Text.isClean_safeName {text : Text} (some : safeName text ≠ []) :
    IsClean (safeName text) :=
  isClean_trim some

/-- A plain value is no issue. -/
theorem Value.plain_ne_issue (value : Value) (issue : Issue) : value.plain ≠ .issue issue := by
  cases value <;> simp [Value.plain]

/-- Merging brings in no issue. -/
theorem Value.mergeValue_ne_issue {value : Value} {issue : Issue} (other : value ≠ .issue issue)
    (current : Option Value) : mergeValue current value ≠ .issue issue := by
  cases value with
  | record updates =>
      obtain ⟨fields, merged⟩ := exists_mergeValue current updates
      rw [merged]
      exact nofun
  | null | bool | int | float | text | list => exact nofun
  | issue own => exact other

namespace Issue

variable {issue base : Issue} {issues : List Issue}

/-- An optional text that is left out when it is empty says something. -/
theorem saysSomething_of_isClean {text : Text} (clean : text ≠ [] → Text.IsClean text) :
    SaysSomething (if text.isEmpty then none else some text) := by
  intro written present
  split_ifs at present with empty
  · cases present
  · obtain rfl := Option.some.inj present
    simpa using (clean (by simpa using empty)).solid

/-! ## Issues that are taken in -/

/-- A valid issue is read back from its record. -/
theorem ofValue_toRecord (valid : issue.IsValid) :
    Issue.ofValue (.record issue.toRecord) = .ok issue := by
  rw [Issue.ofValue, Intake.ofRecord_toRecord valid]

/-- What a record makes is valid. -/
theorem isValid_of_ofRecord {record : Entries Value} (made : Intake.ofRecord record = .ok issue) :
    issue.IsValid :=
  issue.isValid_iff.mpr ⟨record, made⟩

/-- So is what a value makes, if it holds no invalid issue. -/
theorem isValid_of_ofValue {value : Value} (own : ∀ inner, value = .issue inner → inner.IsValid)
    (made : Issue.ofValue value = .ok issue) : issue.IsValid := by
  cases value with
  | record fields => exact isValid_of_ofRecord made
  | issue inner =>
      obtain rfl := Except.ok.inj made
      exact own inner rfl
  | null | bool | int | float | text | list => cases made

/-- So is the issue of a document. -/
theorem isValid_of_read {content : Text} {document : Document}
    (made : Document.read content = .ok document) : document.issue.IsValid := by
  obtain ⟨⟨metadata, body⟩, -, made⟩ := Fault.bind_eq_ok.mp made
  obtain ⟨issue, taken, made⟩ := Fault.bind_eq_ok.mp made
  obtain rfl := Except.ok.inj made
  unfold Document.issueOf at taken
  dsimp only at taken
  split_ifs at taken
  split at taken
  · cases taken
  · exact isValid_of_ofRecord taken

/-- So is the issue of a record of the store. -/
theorem isValid_of_toIssue {record : StoreRecord} (made : record.toIssue = .ok issue) :
    issue.IsValid :=
  isValid_of_ofRecord made

/-- What a document says leaves a record under the name of the issue, or another value, but never
an issue. -/
theorem get?_merged_ne_issue (template document : Text) (base inner : Issue) :
    ((Template.issueContext base).merged (Extraction.ofDocument template document).data).get?
      Template.issueKey ≠ some (.issue inner) := by
  have distinct :
      (Value.plainFields (Extraction.ofDocument template document).data).keys.Nodup := by
    rw [Value.keys_plainFields, Extraction.ofDocument, Extraction.data_ofCaptures]
    exact Extraction.nodup_keys_assignAll _
  rw [Value.merged, Value.get?_mergeFields distinct, Value.get?_plainFields]
  intro same
  rcases Option.or_eq_some_iff.mp same with found | ⟨-, kept⟩
  · obtain ⟨value, plain, merged⟩ := Option.map_eq_some_iff.mp found
    obtain ⟨written, -, rfl⟩ := Option.map_eq_some_iff.mp plain
    exact Value.mergeValue_ne_issue (written.plain_ne_issue inner) _ merged
  · cases Option.some.inj kept

/-- A document rebuilds a valid issue, whatever it was rendered from. -/
theorem isValid_of_rebuild {template document : Text} {extraction : Extraction}
    (made : Template.rebuild template document base = .ok (issue, extraction)) :
    issue.IsValid := by
  obtain ⟨rebuilt, taken, pair⟩ := Fault.bind_eq_ok.mp made
  obtain ⟨rfl, -⟩ := Prod.mk.inj (Except.ok.inj pair)
  refine isValid_of_ofValue (fun inner same => ?_) taken
  have absent := get?_merged_ne_issue template document base inner
  cases found : ((Template.issueContext base).merged
      (Extraction.ofDocument template document).data).get? Template.issueKey with
  | none =>
      rw [found] at same
      cases same
  | some value =>
      rw [found] at same
      exact absurd (found.trans (congrArg some same)) absent

/-! ## Copies -/

/-- A body that is not empty is clean. -/
theorem isClean_bodyText (some : issue.bodyText ≠ []) : Text.IsClean issue.bodyText :=
  Text.isClean_trim some

/-- A valid issue is valid for the store. -/
theorem isValid_forStore (valid : issue.IsValid) : (Patch.forStore issue).IsValid := by
  unfold Patch.forStore
  dsimp only
  exact { valid with description := saysSomething_of_isClean isClean_bodyText }

/-- It is valid with safe names. -/
theorem isValid_withSafeNames (valid : issue.IsValid) : (Book.withSafeNames issue).IsValid := by
  unfold Book.withSafeNames
  refine { valid with id := ?_, assignee := ?_ }
  · dsimp only
    split_ifs with empty
    · decide
    · exact Text.isClean_safeName (by simpa using empty)
  · intro written present
    obtain ⟨assignee, -, present⟩ := Option.bind_eq_some_iff.mp present
    exact saysSomething_of_isClean Text.isClean_safeName written present

/-- Identifiers of valid issues are clean items. -/
theorem hasCleanItems_nonEmpty? (valid : ∀ issue ∈ issues, issue.IsValid) {ids : List Text}
    (named : ∀ id ∈ ids, ∃ issue ∈ issues, issue.id = id) :
    HasCleanItems (StoreLog.nonEmpty? ids) := by
  intro id present
  have listed : id ∈ ids := by
    unfold StoreLog.nonEmpty? at present
    split_ifs at present
    · cases present
    · exact present
  obtain ⟨issue, known, rfl⟩ := named id listed
  exact (valid issue known).id

/-- Valid issues are valid with their inverse edges. -/
theorem isValid_of_mem_withInverseEdges (valid : ∀ issue ∈ issues, issue.IsValid)
    (listed : issue ∈ StoreLog.withInverseEdges issues) : issue.IsValid := by
  rw [StoreLog.withInverseEdges_eq fun issue known => (valid issue known).id.2] at listed
  obtain ⟨own, known, rfl⟩ := List.mem_map.mp listed
  refine { valid own known with
    blocks := hasCleanItems_nonEmpty? valid fun id waits => ?_
    children := hasCleanItems_nonEmpty? valid fun id part => ?_ }
  · obtain ⟨other, otherKnown, names⟩ := List.mem_flatMap.mp waits
    exact ⟨other, otherKnown, (List.eq_of_mem_replicate names).symm⟩
  · obtain ⟨other, otherKnown, same⟩ := List.mem_map.mp part
    exact ⟨other, (List.mem_filter.mp otherKnown).1, same⟩

/-! ## All that are built -/

/-- The issues that are built: taken in from data, documents, store records and edited documents,
and copied from others. -/
inductive IsBuilt : Issue → Prop where
  /-- From a value; one that is an issue stays as it was built. -/
  | ofValue {value : Value} {issue : Issue} (own : ∀ inner, value = .issue inner → IsBuilt inner)
      (made : Issue.ofValue value = .ok issue) : IsBuilt issue
  /-- From a document. -/
  | read {content : Text} {document : Document} (made : Document.read content = .ok document) :
      IsBuilt document.issue
  /-- From a record of the store. -/
  | toIssue {record : StoreRecord} {issue : Issue} (made : record.toIssue = .ok issue) :
      IsBuilt issue
  /-- From an edited document, whatever it was rendered from. -/
  | rebuild {template document : Text} {base issue : Issue} {extraction : Extraction}
      (made : Template.rebuild template document base = .ok (issue, extraction)) : IsBuilt issue
  /-- With those that wait for it and its parts, among others. -/
  | withInverseEdges {issues : List Issue} {issue : Issue}
      (built : ∀ issue ∈ issues, IsBuilt issue)
      (listed : issue ∈ StoreLog.withInverseEdges issues) : IsBuilt issue
  /-- With a side as its source. -/
  | withSource {issue : Issue} (built : IsBuilt issue) (side : Side) :
      IsBuilt (issue.withSource side)
  /-- As it is sent to the store. -/
  | forStore {issue : Issue} (built : IsBuilt issue) : IsBuilt (Patch.forStore issue)
  /-- As it names its file. -/
  | withSafeNames {issue : Issue} (built : IsBuilt issue) : IsBuilt (Book.withSafeNames issue)

/-- Whatever the program builds is valid. -/
theorem IsBuilt.isValid (built : issue.IsBuilt) : issue.IsValid := by
  induction built with
  | ofValue own made inductionHypothesis => exact isValid_of_ofValue inductionHypothesis made
  | read made => exact isValid_of_read made
  | toIssue made => exact isValid_of_toIssue made
  | rebuild made => exact isValid_of_rebuild made
  | withInverseEdges built listed inductionHypothesis =>
      exact isValid_of_mem_withInverseEdges inductionHypothesis listed
  | withSource built side inductionHypothesis => exact isValid_withSource inductionHypothesis side
  | forStore built inductionHypothesis => exact isValid_forStore inductionHypothesis
  | withSafeNames built inductionHypothesis => exact isValid_withSafeNames inductionHypothesis

/-- Every issue that is built is taken in again from its own record as it is: its identifier and
the items of its lists are clean, its optional texts say something where they are present, and its
priority is at most four. -/
theorem ofValue_toRecord_of_isBuilt (issue : Issue) (built : issue.IsBuilt) :
    Issue.ofValue (.record issue.toRecord) = .ok issue ∧ issue.IsValid ∧
      issue.priority.val ≤ 4 :=
  ⟨ofValue_toRecord built.isValid, built.isValid, Nat.le_of_lt_succ issue.priority.isLt⟩

/-- Data with blanks around the texts, and with fields that say nothing. -/
def looseData : Value :=
  .record
    [("id", .text " ../a-1 "), ("title", .text "///"), ("description", .text " \t "),
      ("priority", .int 9), ("labels", .text "x, ,y "), ("assignee", .text "..."),
      ("created_at", .int 2024), ("depends_on", .list [.int 7, .null, .text " b "])]

/-- The issue of the data. -/
def takenIssue : Issue :=
  { (default : Issue) with
    id := "../a-1", title := "///", priority := .last, labels := some ["x", "y"],
    assignee := some "...", createdAt := some "2024", dependsOn := some ["7", "b"] }

/-- An issue that is taken in loosely, and rebuilt as it is. -/
theorem takenIssue_rebuilt :
    Issue.ofValue looseData = .ok takenIssue ∧
      let issue := Book.withSafeNames (Patch.forStore (takenIssue.withSource .file))
      issue.id = "a-1" ∧ issue.title = [] ∧ issue.assignee = none ∧
        Issue.ofValue (.record issue.toRecord) = .ok issue ∧ issue.IsValid ∧
          issue.priority.val ≤ 4 := by
  have taken : Issue.ofValue looseData = .ok takenIssue := by decide +kernel
  have own (inner : Issue) (impossible : looseData = .issue inner) : inner.IsBuilt := by
    cases impossible
  have built : (Book.withSafeNames (Patch.forStore (takenIssue.withSource .file))).IsBuilt :=
    .withSafeNames (.forStore (.withSource (.ofValue own taken) .file))
  exact ⟨taken, by decide +kernel, by decide +kernel, by decide +kernel,
    ofValue_toRecord_of_isBuilt _ built⟩

end Issue

end Issuebook
