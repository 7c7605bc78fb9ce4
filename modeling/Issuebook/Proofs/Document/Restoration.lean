import Issuebook.Document.Reading
import Issuebook.Proofs.Document.Metadata
import Issuebook.Proofs.Issue.Unbroken

/-!
# Reading a written document

Where no metadata text breaks a line, the document of a valid issue is read back as
`Document.restored`: the same metadata, and all text behind the metadata block as the description.
-/

namespace Issuebook

namespace Issue

open Text

variable {issue : Issue} {key : Text}

/-- The names of the metadata in a document, with those that may be absent. -/
def metadataKeys : List Text :=
  ["id", "title", "status", "type", "priority", "labels", "assignee", "createdAt", "updatedAt",
   "closedAt", "parent", "source", "dependsOn", "blocks", "children"]

/-- A text that stands behind the name in a metadata line of an issue. -/
inductive IsWritten (issue : Issue) : Text → Prop where
  /-- A text of the metadata. -/
  | literal {text : Text} (listed : text ∈ issue.metadataTexts) : IsWritten issue (Json.string text)
  /-- A list of such texts. -/
  | list {texts : List Text} (listed : ∀ text ∈ texts, text ∈ issue.metadataTexts) :
      IsWritten issue (Json.stringList texts)
  /-- The status. -/
  | status : IsWritten issue issue.status.name
  /-- The kind. -/
  | kind : IsWritten issue issue.kind.name
  /-- The priority. -/
  | priority : IsWritten issue (Text.ofNat issue.priority.val)
  /-- A source. -/
  | source (side : Side) : IsWritten issue (Json.string side.name)

/-- A metadata line of an issue: a name and what is written behind it. -/
def IsMetadataLine (issue : Issue) (line : Text) : Prop :=
  ∃ key ∈ metadataKeys, ∃ value, issue.IsWritten value ∧ line = metadataLine key value

/-- The line of an optional text is a line of the metadata. -/
theorem isMetadataLine_of_mem_textLine (isKey : key ∈ metadataKeys) {field : Option Text}
    (written : ∀ text ∈ field, issue.IsWritten (Json.string text)) :
    ∀ line ∈ textLine key field, issue.IsMetadataLine line := by
  intro line present
  cases field with
  | none => cases present
  | some text =>
      obtain rfl := List.mem_singleton.mp present
      exact ⟨key, isKey, _, written text rfl, rfl⟩

/-- Nothing else stands in the metadata block. -/
theorem isMetadataLine_of_mem (issue : Issue) :
    ∀ line ∈ issue.metadataLines, issue.IsMetadataLine line := by
  have literal {key text : Text} (isKey : key ∈ metadataKeys)
      (listed : text ∈ issue.metadataTexts) :
      issue.IsMetadataLine (metadataLine key (Json.string text)) :=
    ⟨key, isKey, _, .literal listed, rfl⟩
  have list {key : Text} (isKey : key ∈ metadataKeys) {field : Option (List Text)}
      (listed : ∀ text ∈ itemsOrNone field, text ∈ issue.metadataTexts) :
      issue.IsMetadataLine (listLine key field) :=
    ⟨key, isKey, _, .list listed, rfl⟩
  have optional {key : Text} (isKey : key ∈ metadataKeys) {field : Option Text}
      (listed : ∀ text ∈ field, text ∈ issue.metadataTexts) :
      ∀ line ∈ textLine key field, issue.IsMetadataLine line :=
    isMetadataLine_of_mem_textLine isKey fun text present => .literal (listed text present)
  have source : ∀ line ∈ textLine "source" (issue.source.map Side.name),
      issue.IsMetadataLine line := by
    refine isMetadataLine_of_mem_textLine (by decide) fun text present => ?_
    obtain ⟨side, -, rfl⟩ := Option.map_eq_some_iff.mp present
    exact .source side
  simp only [metadataLines, List.forall_mem_append, List.forall_mem_cons]
  refine ⟨⟨⟨⟨⟨⟨⟨⟨?_, ?_, ?_, ?_, ?_, ?_, by simp⟩, ?_⟩, ?_⟩, ?_⟩, ?_⟩, ?_⟩, source⟩, ?_, ?_,
    ?_, by simp⟩
  · exact literal (by decide) (by simp [metadataTexts])
  · exact literal (by decide) (by simp [metadataTexts])
  · exact ⟨_, by decide, _, .status, rfl⟩
  · exact ⟨_, by decide, _, .kind, rfl⟩
  · exact ⟨_, by decide, _, .priority, rfl⟩
  · exact list (by decide) (by simp +contextual [metadataTexts])
  · exact optional (by decide) (by simp +contextual [metadataTexts])
  · exact optional (by decide) (by simp +contextual [metadataTexts])
  · exact optional (by decide) (by simp +contextual [metadataTexts])
  · exact optional (by decide) (by simp +contextual [metadataTexts])
  · exact optional (by decide) (by simp +contextual [metadataTexts])
  · exact list (by decide) (by simp +contextual [metadataTexts])
  · exact list (by decide) (by simp +contextual [metadataTexts])
  · exact list (by decide) (by simp +contextual [metadataTexts])

/-- What is written for an unbroken issue is one line. -/
theorem IsWritten.isSingleLine {value : Text} (written : issue.IsWritten value)
    (unbroken : issue.IsUnbroken) : IsSingleLine value := by
  cases written with
  | literal listed => exact Json.isSingleLine_string (unbroken _ listed)
  | list listed =>
      exact Json.isSingleLine_stringList fun text present => unbroken text (listed text present)
  | status => cases issue.status <;> decide
  | kind => cases issue.kind <;> decide
  | priority =>
      match issue.priority with
      | 0 | 1 | 2 | 3 | 4 => decide
  | source side => cases side <;> decide

/-- So are all lines of its metadata. -/
theorem isSingleLine_metadataLines (unbroken : issue.IsUnbroken) :
    ∀ line ∈ issue.metadataLines, IsSingleLine line := by
  have keys : ∀ key ∈ metadataKeys, IsSingleLine (key ++ (": " : Text)) := by decide
  intro line present
  obtain ⟨key, isKey, value, written, rfl⟩ := isMetadataLine_of_mem issue line present
  exact isSingleLine_append (keys key isKey) (written.isSingleLine unbroken)

/-- No metadata line closes the block. -/
theorem isFence_metadataLines (issue : Issue) :
    ∀ line ∈ issue.metadataLines, Document.isFence line = false := by
  have keys : ∀ key ∈ metadataKeys, Metadata.IsKey key := by decide
  intro line present
  obtain ⟨key, isKey, value, -, rfl⟩ := isMetadataLine_of_mem issue line present
  exact Metadata.isFence_metadataLine (keys key isKey) value

/-! ## The lines of a document -/

/-- Only an empty line at the end is dropped. -/
theorem dropLastEmpty_append (front : List Text) {line : Text} (present : line ≠ [])
    (back : List Text) : dropLastEmpty (front ++ line :: back) =
      front ++ line :: dropLastEmpty back := by
  have stays : line.isEmpty = false := by
    simpa using present
  simp only [dropLastEmpty, List.reverse_append, List.reverse_cons, List.append_assoc,
    List.singleton_append, List.dropWhile_append]
  split
  · rename_i gone
    simp [List.isEmpty_iff.mp gone, stays]
  · simp

/-- What stands behind the metadata block of a document. -/
def bodyPart (issue : Issue) : Text :=
  terminated
    ([] :: titleHeading issue.title
      :: dropLastEmpty ([] :: (issue.bodyLines ++ issue.relatedLines)))

/-- A document is its metadata block between fences and the text behind it. -/
theorem toDocument_eq (issue : Issue) : issue.toDocument =
    terminated (fence :: issue.metadataLines) ++ (fence ++ '\n' :: issue.bodyPart) := by
  have shape : [fence] ++ issue.metadataLines ++ [fence, [], titleHeading issue.title, []] ++
      issue.bodyLines ++ issue.relatedLines =
      (fence :: issue.metadataLines ++ [fence, []]) ++
        titleHeading issue.title :: ([] :: (issue.bodyLines ++ issue.relatedLines)) := by
    simp
  rw [toDocument, shape, dropLastEmpty_append _ (by simp [titleHeading]),
    unlines_append_feed (by simp)]
  simp [bodyPart]

/-- What stands in front of the identifier in every document. -/
def beforeId : Text :=
  fence ++ '\n' :: ("id" ++ ": " : Text) ++ ['"']

/-- A document begins with the identifier of its issue. -/
theorem toDocument_id (issue : Issue) : ∃ rest, issue.toDocument =
    beforeId ++ (issue.id.flatMap Json.stringChar ++ '"' :: rest) := by
  have shape : issue.metadataLines =
      metadataLine "id" (Json.string issue.id) :: issue.metadataLines.tail := rfl
  refine ⟨'\n' :: terminated issue.metadataLines.tail ++ (fence ++ '\n' :: issue.bodyPart), ?_⟩
  rw [toDocument_eq, terminated_cons, shape, terminated_cons]
  simp only [metadataLine, Json.string, beforeId, List.append_assoc, List.cons_append,
    List.nil_append, List.tail_cons]

/-- A document tells the identifier of its issue. -/
theorem id_eq_of_toDocument_eq {issue other : Issue}
    (same : issue.toDocument = other.toDocument) : issue.id = other.id := by
  obtain ⟨rest, written⟩ := toDocument_id issue
  obtain ⟨otherRest, otherWritten⟩ := toDocument_id other
  rw [written, otherWritten] at same
  have read := congrArg Json.readString (List.append_cancel_left same)
  rw [Json.readString_string, Json.readString_string] at read
  exact (Prod.mk.inj (Option.some.inj read)).1

/-- An optional text has its key, or none. -/
theorem keys_textEntry (name : Text) (field : Option Text) :
    (Metadata.textEntry name field).keys.Sublist [name] := by
  cases field <;> simp [Metadata.textEntry, Entries.keys]

/-- The metadata has its keys in their order. -/
theorem keys_metadataEntries (issue : Issue) :
    issue.metadataEntries.keys.Sublist metadataKeys := by
  simp only [metadataEntries, Entries.keys, List.map_append]
  exact (List.Sublist.refl _).append <| (keys_textEntry "assignee" _).append <|
    (keys_textEntry "createdAt" _).append <| (keys_textEntry "updatedAt" _).append <|
    (keys_textEntry "closedAt" _).append <| (keys_textEntry "parent" _).append <|
    (keys_textEntry "source" _).append <| List.Sublist.refl _

/-- No key is repeated in it. -/
theorem nodup_keys_metadataEntries (issue : Issue) : issue.metadataEntries.keys.Nodup :=
  (keys_metadataEntries issue).nodup (by decide)

/-- An optional text is found under its key. -/
theorem get?_textEntry (key name : Text) (field : Option Text) :
    Entries.get? key (Metadata.textEntry name field) =
      if name = key then field.map .text else none := by
  cases field <;> simp [Metadata.textEntry]

end Issue

namespace Document

open Issue

variable {issue : Issue}

/-- Metadata ends at the first fence. -/
theorem cutAtFence?_append {inner : List Text} (open_ : ∀ line ∈ inner, isFence line = false)
    (rest : List Text) : cutAtFence? (inner ++ fence :: rest) = some (inner, rest) := by
  induction inner with
  | nil =>
      have closes : isFence fence := by decide
      simp [cutAtFence?, closes]
  | cons line inner inductionHypothesis =>
      have later := inductionHypothesis fun other present => open_ other (by simp [present])
      simp [cutAtFence?, open_ line (by simp), later]

/-- The lines of an unbroken document are those of its metadata between fences, and the others. -/
theorem lines_toDocument (unbroken : issue.IsUnbroken) : Text.lines issue.toDocument =
    fence :: (issue.metadataLines ++ fence :: Text.lines issue.bodyPart) := by
  have single : ∀ line ∈ fence :: issue.metadataLines, Text.IsSingleLine line :=
    List.forall_mem_cons.mpr ⟨by decide, isSingleLine_metadataLines unbroken⟩
  rw [toDocument_eq, Text.lines_terminated_append single, Text.lines_single_append (by decide)]
  rfl

/-- An unbroken document is cut into its entries and the lines behind them. -/
theorem split_toDocument (unbroken : issue.IsUnbroken) :
    split issue.toDocument =
      .ok (issue.metadataEntries, Text.unlines (Text.lines issue.bodyPart)) := by
  have opens : opensDocument fence := by decide
  rw [split, lines_toDocument unbroken]
  simp only [opens, if_true]
  rw [cutAtFence?_append (isFence_metadataLines issue)]
  simp only [Metadata.read, pairs_metadataLines,
    Entries.ofList_of_distinct (nodup_keys_metadataEntries issue)]

/-- A document is cut the same where all its line ends are read as line feeds. -/
theorem split_withLineFeeds (unbroken : issue.IsUnbroken) :
    split (Text.withLineFeeds issue.toDocument) = split issue.toDocument := by
  have opens : opensDocument fence := by decide
  rw [split, split, Text.lines_withLineFeeds, lines_toDocument unbroken]
  dsimp only
  rw [if_pos opens, if_pos opens]

/-- Written metadata uses the names of the fields. -/
theorem payload_metadataEntries (issue : Issue) :
    payload issue.metadataEntries = issue.metadataEntries := by
  have usual : ∀ key ∈ metadataKeys, fieldOf key = key := by decide
  have named : ∀ entry ∈ issue.metadataEntries, fieldOf entry.1 = entry.1 := fun entry present =>
    usual entry.1 ((keys_metadataEntries issue).subset (List.mem_map_of_mem present))
  have shape : payload issue.metadataEntries =
      Entries.ofList ((issue.metadataEntries.filter fun entry =>
        !(fieldOf entry.1 == statusField && issue.metadataEntries.has statusField &&
          entry.1 ≠ statusField)).map fun entry => (fieldOf entry.1, entry.2)) := rfl
  have kept : (issue.metadataEntries.filter fun entry =>
      !(fieldOf entry.1 == statusField && issue.metadataEntries.has statusField &&
        entry.1 ≠ statusField)) = issue.metadataEntries := by
    refine List.filter_eq_self.mpr fun entry present => ?_
    simp only [named entry present]
    by_cases status : entry.1 = statusField <;> simp [status]
  have same : (issue.metadataEntries.map fun entry => (fieldOf entry.1, entry.2)) =
      issue.metadataEntries := by
    refine (List.map_congr_left fun entry present => ?_).trans (List.map_id _)
    simp only [named entry present]
    rfl
  rw [shape, kept, same, Entries.ofList_of_distinct (nodup_keys_metadataEntries issue)]

/-- An optional text passes as it is. -/
theorem checkText_map {field : Option Text} (present : SaysSomething field) :
    Intake.checkText (field.map .text) = .ok field := by
  cases field with
  | none => rfl
  | some written => exact Intake.checkText_ofText? present

/-- A trimmed text says something, or is none. -/
theorem saysSomething_trimmed? (text : Text) : SaysSomething (trimmed? text) := by
  intro written kept
  unfold trimmed? at kept
  by_cases blank : (Text.trim text).isEmpty
  · simp [blank] at kept
  · obtain rfl : Text.trim text = written := by
      simpa [blank] using kept
    rw [← Bool.not_eq_true, ← Text.trim_eq_nil_iff, Text.trim_trim]
    simpa using blank

/-- The record of a written document: its entries and a description. -/
def recordOf (issue : Issue) (text : Text) : Entries Value :=
  issue.metadataEntries.put "description" (.ofText? (trimmed? text))

/-- The issue that the metadata of an issue and the text behind it make. -/
def restored (issue : Issue) (text : Text) : Issue :=
  { issue with
    description := trimmed? text
    labels := some (itemsOrNone issue.labels)
    dependsOn := some (itemsOrNone issue.dependsOn)
    blocks := some (itemsOrNone issue.blocks)
    children := some (itemsOrNone issue.children) }

/-- The record of a document has the metadata, and the description from the body. -/
theorem get?_recordOf (issue : Issue) (text : Text) {name : Text} (other : name ≠ "description") :
    (recordOf issue text).get? name = issue.metadataEntries.get? name :=
  Entries.get?_put_other (Ne.symm other) _

/-- The record of a written document carries the restored issue. -/
theorem carries_recordOf (valid : issue.IsValid) (text : Text) :
    Intake.Carries (recordOf issue text) (restored issue text) := by
  have lookUp (name : Text) (other : name ≠ "description") (value : Option Value)
      (found : issue.metadataEntries.get? name = value) :
      (recordOf issue text).get? name = value :=
    (get?_recordOf issue text other).trans found
  have textual (name : Text) (other : name ≠ "description") (field : Option Text)
      (present : SaysSomething field)
      (found : issue.metadataEntries.get? name = field.map .text) :
      Intake.checkText ((recordOf issue text).get? name) = .ok field := by
    rw [lookUp name other _ found, checkText_map present]
  have listed (name : Text) (other : name ≠ "description") (field : Option (List Text))
      (clean : HasCleanItems field)
      (found : issue.metadataEntries.get? name = some (.ofTexts (itemsOrNone field))) :
      ((recordOf issue text).get? name).bind Value.idList? = some (itemsOrNone field) := by
    rw [lookUp name other _ found]
    exact Intake.idList?_ofTexts clean
  have source (found : issue.metadataEntries.get? "source" =
      (issue.source.map Side.name).map .text) :
      ((recordOf issue text).get? "source").bind Side.ofValue? = issue.source := by
    rw [lookUp "source" (by decide) _ found]
    cases issue.source with
    | none => rfl
    | some side => exact Intake.ofValue?_sideName side
  have others : ∀ name ∈ (["created_at", "updated_at", "closed_at", "depends_on"] : List Text),
      (recordOf issue text).get? name = none := by
    intro name present
    have unused : ∀ name ∈ (["created_at", "updated_at", "closed_at", "depends_on"] : List Text),
        name ∉ metadataKeys ∧ name ≠ "description" := by
      decide
    obtain ⟨absent, other⟩ := unused name present
    exact lookUp name other _ <|
      Entries.get?_eq_none _ fun stands => absent ((keys_metadataEntries issue).subset stands)
  have described : (recordOf issue text).get? "description" = some (.ofText? (trimmed? text)) :=
    Entries.get?_put_same _
  -- What remains is what the metadata hold under each name, which is found by computation.
  refine {
    id := lookUp "id" (by decide) _ ?_
    title := lookUp "title" (by decide) _ ?_
    description := by
      rw [described]
      exact Intake.checkText_ofText? (saysSomething_trimmed? text)
    status := lookUp "status" (by decide) _ ?_
    kind := lookUp "type" (by decide) _ ?_
    priority := lookUp "priority" (by decide) _ ?_
    labels := listed "labels" (by decide) _ valid.labels ?_
    assignee := textual "assignee" (by decide) _ valid.assignee ?_
    createdAt := textual "createdAt" (by decide) _ valid.createdAt ?_
    updatedAt := textual "updatedAt" (by decide) _ valid.updatedAt ?_
    closedAt := textual "closedAt" (by decide) _ valid.closedAt ?_
    dependsOn := listed "dependsOn" (by decide) _ valid.dependsOn ?_
    blocks := listed "blocks" (by decide) _ valid.blocks ?_
    children := listed "children" (by decide) _ valid.children ?_
    parent := textual "parent" (by decide) _ valid.parent ?_
    source := source ?_
    others := others }
  all_goals simp [metadataEntries, Entries.get?_append, get?_textEntry, restored]

/-- The document of a valid issue without bare line boundaries in its metadata is read back as
the restored issue. -/
theorem readIssue_toDocument (valid : issue.IsValid) (unbroken : issue.IsUnbroken) :
    readIssue issue.toDocument =
      .ok (restored issue (Text.unlines (Text.lines issue.bodyPart))) := by
  have named : namesIssue (issue.metadataEntries.get? "id") := by
    have present : Text.isAllBlank issue.id = false := by
      rw [← Bool.not_eq_true, ← Text.trim_eq_nil_iff, valid.id.1]
      exact valid.id.2
    change (!Text.isAllBlank issue.id) = true
    rw [present]
    rfl
  have made : Intake.ofRecord (recordOf issue (Text.unlines (Text.lines issue.bodyPart))) =
      .ok (restored issue (Text.unlines (Text.lines issue.bodyPart))) :=
    Intake.ofRecord_of_carries (carries_recordOf valid _) valid.id
  have whole : issueOf issue.metadataEntries (Text.unlines (Text.lines issue.bodyPart)) =
      .ok (restored issue (Text.unlines (Text.lines issue.bodyPart))) := by
    rw [issueOf]
    simp only [payload_metadataEntries]
    rw [if_pos named]
    rw [recordOf] at made
    rw [made]
  simp only [readIssue, read, split_toDocument unbroken]
  change ((issueOf _ _).bind fun issue => _).bind _ = _
  rw [whole]
  rfl

/-- So it is read back from a file. -/
theorem readIssue_withLineFeeds (valid : issue.IsValid) (unbroken : issue.IsUnbroken) :
    readIssue (Text.withLineFeeds issue.toDocument) =
      .ok (restored issue (Text.unlines (Text.lines issue.bodyPart))) := by
  rw [← readIssue_toDocument valid unbroken, readIssue, readIssue, read, read,
    split_withLineFeeds unbroken]

end Document

end Issuebook
