import Issuebook.Proofs.Document.Tearing

/-!
# Faithful metadata

A document gives back the metadata of its issue, field by field, exactly when no text of the
metadata has one of the line boundaries that literals leave bare.
-/

namespace Issuebook.Issue

variable {issue other : Issue}

/-- Another issue has the metadata of this one, with empty lists for absent ones. -/
structure SameMetadata (issue other : Issue) : Prop where
  /-- The identifier. -/
  id : other.id = issue.id
  /-- The title. -/
  title : other.title = issue.title
  /-- The status. -/
  status : other.status = issue.status
  /-- The kind. -/
  kind : other.kind = issue.kind
  /-- The priority. -/
  priority : other.priority = issue.priority
  /-- The labels. -/
  labels : other.labels = some (itemsOrNone issue.labels)
  /-- The assignee. -/
  assignee : other.assignee = issue.assignee
  /-- The time of creation. -/
  createdAt : other.createdAt = issue.createdAt
  /-- The time of change. -/
  updatedAt : other.updatedAt = issue.updatedAt
  /-- The time of closing. -/
  closedAt : other.closedAt = issue.closedAt
  /-- The issues it waits for. -/
  dependsOn : other.dependsOn = some (itemsOrNone issue.dependsOn)
  /-- The issues that wait for it. -/
  blocks : other.blocks = some (itemsOrNone issue.blocks)
  /-- Its parts. -/
  children : other.children = some (itemsOrNone issue.children)
  /-- The parent. -/
  parent : other.parent = issue.parent
  /-- The source. -/
  source : other.source = issue.source

/-- The issue that a document restores has the metadata of the issue. -/
theorem sameMetadata_restored (issue : Issue) (text : Text) :
    SameMetadata issue (Document.restored issue text) where
  id := rfl
  title := rfl
  status := rfl
  kind := rfl
  priority := rfl
  labels := rfl
  assignee := rfl
  createdAt := rfl
  updatedAt := rfl
  closedAt := rfl
  dependsOn := rfl
  blocks := rfl
  children := rfl
  parent := rfl
  source := rfl

/-- The same metadata has the same texts. -/
theorem SameMetadata.metadataTexts (same : SameMetadata issue other) :
    other.metadataTexts = issue.metadataTexts := by
  simp only [Issue.metadataTexts, same.id, same.title, same.labels, same.assignee, same.createdAt,
    same.updatedAt, same.closedAt, same.parent, same.dependsOn, same.blocks, same.children,
    itemsOrNone, Option.getD_some]

/-- Metadata that a document gives back has no bare line boundary. -/
theorem isUnbroken_of_sameMetadata (made : Document.readIssue issue.toDocument = .ok other)
    (same : SameMetadata issue other) : issue.IsUnbroken := by
  have unbroken : other.IsUnbroken := Document.isUnbroken_of_readIssue made
  unfold IsUnbroken at unbroken ⊢
  rwa [same.metadataTexts] at unbroken

/-- The document of a valid issue is read back with the same metadata exactly when no text of
the metadata has a line boundary that literals leave bare. -/
theorem restores_metadata_iff (issue : Issue) (valid : issue.IsValid) :
    (∃ other, Document.readIssue issue.toDocument = .ok other ∧ SameMetadata issue other) ↔
      issue.IsUnbroken := by
  constructor
  · rintro ⟨other, made, same⟩
    exact isUnbroken_of_sameMetadata made same
  · intro unbroken
    exact ⟨_, Document.readIssue_toDocument valid unbroken, sameMetadata_restored issue _⟩

/-- An issue whose texts look like other parts of a metadata block. -/
def disguised : Issue where
  id := "x: \"1\""
  title := "---\nstatus: closed"
  description := none
  status := .opened
  kind := .task
  priority := .standard
  labels := some ["a, b", "]", "\\"]
  assignee := some "null"
  createdAt := some "2024"
  updatedAt := none
  closedAt := none
  dependsOn := none
  blocks := some []
  children := none
  parent := some "| # '"
  source := some .file

/-- An issue whose title looks like metadata is restored. -/
theorem disguised_restored : disguised.IsValid ∧
    ∃ other, Document.readIssue disguised.toDocument = .ok other ∧
      SameMetadata disguised other := by
  have valid : disguised.IsValid := by
    constructor <;> decide
  exact ⟨valid, (restores_metadata_iff disguised valid).mpr (by decide)⟩

/-- An open issue whose assignee holds a line that names another status. -/
def overreaching : Issue where
  id := "x-1"
  title := "T"
  description := none
  status := .opened
  kind := .task
  priority := .standard
  labels := none
  assignee := some "ann\u2028status: closed\u2028bob"
  createdAt := none
  updatedAt := none
  closedAt := none
  dependsOn := none
  blocks := none
  children := none
  parent := none
  source := none

/-- The document of an overreaching issue does not give its metadata back: it is read as that of
a closed issue. -/
theorem overreaching_not_restored : overreaching.IsValid ∧
    (¬ ∃ other, Document.readIssue overreaching.toDocument = .ok other ∧
      SameMetadata overreaching other) ∧
    (Document.readIssue overreaching.toDocument).toOption.map Issue.status = some .closed := by
  refine ⟨by constructor <;> decide, ?_, by decide +kernel⟩
  rintro ⟨other, made, same⟩
  exact absurd (isUnbroken_of_sameMetadata made same) (by decide)

end Issuebook.Issue
