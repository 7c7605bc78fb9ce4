import Issuebook.Proofs.Issue.Validity
import Issuebook.Proofs.Json.Tearing
import Issuebook.Proofs.Number.Writing

/-!
# Unbroken issues

Issues without bare line boundaries in their metadata. Intake puts none into an issue that was
not in a field of its record: `isUnbroken_of_makes`.
-/

namespace Issuebook

namespace Issue

/-- The texts of an issue that stand as literals in its metadata block. -/
def metadataTexts (issue : Issue) : List Text :=
  [issue.id, issue.title] ++ itemsOrNone issue.labels ++ issue.assignee.toList ++
    issue.createdAt.toList ++ issue.updatedAt.toList ++ issue.closedAt.toList ++
    issue.parent.toList ++ itemsOrNone issue.dependsOn ++ itemsOrNone issue.blocks ++
    itemsOrNone issue.children

/-- No text of the metadata has a line boundary that literals leave bare. -/
def IsUnbroken (issue : Issue) : Prop :=
  ∀ text ∈ issue.metadataTexts, Text.IsUnbroken text

instance (issue : Issue) : Decidable issue.IsUnbroken :=
  List.decidableBAll _ _

end Issue

/-- A number has no bare line break. -/
theorem Text.isUnbroken_of_isNumberText {text : Text} (number : IsNumberText text) :
    IsUnbroken text := by
  intro char present bare
  have range : char.isDigit → char.toNat ≤ 57 := by
    intro digit
    simp only [Char.isDigit, Bool.and_eq_true, decide_eq_true_eq] at digit
    exact UInt32.le_iff_toNat_le.mp digit.2
  have others : IsUnbroken ("+-.aefin" : Text) := by decide
  rcases number char present with digit | other
  · have small := range digit
    rw [Json.isBareBreak_iff] at bare
    unfold Json.IsPlainUnit at bare
    omega
  · exact others char other bare

namespace Intake

open Text

variable {record : Entries Value} {value : Value} {text : Text}

/-- Neither has the text of a scalar without one. -/
theorem isUnbroken_of_scalarText? (unbroken : value.IsUnbrokenText)
    (found : value.scalarText? = some text) : Text.IsUnbroken text := by
  cases value with
  | int number =>
      obtain rfl := Option.some.inj found
      exact isUnbroken_of_isNumberText (isNumberText_ofInt number)
  | float number =>
      obtain rfl := Option.some.inj found
      exact isUnbroken_of_isNumberText (Binary64.isNumberText_toText number)
  | text written =>
      obtain rfl := Option.some.inj found
      exact unbroken
  | _ => cases found

/-- Neither has its cleaned text. -/
theorem isUnbroken_of_cleanText? (unbroken : value.IsUnbrokenText)
    (found : value.cleanText? = some text) : Text.IsUnbroken text := by
  unfold Value.cleanText? at found
  split at found
  · rename_i written scalar
    dsimp only at found
    split_ifs at found
    obtain rfl := Option.some.inj found
    exact (isUnbroken_of_scalarText? unbroken scalar).trim
  · cases found

/-- A value under one of a field's names, if there is one, is unbroken. -/
def IsUnbrokenField (field : Option Value) : Prop :=
  ∀ value ∈ field, value.IsUnbroken

/-- Neither has an identifier made of it. -/
theorem isUnbroken_of_checkId {field : Option Value} (unbroken : IsUnbrokenField field)
    (made : checkId field = .ok text) : Text.IsUnbroken text := by
  unfold checkId at made
  split at made
  · cases made
  · split at made
    · rename_i found
      obtain rfl := Except.ok.inj made
      exact isUnbroken_of_cleanText? (unbroken _ rfl).isUnbrokenText found
    · cases made

/-- Neither has a title. -/
theorem isUnbroken_of_checkTitle {field : Option Value} (unbroken : IsUnbrokenField field)
    (made : checkTitle field = .ok text) : Text.IsUnbroken text := by
  unfold checkTitle at made
  split at made
  · obtain rfl := Except.ok.inj made
    decide
  · obtain rfl := Except.ok.inj made
    decide
  · split at made
    · rename_i found
      obtain rfl := Except.ok.inj made
      exact isUnbroken_of_scalarText? (unbroken _ rfl).isUnbrokenText found
    · cases made

/-- Neither has an optional text. -/
theorem isUnbroken_of_checkText {field : Option Value} (unbroken : IsUnbrokenField field)
    {made : Option Text} (checked : checkText field = .ok made) :
    ∀ written ∈ made, Text.IsUnbroken written := by
  unfold checkText at checked
  split at checked
  · obtain rfl := Except.ok.inj checked
    simp
  · obtain rfl := Except.ok.inj checked
    simp
  · split at checked
    · rename_i found
      obtain rfl := Except.ok.inj checked
      intro written present
      split_ifs at present
      · cases present
      · obtain rfl := Option.some.inj present
        exact isUnbroken_of_scalarText? (unbroken _ rfl).isUnbrokenText found
    · cases checked

/-- Neither has an item of a list. -/
theorem isUnbroken_of_idList? {field : Option Value} (unbroken : IsUnbrokenField field)
    {made : Option (List Text)} (listed : field.bind Value.idList? = made) :
    ∀ item ∈ Issue.itemsOrNone made, Text.IsUnbroken item := by
  subst listed
  intro item present
  rcases field with - | value
  · cases present
  · have whole := unbroken value rfl
    simp only [Option.bind_some] at present
    unfold Value.idList? at present
    split at present
    · obtain ⟨piece, part, found⟩ := List.mem_filterMap.mp present
      have unbrokenPiece : Text.IsUnbroken piece :=
        whole.of_subset fun _ => mem_of_mem_splitOn part
      exact isUnbroken_of_cleanText?
        (show Value.IsUnbrokenText (.text piece) from unbrokenPiece) found
    · obtain ⟨value, part, found⟩ := List.mem_filterMap.mp present
      exact isUnbroken_of_cleanText? (whole value part) found
    · cases present

/-- A field that is found under one of its names has none when no field under them has. -/
theorem isUnbrokenField_field? {names : List Text}
    (unbroken : ∀ name ∈ names, IsUnbrokenField (record.get? name)) :
    IsUnbrokenField (field? record names) := by
  intro value found
  obtain ⟨name, present, taken⟩ := List.exists_of_findSome?_eq_some found
  exact unbroken name present value taken

/-- An issue that is made of unbroken fields is unbroken. -/
theorem isUnbroken_of_makes {issue : Issue} (makes : Makes record issue)
    (unbroken : ∀ name, name ≠ ("description" : Text) → IsUnbrokenField (record.get? name)) :
    issue.IsUnbroken := by
  have named (names : List Text) (other : ∀ name ∈ names, name ≠ ("description" : Text)) :
      IsUnbrokenField (field? record names) :=
    isUnbrokenField_field? fun name present => unbroken name (other name present)
  have timed (usual other : Text) (usualOther : usual ≠ ("description" : Text))
      (otherOther : other ≠ ("description" : Text)) :
      IsUnbrokenField (record.get? (nameIn record usual other)) := by
    unfold nameIn
    split_ifs
    · exact unbroken usual usualOther
    · exact unbroken other otherOther
  simp only [Issue.IsUnbroken, Issue.metadataTexts, List.forall_mem_append, List.forall_mem_cons,
    Option.mem_toList]
  refine ⟨⟨⟨⟨⟨⟨⟨⟨⟨⟨?_, ?_, by simp⟩, ?_⟩, ?_⟩, ?_⟩, ?_⟩, ?_⟩, ?_⟩, ?_⟩, ?_⟩, ?_⟩
  · exact isUnbroken_of_checkId (named _ (by decide)) makes.id
  · exact isUnbroken_of_checkTitle (named _ (by decide)) makes.title
  · exact isUnbroken_of_idList? (named _ (by decide)) makes.labels
  · exact isUnbroken_of_checkText (named _ (by decide)) makes.assignee
  · exact isUnbroken_of_checkText (timed _ _ (by decide) (by decide)) makes.createdAt
  · exact isUnbroken_of_checkText (timed _ _ (by decide) (by decide)) makes.updatedAt
  · exact isUnbroken_of_checkText (timed _ _ (by decide) (by decide)) makes.closedAt
  · exact isUnbroken_of_checkText (named _ (by decide)) makes.parent
  · exact isUnbroken_of_idList? (named _ (by decide)) makes.dependsOn
  · exact isUnbroken_of_idList? (named _ (by decide)) makes.blocks
  · exact isUnbroken_of_idList? (named _ (by decide)) makes.children

end Intake

end Issuebook
