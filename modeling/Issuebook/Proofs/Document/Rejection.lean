import Issuebook.Document.Reading
import Issuebook.Proofs.Entries
import Issuebook.Proofs.Fault
import Issuebook.Proofs.Number.Range

/-!
# Texts that are no documents

A text is a document or it is rejected for one of three reasons, unless its metadata name an issue
and give it a priority that is too large for a floating-point number: the reader breaks off there,
`yields_read_iff`.
-/

namespace Issuebook

namespace Intake

variable {record : Entries Value}

/-- A record has no priority where a whole number that is too large stands for it. -/
theorem priority?_eq_none : priority? record = none ↔
    ∃ number, record.get? "priority" = some (.int number) ∧
      Binary64.sizeLimit ≤ number.natAbs := by
  unfold priority?
  split
  · next absent =>
      rw [absent]
      exact iff_of_false (nomatch ·) fun ⟨_, held, _⟩ => nomatch held
  · next value held =>
      rw [held]
      cases value with
      | int number => simp [Priority.ofValue?, Binary64.ofInt?_eq_none]
      | _ => simp [Priority.ofValue?]

/-- A record whose priority is out of range ends with that fault. -/
theorem ofRecord_of_priority?_eq_none (absent : priority? record = none) :
    ofRecord record = .error .outOfRange := by
  unfold ofRecord
  dsimp only
  rw [absent]

/-- A record with a priority makes an issue, or its problems are told. -/
theorem ok_or_invalid_of_priority? (present : priority? record ≠ none) :
    (∃ issue, ofRecord record = .ok issue) ∨
      ∃ problems, ofRecord record = .error (.invalid .issue problems) := by
  obtain ⟨priority, found⟩ := Option.ne_none_iff_exists'.mp present
  unfold ofRecord
  dsimp only
  rw [found]
  dsimp only
  split_ifs
  · exact .inl ⟨_, rfl⟩
  · exact .inr ⟨_, rfl⟩

end Intake

namespace Document

variable {content : Text}

/-- Whether a fault rejects a text as a document. -/
def isRejection : Fault → Bool
  | .unclosedMetadata | .missingId | .invalidDocument _ => true
  | _ => false

/-- The metadata of a text name an issue, and give it a whole number as its priority that is too
large for a floating-point number. -/
def Overruns (content : Text) : Prop :=
  ∃ metadata body number, split content = .ok (metadata, body) ∧
    namesIssue ((payload metadata).get? "id") ∧
    (payload metadata).get? "priority" = some (.int number) ∧
    Binary64.sizeLimit ≤ number.natAbs

/-- A document is split, or rejected. -/
theorem yields_split (content : Text) :
    Fault.Yields isRejection (fun _ => True) (split content) := by
  unfold split
  split
  · exact trivial
  · split_ifs
    · split
      · exact trivial
      · rfl
    · exact trivial

/-- The description of a document is not its priority. -/
theorem priority?_put (metadata : Entries Value) (description : Value) :
    Intake.priority? ((payload metadata).put "description" description) =
      Intake.priority? (payload metadata) := by
  unfold Intake.priority?
  rw [Entries.get?_put_other (by decide)]

/-- Metadata with such a priority ends with the fault, if it names an issue. -/
theorem issueOf_of_overruns {metadata : Entries Value} (body : Text)
    (named : namesIssue ((payload metadata).get? "id"))
    (absent : Intake.priority? (payload metadata) = none) :
    issueOf metadata body = .error .outOfRange := by
  have broken := Intake.ofRecord_of_priority?_eq_none
    ((priority?_put metadata (.ofText? (trimmed? body))).trans absent)
  unfold issueOf
  dsimp only
  rw [if_pos named, broken]

/-- Any other metadata makes an issue or is rejected. -/
theorem yields_issueOf {metadata : Entries Value} (body : Text)
    (present : Intake.priority? (payload metadata) ≠ none ∨
      namesIssue ((payload metadata).get? "id") = false) :
    Fault.Yields isRejection (fun _ => True) (issueOf metadata body) := by
  unfold issueOf
  dsimp only
  split_ifs with named
  · rw [named] at present
    have held : Intake.priority? ((payload metadata).put "description"
        (.ofText? (trimmed? body))) ≠ none := by
      rw [priority?_put]
      exact present.resolve_right (nomatch ·)
    rcases Intake.ok_or_invalid_of_priority? held with ⟨issue, made⟩ | ⟨problems, told⟩
    · rw [made]
      exact trivial
    · rw [told]
      rfl
  · rfl

/-- A document with a number out of range is read as that fault. -/
theorem read_of_overruns (overruns : Overruns content) :
    read content = .error .outOfRange := by
  obtain ⟨metadata, body, number, cut, named, held, large⟩ := overruns
  have absent : Intake.priority? (payload metadata) = none :=
    Intake.priority?_eq_none.mpr ⟨number, held, large⟩
  unfold read
  rw [cut]
  dsimp only [bind, Except.bind]
  rw [issueOf_of_overruns body named absent]

/-- Every other text is a document or rejected. -/
theorem yields_read (fits : ¬ Overruns content) :
    Fault.Yields isRejection (fun _ => True) (read content) := by
  unfold read
  cases cut : split content with
  | error fault => exact (yields_split content).of_error cut
  | ok parts =>
      obtain ⟨metadata, body⟩ := parts
      have made : Fault.Yields isRejection (fun _ => True) (issueOf metadata body) := by
        refine yields_issueOf body (Classical.byContradiction fun neither => fits ?_)
        obtain ⟨absent, named⟩ := not_or.mp neither
        obtain ⟨number, held, large⟩ := Intake.priority?_eq_none.mp (not_not.mp absent)
        exact ⟨metadata, body, number, cut, Bool.of_not_eq_false named, held, large⟩
      exact made.bind fun _ _ => trivial

/-- A text is a document or rejected exactly where no priority is too large. -/
theorem yields_read_iff :
    Fault.Yields isRejection (fun _ => True) (read content) ↔ ¬ Overruns content := by
  refine ⟨fun yields overruns => ?_, yields_read⟩
  cases yields.of_error (read_of_overruns overruns)

/-- So is the text that its issue is read from. -/
theorem yields_readIssue (fits : ¬ Overruns content) :
    Fault.Yields isRejection (fun _ => True) (readIssue content) :=
  (yields_read fits).bind fun _ _ => trivial

/-- A text overruns exactly if it ends the reading of its issue. -/
theorem overruns_iff : Overruns content ↔ readIssue content = .error .outOfRange := by
  refine ⟨fun overruns => ?_, fun broken => ?_⟩
  · unfold readIssue
    rw [read_of_overruns overruns]
    rfl
  · by_contra fits
    cases (yields_readIssue fits).of_error broken

end Document

end Issuebook
