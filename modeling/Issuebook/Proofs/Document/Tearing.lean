import Issuebook.Document.Reading
import Issuebook.Proofs.Document.Restoration
import Issuebook.Proofs.Text.Characters

/-!
# Metadata never holds a bare line boundary

Whatever an issue holds, the metadata of its document is escaped text between line boundaries.
A boundary inside a literal tears it, and no text that is read from the torn lines has a
boundary of that kind: `isUnbroken_of_readIssue`.
-/

namespace Issuebook

namespace Json

open Text

/-- Escaped text that holds no line boundary holds none inside an escape either. -/
theorem Escaped.isSingleLine {text : Text} (escaped : EscapedLine text) : IsSingleLine text := by
  induction escaped with
  | nil => exact fun _ present => absurd present List.not_mem_nil
  | cons front later inductionHypothesis =>
      refine isSingleLine_append ?_ inductionHypothesis
      rcases front.shape with ⟨char, rfl, -, stands⟩ | ⟨-, uncut⟩
      · simpa [IsSingleLine] using stands
      · exact fun char present ends => uncut char present (isSplitter_of_isLineBreak ends)

end Json

namespace Scalar

open Json Text

variable {text : Text}

/-- What stands between the brackets of an escaped line is one. -/
theorem escapedLine_inner (escaped : EscapedLine text) (bracketed : isBracketed text) :
    EscapedLine (inner text) := by
  simp only [isBracketed, Bool.and_eq_true, beq_iff_eq] at bracketed
  obtain ⟨rest, rfl⟩ := List.head?_eq_some_iff.mp bracketed.1
  have opened : EscapedLine rest := escaped.tail (by decide)
  rcases List.eq_nil_or_concat rest with rfl | ⟨middle, last, rfl⟩
  · simp at bracketed
  · obtain rfl : last = ']' := by simpa [List.getLast?_cons] using bracketed.2
    have closes : isSplitter ']' := by decide
    have same : inner ('[' :: middle.concat ']') = middle := by simp [inner]
    rw [same]
    exact (opened.cut closes List.concat_eq_append).1

/-- So is each piece between commas. -/
theorem escapedLine_of_mem_pieces (escaped : EscapedLine text) :
    ∀ piece ∈ pieces text, EscapedLine piece := by
  intro piece present
  obtain ⟨found, -⟩ := List.mem_filter.mp present
  obtain ⟨part, place, rfl⟩ := List.mem_map.mp found
  exact (escaped.mem_splitOn place).trim

/-- Between brackets there is no bare line break when there is none outside. -/
theorem isUnbroken_inner (unbroken : Text.IsUnbroken text) : Text.IsUnbroken (inner text) :=
  unbroken.of_subset fun _ present => List.mem_of_mem_tail (List.dropLast_subset _ present)

/-- A scalar of an escaped line has no bare line break. -/
theorem isUnbroken_readBy {other : Text → Value} (escaped : EscapedLine text)
    (otherUnbroken : isBracketed text → (other text).IsUnbroken) :
    (readBy other text).IsUnbroken := by
  have unbroken : Text.IsUnbroken text := isUnbroken_of_isSingleLine escaped.isSingleLine
  unfold readBy
  split
  · trivial
  split
  · trivial
  split
  · trivial
  split
  · trivial
  split
  · trivial
  split
  · unfold doubleQuoted
    cases found : Json.read? text with
    | none => exact isUnbroken_inner unbroken
    | some value => exact isUnbroken_of_read? escaped found
  split
  · exact isUnbroken_replaceFrom (by decide) (isUnbroken_inner unbroken) 0
  split
  · rename_i bracketed
    split
    · rename_i items found
      unfold jsonItems? at found
      split at found
      · rename_i read
        obtain rfl := Option.some.inj found
        exact isUnbroken_of_read? escaped read
      · cases found
    · exact otherUnbroken bracketed
  · exact unbroken

/-- A scalar in an escaped line has an unbroken value. -/
theorem isUnbroken_readWithin (depth : Nat) (escaped : EscapedLine text) :
    (readWithin depth text).IsUnbroken := by
  induction depth generalizing text with
  | zero =>
      rw [readWithin_zero]
      exact isUnbroken_readBy escaped fun _ => isUnbroken_of_isSingleLine escaped.isSingleLine
  | succ depth inductionHypothesis =>
      rw [readWithin_succ]
      refine isUnbroken_readBy escaped fun bracketed item present => ?_
      obtain ⟨piece, place, rfl⟩ := List.mem_map.mp present
      have part := escapedLine_of_mem_pieces (escapedLine_inner escaped bracketed) piece place
      exact (inductionHypothesis part).isUnbrokenText

end Scalar

namespace Metadata

open Json Text

variable {text value : Text} {following lines : List Text}

/-- The value of an escaped line is one. -/
theorem escapedLine_of_keyValue? (escaped : EscapedLine text) {key : Text}
    (found : keyValue? text = some (key, value)) : EscapedLine value := by
  unfold keyValue? at found
  split at found
  · cases found
  · rename_i before after cut
    dsimp only at found
    split_ifs at found
    obtain ⟨-, rfl⟩ := Prod.mk.inj (Option.some.inj found)
    have colon : isSplitter ':' := by decide
    exact (escaped.cut colon (eq_of_cutAtChar? cut)).2.trim

/-- Paragraphs of lines without bare line breaks have none, also while one is open. -/
theorem isUnbroken_paragraphsFrom (unbroken : ∀ line ∈ lines, Text.IsUnbroken line) :
    (∀ part ∈ (paragraphsFrom lines).1, Text.IsUnbroken part) ∧
      ∀ paragraph ∈ (paragraphsFrom lines).2, Text.IsUnbroken paragraph := by
  induction lines with
  | nil => simp [paragraphsFrom]
  | cons line lines inductionHypothesis =>
      obtain ⟨front, back⟩ := List.forall_mem_cons.mp unbroken
      obtain ⟨current, closed⟩ := inductionHypothesis back
      rw [paragraphsFrom]
      dsimp only
      split_ifs
      · exact ⟨by simp, closed⟩
      · exact ⟨by simp, List.forall_mem_cons.mpr ⟨isUnbroken_join (by decide) current, closed⟩⟩
      · exact ⟨List.forall_mem_cons.mpr ⟨front.trim, current⟩, closed⟩

/-- The same for all paragraphs. -/
theorem isUnbroken_paragraphs (unbroken : ∀ line ∈ lines, Text.IsUnbroken line) :
    ∀ paragraph ∈ paragraphs lines, Text.IsUnbroken paragraph := by
  obtain ⟨current, closed⟩ := isUnbroken_paragraphsFrom unbroken
  rw [paragraphs]
  dsimp only
  split_ifs
  · exact closed
  · exact List.forall_mem_cons.mpr ⟨isUnbroken_join (by decide) current, closed⟩

/-- The text of a block has none. -/
theorem isUnbroken_blockText (mark : Text) (unbroken : ∀ line ∈ lines, Text.IsUnbroken line) :
    Text.IsUnbroken (blockText mark lines) := by
  rw [blockText]
  split_ifs
  · exact (isUnbroken_join (by decide) (isUnbroken_paragraphs unbroken)).trim
  · exact (isUnbroken_join (by decide) unbroken).trim

/-- Neither have its lines. -/
theorem isUnbroken_blockLines (unbroken : ∀ line ∈ following, Text.IsUnbroken line) :
    ∀ line ∈ blockLines following, Text.IsUnbroken line := by
  intro line present
  obtain ⟨found, place, rfl⟩ := List.mem_map.mp present
  have whole := unbroken found ((List.takeWhile_subset _) place)
  split_ifs
  · exact fun _ absent => absurd absent List.not_mem_nil
  · exact whole.of_subset (List.dropWhile_suffix _).subset

/-- Neither have the items on lines of their own. -/
theorem isUnbroken_itemValues (escaped : ∀ line ∈ following, EscapedLine line) :
    ∀ item ∈ itemValues following, item.IsUnbroken := by
  intro item present
  obtain ⟨line, place, rfl⟩ := List.mem_map.mp present
  have whole : EscapedLine (Text.trim line) :=
    (escaped line ((List.takeWhile_subset _) place)).trim
  have isItem : isItem line := List.mem_takeWhile_imp place
  have dashed : startsWith (Text.trim line) ['-'] := (Bool.and_eq_true_iff.mp isItem).2
  cases shape : Text.trim line with
  | nil => simp [shape, startsWith, dropHead?] at dashed
  | cons first rest =>
      obtain rfl : '-' = first := by
        by_contra other
        simp [shape, startsWith, dropHead?, other] at dashed
      rw [shape] at whole
      exact Scalar.isUnbroken_readWithin _ (whole.tail (by decide)).trim

/-- Neither has the value of an entry. -/
theorem isUnbroken_entryValue (escaped : EscapedLine value)
    (others : ∀ line ∈ following, EscapedLine line) :
    (entryValue value following).IsUnbroken := by
  have unbroken : ∀ line ∈ following, Text.IsUnbroken line := fun line present =>
    isUnbroken_of_isSingleLine (others line present).isSingleLine
  unfold entryValue
  split_ifs
  · exact isUnbroken_blockText value (isUnbroken_blockLines unbroken)
  · split
    · trivial
    · exact fun item present => (isUnbroken_itemValues others item present).isUnbrokenText
  · exact Scalar.isUnbroken_readWithin _ escaped

/-- Every value of a metadata block that consists of escaped lines is unbroken. -/
theorem isUnbroken_pairs (escaped : ∀ line ∈ lines, EscapedLine line) :
    ∀ entry ∈ pairs lines, entry.2.IsUnbroken := by
  induction lines with
  | nil => simp [pairs]
  | cons line lines inductionHypothesis =>
      obtain ⟨front, back⟩ := List.forall_mem_cons.mp escaped
      rw [pairs]
      refine List.forall_mem_append.mpr ⟨?_, inductionHypothesis back⟩
      intro entry present
      rw [Option.mem_toList] at present
      unfold entryAt? at present
      split_ifs at present
      obtain ⟨⟨key, value⟩, found, rfl⟩ := Option.map_eq_some_iff.mp present
      exact isUnbroken_entryValue (escapedLine_of_keyValue? front found) back

end Metadata

namespace Document

open Issue Json

variable {issue other : Issue} {metadata : Entries Value}

/-- What stands before the fence was written before it. -/
theorem inner_of_cutAtFence? {before rest inner after : List Text}
    (cut : cutAtFence? (before ++ fence :: rest) = some (inner, after)) : inner <+: before := by
  induction before generalizing inner after with
  | nil =>
      have closes : isFence fence := by decide
      rw [List.nil_append, cutAtFence?, if_pos closes] at cut
      obtain ⟨rfl, -⟩ := Prod.mk.inj (Option.some.inj cut)
      exact List.prefix_refl []
  | cons line before inductionHypothesis =>
      rw [List.cons_append, cutAtFence?] at cut
      split_ifs at cut
      · obtain ⟨rfl, -⟩ := Prod.mk.inj (Option.some.inj cut)
        exact List.nil_prefix
      · obtain ⟨⟨front, back⟩, found, same⟩ := Option.map_eq_some_iff.mp cut
        obtain ⟨rfl, -⟩ := Prod.mk.inj same
        exact (List.prefix_cons_inj line).mpr (inductionHypothesis found)

/-- The payload has values of the metadata. -/
theorem payload_values (metadata : Entries Value) :
    ∀ entry ∈ payload metadata, ∃ key, (key, entry.2) ∈ metadata := by
  intro entry present
  obtain ⟨⟨key, value⟩, found, rfl⟩ := List.mem_map.mp (Entries.mem_of_mem_ofList present)
  exact ⟨key, List.mem_of_mem_filter found⟩

/-- What is written for an issue is escaped. -/
theorem escaped_of_isWritten {value : Text} (written : issue.IsWritten value) :
    Escaped (fun _ => True) value := by
  cases written with
  | literal | source => exact escaped_string _
  | list => exact escaped_stringList _
  | status => cases issue.status <;> exact .of_not_mem (by decide)
  | kind => cases issue.kind <;> exact .of_not_mem (by decide)
  | priority =>
      match issue.priority with
      | 0 | 1 | 2 | 3 | 4 => exact .of_not_mem (by decide)

/-- The metadata lines of any issue are escaped text, whatever boundaries stand in them. -/
theorem escaped_metadataLines (issue : Issue) :
    ∀ line ∈ issue.metadataLines, Escaped (fun _ => True) line := by
  have keys : ∀ key ∈ metadataKeys, '\\' ∉ key ++ (": " : Text) := by decide
  intro line present
  obtain ⟨key, isKey, value, written, rfl⟩ := isMetadataLine_of_mem issue line present
  exact (Escaped.of_not_mem (keys key isKey)).append (escaped_of_isWritten written)

/-- So are lines of it with their line feeds. -/
theorem escaped_terminated {lines : List Text}
    (escaped : ∀ line ∈ lines, Escaped (fun _ => True) line) :
    Escaped (fun _ => True) (Text.terminated lines) := by
  induction lines with
  | nil => exact .nil
  | cons line lines inductionHypothesis =>
      obtain ⟨front, back⟩ := List.forall_mem_cons.mp escaped
      have feed : EscapeUnit (fun _ => True) ['\n'] := .plain (by decide) trivial
      rw [Text.terminated_cons]
      exact front.append (.cons feed (inductionHypothesis back))

/-- The metadata of a written document is read from escaped lines, torn or not. -/
theorem metadata_of_split {body : Text} (cut : split issue.toDocument = .ok (metadata, body)) :
    ∃ inner, metadata = Metadata.read inner ∧ ∀ line ∈ inner, EscapedLine line := by
  have lines : Text.lines issue.toDocument =
      fence :: (Text.lines (Text.terminated issue.metadataLines) ++
        fence :: Text.lines issue.bodyPart) := by
    rw [toDocument_eq, Text.lines_terminated_cut, Text.lines_single_append (by decide),
      Text.terminated_cons, Text.lines_single_append (by decide)]
    rfl
  have opens : opensDocument fence := by decide
  rw [split, lines] at cut
  simp only [opens, if_true] at cut
  split at cut
  · rename_i inner after found
    obtain ⟨rfl, -⟩ := Prod.mk.inj (Except.ok.inj cut)
    refine ⟨inner, rfl, fun line present => ?_⟩
    have place := (inner_of_cutAtFence? found).subset present
    exact (escaped_terminated (escaped_metadataLines issue)).mem_lines place
  · cases cut

/-- An issue that is read is made of the payload with the body as description. -/
theorem makes_of_issueOf {body : Text} (made : issueOf metadata body = .ok other) :
    Intake.Makes ((payload metadata).put "description" (.ofText? (trimmed? body))) other := by
  unfold issueOf at made
  dsimp only at made
  split_ifs at made
  split at made
  · cases made
  · exact Intake.makes_of_ofRecord made

/-- The issue of a written document has no bare line boundary in its metadata, whatever issue
the document was written for. -/
theorem isUnbroken_of_readIssue (made : readIssue issue.toDocument = .ok other) :
    other.IsUnbroken := by
  obtain ⟨metadata, body, cut, whole⟩ : ∃ metadata body,
      split issue.toDocument = .ok (metadata, body) ∧ issueOf metadata body = .ok other := by
    unfold readIssue read at made
    cases cut : split issue.toDocument with
    | error fault =>
        rw [cut] at made
        cases made
    | ok parts =>
        obtain ⟨metadata, body⟩ := parts
        rw [cut] at made
        refine ⟨metadata, body, rfl, ?_⟩
        cases whole : issueOf metadata body with
        | error fault =>
            change ((issueOf metadata body).bind _).bind _ = _ at made
            rw [whole] at made
            cases made
        | ok issue =>
            change ((issueOf metadata body).bind _).bind _ = _ at made
            rw [whole] at made
            exact congrArg _ (Except.ok.inj made)
  obtain ⟨inner, rfl, escaped⟩ := metadata_of_split cut
  refine Intake.isUnbroken_of_makes (makes_of_issueOf whole) fun name otherName value found => ?_
  have found : (payload (Metadata.read inner)).get? name = some value := by
    rwa [Entries.get?_put_other (Ne.symm otherName)] at found
  obtain ⟨key, present⟩ := payload_values _ _ (Entries.mem_of_get? found)
  exact Metadata.isUnbroken_pairs escaped _ (Entries.mem_of_mem_ofList present)

end Document

end Issuebook
