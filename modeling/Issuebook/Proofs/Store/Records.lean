import Issuebook.Proofs.Document.Rejection
import Issuebook.Proofs.Issue.Validity
import Issuebook.Proofs.Json.Enclosure
import Issuebook.Proofs.Loading
import Mathlib.Data.List.Flatten

/-!
# The records of a log

A log is written line by line, one record a line, and read piece by piece: the reader ends lines
at every line boundary, not only at line feeds. Each line gives the issues of its pieces, whatever
the other lines are, unless some piece ends the loading: one that nests deeper than the reader goes,
or one whose record has a priority that is too large for a floating-point number. A record that is
written on one line by every measure is kept, and one that is torn is lost: `load_keepsRecords`.
-/

namespace Issuebook

/-- A record of fields without a priority that is too large makes an issue, or is invalid. -/
theorem Intake.yields_ofRecord {fields : Entries Value}
    (fits : ∀ number, fields.get? "priority" = some (.int number) →
      ¬ Binary64.sizeLimit ≤ number.natAbs) :
    Fault.Yields StoreLog.isInvalid (fun _ => True) (ofRecord fields) := by
  have present : priority? fields ≠ none := by
    intro absent
    obtain ⟨number, held, large⟩ := priority?_eq_none.mp absent
    exact fits number held large
  rcases ok_or_invalid_of_priority? present with ⟨issue, made⟩ | ⟨problems, failed⟩
  · rw [made]
    exact trivial
  · rw [failed]
    rfl

namespace StoreRecord

variable {record : StoreRecord} {issue : Issue} {fields : Entries Value}

/-- A record whose priority is too large for a floating-point number. -/
def Overruns (record : StoreRecord) : Prop :=
  ∃ number, record.priority = .int number ∧ Binary64.sizeLimit ≤ number.natAbs

instance (record : StoreRecord) : Decidable record.Overruns :=
  match held : record.priority with
  | .int number => decidable_of_iff (Binary64.sizeLimit ≤ number.natAbs) <| by
      simp [Overruns, held]
  | .null | .bool _ | .float _ | .text _ | .list _ | .record _ | .issue _ =>
    .isFalse <| by simp [Overruns, held]

/-- A record with a number out of range is no issue, and its fault ends the reading. -/
theorem toIssue_of_overruns (overruns : record.Overruns) :
    record.toIssue = .error .outOfRange := by
  obtain ⟨number, held, large⟩ := overruns
  refine Intake.ofRecord_of_priority?_eq_none (Intake.priority?_eq_none.mpr ⟨number, ?_, large⟩)
  rw [← held]
  rfl

/-- Any other record is an issue or invalid. -/
theorem yields_toIssue (fits : ¬ record.Overruns) :
    Fault.Yields StoreLog.isInvalid (fun _ => True) record.toIssue :=
  Intake.yields_ofRecord fun number held large => fits ⟨number, Option.some.inj held, large⟩

/-- The issue of a record has its identifier, trimmed as identifiers are. -/
theorem id_of_toIssue (made : record.toIssue = .ok issue) : issue.id = Text.trim record.id := by
  have checked : Intake.checkId (some (.text record.id)) = .ok issue.id :=
    (Intake.makes_of_ofRecord made).id
  unfold Intake.checkId Value.cleanText? Value.scalarText? at checked
  dsimp only at checked
  split at checked
  · next id kept =>
      split_ifs at kept
      rw [← Except.ok.inj checked, Option.some.inj kept]
  · cases checked

/-- A record has an identifier. -/
theorem get?_id_of_ofFields (made : ofFields fields = .ok record) : fields.get? "id" ≠ none := by
  intro absent
  unfold ofFields at made
  rw [absent] at made
  cases made

end StoreRecord

namespace StoreLog

open Text

variable {disk : Disk} {store : Path} {issues : List Issue} {line piece : Text} {lines : List Text}
  {nesting : Nat}

/-- The issue of a line, unless the line is passed over. -/
def issueIn? (line : Text) : Option Issue :=
  (recordOf? line).bind issueOf?

/-- The issues that are found in a line: those of its pieces between any line boundaries. -/
def issuesIn (line : Text) : List Issue :=
  (Text.lines line).filterMap issueIn?

/-- No piece of a line would be JSON if it did not escape half of a character. -/
def HasNoHalf (line : Text) : Prop :=
  ∀ piece ∈ Text.lines line, Json.escapesHalf piece = false

instance (line : Text) : Decidable (HasNoHalf line) :=
  inferInstanceAs (Decidable (∀ piece ∈ Text.lines line, _))

/-- No piece of a line ends the loading: none nests deeper than the reader goes, and none holds a
record whose priority is too large. -/
def Fits (nesting : Nat) (line : Text) : Prop :=
  ∀ piece ∈ Text.lines line, Json.depth piece ≤ nesting ∧
    ∀ record ∈ recordOf? piece, ¬ record.Overruns

instance (nesting : Nat) (line : Text) : Decidable (Fits nesting line) :=
  inferInstanceAs (Decidable (∀ piece ∈ Text.lines line, _ ∧ ∀ record ∈ recordOf? piece, _))

/-- A line that is read as it was written: it gives its own issue, if it has one, and nothing
else. -/
structure IsKept (nesting : Nat) (line : Text) : Prop where
  /-- What is found in the line is its issue. -/
  issues : issuesIn line = (issueIn? line).toList
  /-- It does not end the loading. -/
  fits : Fits nesting line

instance (nesting : Nat) (line : Text) : Decidable (IsKept nesting line) :=
  decidable_of_iff (issuesIn line = (issueIn? line).toList ∧ Fits nesting line)
    ⟨fun ⟨issues, fits⟩ => ⟨issues, fits⟩, fun kept => ⟨kept.issues, kept.fits⟩⟩

/-- A line holds a record if it is read as a value that makes one. -/
theorem recordIn?_eq_some {record : StoreRecord} : recordIn? line = some record ↔
    ∃ value, Json.read? line = some value ∧ StoreRecord.ofValue value = .ok record := by
  simp only [recordIn?, Option.bind_eq_some_iff, Fault.toOption_eq_some]

/-- It tells that record unless it is one of something deleted. -/
theorem recordOf?_eq_some {record : StoreRecord} :
    recordOf? line = some record ↔ recordIn? line = some record ∧ record.isTombstone = false := by
  rw [recordOf?, Option.filter_eq_some_iff, Bool.not_eq_true']

/-- A record that makes an issue tells it. -/
theorem issueOf?_eq_some {record : StoreRecord} {issue : Issue} :
    issueOf? record = some issue ↔ record.toIssue = .ok issue := by
  unfold issueOf?
  cases record.toIssue with
  | error fault => exact iff_of_false (nomatch ·) (nomatch ·)
  | ok made => simp

/-- The issue of a line is that of the record it holds, unless the record marks it as gone. -/
theorem issueIn?_eq_some {issue : Issue} : issueIn? line = some issue ↔
    ∃ value record, Json.read? line = some value ∧ StoreRecord.ofValue value = .ok record ∧
      record.isTombstone = false ∧ record.toIssue = .ok issue := by
  simp only [issueIn?, Option.bind_eq_some_iff, recordOf?_eq_some, recordIn?_eq_some,
    issueOf?_eq_some]
  constructor
  · rintro ⟨record, ⟨⟨value, read, formed⟩, stays⟩, made⟩
    exact ⟨value, record, read, formed, stays, made⟩
  · rintro ⟨value, record, read, formed, stays, made⟩
    exact ⟨record, ⟨⟨value, read, formed⟩, stays⟩, made⟩

/-- A value that makes no record does not have the expected form. -/
theorem yields_ofValue (value : Value) :
    Fault.Yields isInvalid (fun _ => True) (StoreRecord.ofValue value) := by
  cases value with
  | record fields =>
      rw [StoreRecord.ofValue, StoreRecord.ofFields]
      dsimp only
      split_ifs
      · exact trivial
      · rfl
  | null | bool | int | float | text | list | issue => rfl

/-- A line that nests no deeper than the reader goes, and would not be JSON without its escapes of
halves, holds a record or is passed over. -/
theorem yields_readLine (shallow : Json.depth line ≤ nesting)
    (whole : Json.escapesHalf line = false) :
    Fault.Yields isMalformed (fun _ => True) (readLine line nesting) := by
  rw [readLine, Json.load_of_shallow shallow, whole]
  cases Json.read? line with
  | none => rfl
  | some value =>
      refine (yields_ofValue value).imp (fun fault invalid => ?_) fun _ => id
      rw [isMalformed, invalid, Bool.or_true]

/-- A line that nests deeper than the reader goes is not passed over. -/
theorem shallow_of_skipped
    (skipped : ∀ fault, readLine line nesting = .error fault → isMalformed fault = true) :
    Json.depth line ≤ nesting := by
  by_contra deep
  have failed : readLine line nesting = .error .outOfRange := by
    rw [readLine, Json.load_of_deep (by omega)]
    rfl
  cases skipped _ failed

/-- The records of a log can be read where no line ends the loading: every other line is passed
over. -/
theorem value_readRecords {content : Text} (path : Path)
    (shallow : ∀ line ∈ Text.lines content, Json.depth line ≤ nesting)
    (whole : ∀ line ∈ Text.lines content, Json.escapesHalf line = false) :
    (readRecords path content nesting).value = .ok ((Text.lines content).filterMap recordOf?) := by
  have read : ∃ records, (readRecords path content nesting).value = .ok records := by
    have skipped : ∀ item ∈ (numberedLines content).map fun entry =>
        (entry.1, readLine entry.2 nesting), ∀ fault, item.2 = .error fault →
          isMalformed fault = true := by
      refine List.forall_mem_map.mpr fun entry numbered fault failed => ?_
      obtain ⟨listed, -⟩ := mem_numberedLines.mp (List.mem_map_of_mem numbered)
      exact (yields_readLine (shallow _ listed) (whole _ listed)).of_error failed
    unfold readRecords
    rw [Batch.collect_of_skipped skipped]
    exact ⟨_, rfl⟩
  obtain ⟨records, read⟩ := read
  rw [read, kept_of_readRecords read]

/-- The issues of records without a priority that is too large can be made, or are passed over. -/
theorem value_issuesOf {records : List StoreRecord}
    (fit : ∀ record ∈ records, ¬ record.Overruns) :
    (issuesOf records).value = .ok (records.filterMap issueOf?) := by
  have skipped : ∀ item ∈ records.map fun record => (record, record.toIssue),
      ∀ fault, item.2 = .error fault → isInvalid fault = true :=
    List.forall_mem_map.mpr fun record listed _ failed =>
      (StoreRecord.yields_toIssue (fit record listed)).of_error failed
  have made : ∃ issues, (issuesOf records).value = .ok issues := by
    unfold issuesOf
    rw [Batch.collect_of_skipped skipped]
    exact ⟨_, rfl⟩
  obtain ⟨issues, made⟩ := made
  rw [made, kept_of_issuesOf made]

/-- Any other priority ends the loading. -/
theorem fit_of_issuesOf {records : List StoreRecord}
    (made : (issuesOf records).value = .ok issues) :
    ∀ record ∈ records, ¬ record.Overruns := by
  obtain ⟨kept, collected, -⟩ := Fault.map_eq_ok.mp made
  have skipped := List.forall_mem_map.mp (Batch.skipped_of_collect collected)
  intro record listed overruns
  cases skipped record listed _ (StoreRecord.toIssue_of_overruns overruns)

/-- The log is read as it is stored, with its line ends. -/
theorem readContent_of_stored {written : Text}
    (stored : disk.readContent (Places.issueLog store) = .ok (.text written)) :
    (readContent disk (Places.issueLog store)).value = .ok (withLineFeeds written) := by
  refine readContent_of_readText ?_
  rw [Disk.readText_eq, stored]
  rfl

/-- What is loaded from a log with a text in which no line ends the reading. -/
theorem value_load {written : Text}
    (stored : disk.readContent (Places.issueLog store) = .ok (.text written))
    (shallow : ∀ line ∈ Text.lines written, Json.depth line ≤ nesting)
    (whole : ∀ line ∈ Text.lines written, Json.escapesHalf line = false) :
    (load disk store nesting).value =
      (issuesOf ((Text.lines written).filterMap recordOf?)).value.map withInverseEdges := by
  rw [← lines_withLineFeeds] at shallow whole
  unfold load
  dsimp only
  rw [readContent_of_stored stored]
  dsimp only
  rw [value_readRecords _ shallow whole, lines_withLineFeeds]

/-! ## Lines of a log -/

/-- The empty line tells no issue. -/
theorem issueIn?_nil : issueIn? [] = none :=
  rfl

/-- The issues of all records are those of all pieces. -/
theorem filterMap_issueOf? (pieces : List Text) :
    (pieces.filterMap recordOf?).filterMap issueOf? = pieces.filterMap issueIn? := by
  rw [List.filterMap_filterMap]
  rfl

/-- All lines fit exactly when every piece of them can be read without a fault. -/
theorem fits_iff : (∀ line ∈ lines, Fits nesting line) ↔
    ∀ piece ∈ Text.lines (unlines lines), Json.depth piece ≤ nesting ∧
      ∀ record ∈ recordOf? piece, ¬ record.Overruns :=
  (forall_lines_unlines ⟨Nat.zero_le nesting, nofun⟩ lines).symm

/-- No line has half a character exactly when no piece has. -/
theorem hasNoHalf_iff : (∀ line ∈ lines, HasNoHalf line) ↔
    ∀ piece ∈ Text.lines (unlines lines), Json.escapesHalf piece = false :=
  (forall_lines_unlines (by decide) lines).symm

/-- A log whose lines fit gives the issues of one line after the other. -/
theorem load_unlines
    (stored : disk.readContent (Places.issueLog store) = .ok (.text (unlines lines)))
    (whole : ∀ line ∈ lines, HasNoHalf line) (fit : ∀ line ∈ lines, Fits nesting line) :
    (load disk store nesting).value = .ok (withInverseEdges (lines.flatMap issuesIn)) := by
  have fits := fits_iff.mp fit
  have fitRecords : ∀ record ∈ (Text.lines (unlines lines)).filterMap recordOf?,
      ¬ record.Overruns := by
    intro record kept
    obtain ⟨piece, part, found⟩ := List.mem_filterMap.mp kept
    exact (fits piece part).2 record found
  rw [value_load stored (fun piece part => (fits piece part).1) (hasNoHalf_iff.mp whole),
    value_issuesOf fitRecords, filterMap_issueOf?, filterMap_lines_unlines issueIn?_nil]
  rfl

/-- A log that is loaded has lines that fit. -/
theorem fit_of_load
    (stored : disk.readContent (Places.issueLog store) = .ok (.text (unlines lines)))
    (loaded : (load disk store nesting).value = .ok issues) :
    ∀ line ∈ lines, Fits nesting line := by
  obtain ⟨written, kept, made, found, read, makes, -⟩ := exists_of_load loaded
  obtain rfl := Except.ok.inj ((readContent_of_stored stored).symm.trans found)
  have skipped := skipped_of_readRecords read
  obtain rfl := kept_of_readRecords read
  rw [lines_withLineFeeds] at skipped makes
  refine fits_iff.mpr fun piece part => ⟨?_, fun record held => ?_⟩
  · cases blank : isAllBlank piece with
    | true => exact (Json.depth_of_isAllBlank blank).trans_le (Nat.zero_le nesting)
    | false => exact shallow_of_skipped (skipped piece part blank)
  · exact fit_of_issuesOf makes record (List.mem_filterMap.mpr ⟨piece, part, held⟩)

/-- A line in one piece tells the issue of its record. -/
theorem issuesIn_of_single (single : IsSingleLine line) :
    issuesIn line = (issueIn? line).toList := by
  unfold issuesIn
  by_cases empty : line = []
  · rw [empty, lines_nil, issueIn?_nil]
    rfl
  · rw [lines_of_single empty single, List.filterMap_cons, List.filterMap_nil]
    cases issueIn? line <;> rfl

/-- It fits when it is not nested too deep, and no number of its record is out of range. -/
theorem fits_of_single (single : IsSingleLine line) :
    Fits nesting line ↔
      Json.depth line ≤ nesting ∧ ∀ record ∈ recordOf? line, ¬ record.Overruns := by
  constructor
  · intro fits
    by_cases empty : line = []
    · subst empty
      exact ⟨Nat.zero_le nesting, nofun⟩
    · exact fits line (by rw [lines_of_single empty single]; exact List.mem_singleton_self line)
  · intro fits piece part
    rw [Json.mem_lines_of_single single part]
    exact fits

/-- A JSON text on a line of its own, as logs are written. -/
structure IsEntry (line : Text) : Prop where
  /-- It is JSON. -/
  json : (Json.read? line).isSome
  /-- It holds no line feed. -/
  noFeed : '\n' ∉ line
  /-- It holds no carriage return. -/
  noReturn : '\r' ∉ line

instance (line : Text) : Decidable (IsEntry line) :=
  decidable_of_iff ((Json.read? line).isSome ∧ '\n' ∉ line ∧ '\r' ∉ line)
    ⟨fun ⟨json, noFeed, noReturn⟩ => ⟨json, noFeed, noReturn⟩,
      fun entry => ⟨entry.json, entry.noFeed, entry.noReturn⟩⟩

/-- No piece of a torn entry is a record. -/
theorem IsEntry.recordOf?_of_torn (entry : IsEntry line) (torn : ¬ IsSingleLine line)
    (part : piece ∈ Text.lines line) : recordOf? piece = none := by
  obtain ⟨value, read⟩ := Option.isSome_iff_exists.mp entry.json
  by_contra found
  obtain ⟨record, found⟩ := Option.ne_none_iff_exists'.mp found
  obtain ⟨held, -⟩ := recordOf?_eq_some.mp found
  obtain ⟨piece, readPiece, formed⟩ := recordIn?_eq_some.mp held
  cases piece with
  | record fields =>
      refine StoreRecord.get?_id_of_ofFields formed ?_
      exact Json.absent_of_torn read entry.noFeed entry.noReturn torn part readPiece
        ⟨'d', by decide, by decide, by decide⟩
  | _ => cases formed

/-- A torn entry tells nothing. -/
theorem IsEntry.issuesIn_of_torn (entry : IsEntry line) (torn : ¬ IsSingleLine line) :
    issuesIn line = [] := by
  refine List.filterMap_eq_nil_iff.mpr fun piece part => ?_
  rw [issueIn?, entry.recordOf?_of_torn torn part, Option.bind_none]

/-- An entry that is one line by every measure is kept unless it ends the loading; one that is torn
is kept if there was nothing in it to be kept, unless one of its pieces nests too deep. -/
theorem IsEntry.isKept_iff (entry : IsEntry line) :
    IsKept nesting line ↔
      if IsSingleLine line then
        Json.depth line ≤ nesting ∧ ∀ record ∈ recordOf? line, ¬ record.Overruns
      else issueIn? line = none ∧ ∀ piece ∈ Text.lines line, Json.depth piece ≤ nesting := by
  split_ifs with single
  · exact ⟨fun kept => (fits_of_single single).mp kept.fits,
      fun fits => ⟨issuesIn_of_single single, (fits_of_single single).mpr fits⟩⟩
  · have nothing := entry.issuesIn_of_torn single
    constructor
    · intro kept
      refine ⟨?_, fun piece part => (kept.fits piece part).1⟩
      rw [← Option.toList_eq_nil_iff, ← kept.issues, nothing]
    · rintro ⟨none, shallow⟩
      refine ⟨by rw [nothing, none]; rfl, fun piece part => ⟨shallow piece part, ?_⟩⟩
      intro record found
      rw [entry.recordOf?_of_torn single part] at found
      cases found

/-- An entry tells its issue or nothing. -/
theorem IsEntry.sublist (entry : IsEntry line) :
    (issuesIn line).Sublist (issueIn? line).toList := by
  by_cases single : IsSingleLine line
  · rw [issuesIn_of_single single]
  · rw [entry.issuesIn_of_torn single]
    exact List.nil_sublist _

/-- Lines that tell the issues of their records tell them all. -/
theorem flatMap_issuesIn (same : ∀ line ∈ lines, issuesIn line = (issueIn? line).toList) :
    lines.flatMap issuesIn = lines.filterMap issueIn? := by
  rw [List.filterMap_eq_flatMap_toList]
  exact List.flatMap_congr same

/-- Where no line gives more than its issue, only the lines that give it make up the whole. -/
theorem same_of_length (each : ∀ line ∈ lines, (issuesIn line).Sublist (issueIn? line).toList)
    (whole : (lines.flatMap issuesIn).length = (lines.filterMap issueIn?).length) :
    ∀ line ∈ lines, issuesIn line = (issueIn? line).toList := by
  rw [List.filterMap_eq_flatMap_toList] at whole
  induction lines with
  | nil => exact List.forall_mem_nil _
  | cons line lines inductionHypothesis =>
      obtain ⟨here, later⟩ := List.forall_mem_cons.mp each
      have short := here.length_le
      have shortLater := (List.Sublist.flatMap_right lines later).length_le
      rw [List.flatMap_cons, List.flatMap_cons, List.length_append, List.length_append] at whole
      exact List.forall_mem_cons.mpr ⟨here.eq_of_length (by omega),
        inductionHypothesis later (by omega)⟩

/-- The directory of a store. -/
def shelf : Path := ⟨.root, ["p", ".beads"]⟩

/-- A store whose log consists of lines. -/
def shelfOf (lines : List Text) : Disk where
  nodes := [(["p"], .directory), (["p", ".beads"], .directory),
    (["p", ".beads", "issues.jsonl"], .file (.text (unlines lines)))]

/-- The log of the shelf has the lines. -/
theorem shelfOf_stored (lines : List Text) :
    (shelfOf lines).readContent (Places.issueLog shelf) = .ok (.text (unlines lines)) :=
  rfl

/-- A record, a blank line, half a record, a record that is gone, and one with a padded
identifier. -/
def mixedLines : List Text :=
  ["\x7b\"id\": \"a-1\", \"title\": \"\u00e9\"\x7d", " ", "\x7b\"id\": ",
   "\x7b\"id\": \"t-1\", \"status\": \"tombstone\"\x7d", "\x7b\"id\": \" b-2 \"\x7d"]

/-- A record whose title holds a line separator, and another record. -/
def tornLines : List Text :=
  ["\x7b\"id\": \"a-1\", \"title\": \"one\u2028two\"\x7d", "\x7b\"id\": \"b-2\"\x7d"]

/-- A record with one followed by 309 zeros for its priority, and another record. -/
def largeLines : List Text :=
  [("\x7b\"id\": \"a-1\", \"priority\": 1" : Text) ++ List.replicate 309 '0' ++ ['\x7d'],
   "\x7b\"id\": \"b-2\"\x7d"]

/-- More brackets than the reader opens, and a record. -/
def openedLines (nesting : Nat) : List Text :=
  [List.replicate (nesting + 1) '[', "\x7b\"id\": \"b-2\"\x7d"]

/-- Lines that open more brackets than are allowed do not fit. -/
theorem openedLines_not_loaded (nesting : Nat) :
    ¬ ∀ line ∈ openedLines nesting, Fits nesting line := by
  intro fits
  have single : IsSingleLine (List.replicate (nesting + 1) '[') := fun char present => by
    obtain rfl := List.eq_of_mem_replicate present
    decide
  obtain ⟨shallow, -⟩ := (fits_of_single single).mp (fits _ List.mem_cons_self)
  have deep := Json.le_depth_brackets (nesting + 1)
  omega

end StoreLog

end Issuebook
