import Issuebook.Book.Loading
import Issuebook.Proofs.Disk.Contents
import Issuebook.Proofs.Fault
import Issuebook.Proofs.Json.Enclosure
import Issuebook.Proofs.Reconciliation.Planning
import Issuebook.Store.Log

/-!
# What loading finds

The issues of a book and of a store, where loading succeeds: those of the files and of the lines
that could be read, each by itself. So another content of one file or of one line changes what is
loaded from that file or line alone.
-/

namespace Issuebook

namespace Batch

variable {α β : Type} {skips : Fault → Bool} {notice : α → Fault → Notice}

/-- An item with what was read of it. -/
def kept? : α × Except Fault β → Option (α × β)
  | (item, .ok value) => some (item, value)
  | (_, .error _) => none

/-- A batch that does not end early keeps every item that could be read. -/
theorem kept_of_collect {items : List (α × Except Fault β)} {kept : List (α × β)}
    (collected : (collect skips notice items).value = .ok kept) :
    kept = items.filterMap kept? := by
  induction items generalizing kept with
  | nil => exact (Except.ok.inj collected).symm
  | cons first items inductionHypothesis =>
      obtain ⟨item, fault | value⟩ := first
      · rw [collect] at collected
        split_ifs at collected
        · exact inductionHypothesis collected
      · obtain ⟨later, collectedLater, rfl⟩ := Fault.map_eq_ok.mp collected
        rw [inductionHypothesis collectedLater]
        rfl

/-- The notice about an item that could not be read. -/
def told? (notice : α → Fault → Notice) : α × Except Fault β → Option Notice
  | (_, .ok _) => none
  | (item, .error fault) => some (notice item fault)

/-- A batch where every fault concerns its item alone keeps what could be read, and tells of the
rest. -/
theorem collect_of_skipped {items : List (α × Except Fault β)}
    (skipped : ∀ item ∈ items, ∀ fault, item.2 = .error fault → skips fault = true) :
    collect skips notice items = ⟨items.filterMap (told? notice), .ok (items.filterMap kept?)⟩ := by
  induction items with
  | nil => rfl
  | cons first items inductionHypothesis =>
      obtain ⟨here, later⟩ := List.forall_mem_cons.mp skipped
      have rest := inductionHypothesis later
      obtain ⟨item, fault | value⟩ := first
      · rw [collect, if_pos (here fault rfl), rest]
        rfl
      · rw [collect, rest]
        rfl

/-- Any other fault ends the batch. -/
theorem skipped_of_collect {items : List (α × Except Fault β)} {kept : List (α × β)}
    (collected : (collect skips notice items).value = .ok kept) :
    ∀ item ∈ items, ∀ fault, item.2 = .error fault → skips fault = true := by
  induction items generalizing kept with
  | nil => exact List.forall_mem_nil _
  | cons first items inductionHypothesis =>
      obtain ⟨item, fault | value⟩ := first
      · rw [collect] at collected
        split_ifs at collected with here
        · refine List.forall_mem_cons.mpr ⟨fun other same => ?_, inductionHypothesis collected⟩
          rw [← Except.error.inj same]
          exact here
      · obtain ⟨later, collectedLater, -⟩ := Fault.map_eq_ok.mp collected
        exact List.forall_mem_cons.mpr ⟨fun _ => (nomatch ·), inductionHypothesis collectedLater⟩

end Batch

/-- The issue in a content. -/
def Content.readIssue (content : Content) : Except Fault Issue :=
  content.decoded >>= Document.readIssue

/-- Issues that lose only certain identifiers and gain none. -/
structure Issue.Loses (lost : Text → Prop) (before after : List Issue) : Prop where
  /-- No identifier is new. -/
  known {id : Text} : hasId id after = true → hasId id before = true
  /-- An identifier that is missing is a lost one. -/
  missing {id : Text} : hasId id before = true → hasId id after = false → lost id

namespace Book

variable {disk : Disk} {root : Path} {entries : List Entry}

/-- The entry of a file, unless it cannot be read. -/
def entryAt? (disk : Disk) (path : Path) : Option Entry :=
  match readFile disk path with
  | .ok issue => some ⟨path, issue⟩
  | .error _ => none

/-- The entries of a book are those of its files. -/
theorem of_load (loaded : (load disk root).value = .ok entries) :
    ∃ paths, files disk root = .ok paths ∧ entries = paths.filterMap (entryAt? disk) := by
  unfold load at loaded
  split at loaded
  · cases loaded
  · next paths listed =>
      obtain ⟨kept, collected, rfl⟩ := Fault.map_eq_ok.mp loaded
      refine ⟨paths, listed, ?_⟩
      rw [Batch.kept_of_collect collected, List.filterMap_map, List.map_filterMap]
      refine congrArg (List.filterMap · paths) (funext fun path => ?_)
      unfold entryAt?
      dsimp only [Function.comp]
      cases readFile disk path <;> rfl

section Put

variable {place : Place} {old : Content} (present : disk.node? place = some (.file old))
  {new : Content}
include present

/-- The files of a book are the same after one of them was written over. -/
theorem files_put : files (disk.put place (.file new)) root = files disk root := by
  unfold files
  rw [Disk.isDirectory_put present new, Disk.filesBelow_put present new]

/-- A file elsewhere is read as before. -/
theorem readFile_put_of_apart {path : Path} (apart : disk.leadsTo path place = false) :
    readFile (disk.put place (.file new)) path = readFile disk path := by
  unfold readFile
  rw [Disk.readText_put present new, apart]
  rfl

/-- A book whose files do not lead to a place loads the same whatever is in it. -/
theorem load_put_of_apart (apart : ∀ paths, files disk root = .ok paths →
    ∀ path ∈ paths, disk.leadsTo path place = false) :
    load (disk.put place (.file new)) root = load disk root := by
  unfold load
  rw [files_put present]
  cases listed : files disk root with
  | error fault => rfl
  | ok paths =>
      have same : (paths.map fun path => (path, readFile (disk.put place (.file new)) path)) =
          paths.map fun path => (path, readFile disk path) :=
        List.map_congr_left fun path listedPath => by
          rw [readFile_put_of_apart present (apart paths listed path listedPath)]
      dsimp only
      rw [same]

/-- Where a file was made unreadable there is no entry, and all others are as before. -/
theorem entryAt?_put (rejected : ∀ issue, new.readIssue ≠ .ok issue)
    (path : Path) : entryAt? (disk.put place (.file new)) path =
      if disk.leadsTo path place then none else entryAt? disk path := by
  unfold entryAt?
  cases leads : disk.leadsTo path place with
  | false =>
      rw [readFile_put_of_apart present leads]
      rfl
  | true =>
      cases read : readFile (disk.put place (.file new)) path with
      | error fault => rfl
      | ok issue =>
          obtain ⟨content, found, made⟩ := Fault.bind_eq_ok.mp read
          obtain ⟨document, understood, -⟩ := Fault.bind_eq_ok.mp made
          rw [Disk.readText_put present new, if_pos leads] at found
          obtain ⟨-, -, decoded⟩ := Fault.bind_eq_ok.mp found
          exact absurd (Fault.bind_eq_ok.mpr ⟨content, decoded, understood⟩) (rejected document)

/-- What is read at a path that leads to a file has the identifier written there. -/
theorem readFile_of_leadsTo {path : Path} {issue : Issue}
    (leads : disk.leadsTo path place = true) (read : readFile disk path = .ok issue) :
    ∃ written, old.readIssue = .ok written ∧ written.id = issue.id := by
  obtain ⟨text, found, made⟩ := Fault.bind_eq_ok.mp read
  obtain ⟨written, understood, sourced⟩ := Fault.bind_eq_ok.mp made
  rw [Disk.readText_eq] at found
  obtain ⟨content, reached, decoded⟩ := Fault.bind_eq_ok.mp found
  obtain rfl := Disk.readContent_of_leadsTo present leads reached
  obtain rfl := Except.ok.inj sourced
  exact ⟨written, Fault.bind_eq_ok.mpr ⟨text, decoded, understood⟩, rfl⟩

/-- Where a content is no document, the book loses the entries read from there, and keeps all
others. -/
theorem load_put_of_rejected (rejected : ∀ issue, new.readIssue ≠ .ok issue)
    (loaded : (load disk root).value = .ok entries) {left : List Entry}
    (loadedLeft : (load (disk.put place (.file new)) root).value = .ok left) :
    left = entries.filter fun entry => !disk.leadsTo entry.path place := by
  obtain ⟨paths, listed, rfl⟩ := of_load loaded
  obtain ⟨others, listedOthers, rfl⟩ := of_load loadedLeft
  obtain rfl : paths = others := by
    rw [files_put present, listed] at listedOthers
    exact Except.ok.inj listedOthers
  rw [List.filter_filterMap]
  refine congrArg (List.filterMap · paths) (funext fun path => ?_)
  rw [entryAt?_put present rejected, entryAt?]
  cases leads : disk.leadsTo path place <;> cases readFile disk path <;>
    simp [Option.filter_some, leads]

/-- So it loses the identifier of the document that was there. -/
theorem loses_of_rejected (rejected : ∀ issue, new.readIssue ≠ .ok issue)
    (loaded : (load disk root).value = .ok entries) {left : List Entry}
    (loadedLeft : (load (disk.put place (.file new)) root).value = .ok left) :
    Issue.Loses (fun id => ∃ issue, old.readIssue = .ok issue ∧ issue.id = id)
      (entries.map Entry.issue) (left.map Entry.issue) := by
  have kept := load_put_of_rejected present rejected loaded loadedLeft
  constructor
  · intro id known
    obtain ⟨issue, listed, rfl⟩ := Issue.hasId_iff.mp known
    obtain ⟨entry, place, rfl⟩ := List.mem_map.mp listed
    rw [kept] at place
    exact Issue.hasId_of_mem (List.mem_map_of_mem (List.mem_filter.mp place).1)
  · intro id known absent
    obtain ⟨issue, listed, rfl⟩ := Issue.hasId_iff.mp known
    obtain ⟨entry, listedEntry, rfl⟩ := List.mem_map.mp listed
    have leads : disk.leadsTo entry.path place = true := by
      by_contra apart
      have stays : entry ∈ left := by
        rw [kept]
        exact List.mem_filter.mpr ⟨listedEntry, by simpa using apart⟩
      rw [Issue.hasId_of_mem (List.mem_map_of_mem stays)] at absent
      cases absent
    obtain ⟨paths, -, rfl⟩ := of_load loaded
    obtain ⟨path, -, made⟩ := List.mem_filterMap.mp listedEntry
    unfold entryAt? at made
    split at made
    · next issue read =>
        obtain rfl := Option.some.inj made
        exact readFile_of_leadsTo present leads read
    · cases made

end Put

end Book

namespace StoreLog

variable {disk : Disk} {store : Path} {issues : List Issue} {line : Text} {nesting : Nat}

/-- The record that a line holds, however deep it nests. -/
def recordIn? (line : Text) : Option StoreRecord :=
  (Json.read? line).bind fun value => (StoreRecord.ofValue value).toOption

/-- The record that a line holds, unless it marks its issue as gone. -/
def recordOf? (line : Text) : Option StoreRecord :=
  (recordIn? line).filter fun record => !record.isTombstone

/-- The issue of a record, if it makes one. -/
def issueOf? (record : StoreRecord) : Option Issue :=
  match record.toIssue with
  | .ok issue => some issue
  | .error _ => none

/-- The numbered lines are those that are not blank. -/
theorem lines_of_numberedLines (content : Text) :
    (numberedLines content).map Prod.snd =
      (Text.lines content).filter fun line => !Text.isAllBlank line := by
  have filled : ((Text.lines content).zipIdx.filter
      ((fun line => !Text.isAllBlank line) ∘ Prod.fst)).map Prod.fst =
        (Text.lines content).filter fun line => !Text.isAllBlank line := by
    rw [← List.filter_map, List.zipIdx_map_fst]
  rw [numberedLines, List.map_map]
  exact filled

/-- A line is numbered if it is one of the text and not blank. -/
theorem mem_numberedLines {content : Text} : line ∈ (numberedLines content).map Prod.snd ↔
    line ∈ Text.lines content ∧ Text.isAllBlank line = false := by
  rw [lines_of_numberedLines, List.mem_filter, Bool.not_eq_true']

/-- A blank line holds no record. -/
theorem recordIn?_of_isAllBlank (blank : Text.isAllBlank line = true) : recordIn? line = none := by
  rw [recordIn?, Json.read?_of_isAllBlank blank]
  rfl

/-- A line that nests no deeper than the reader goes is read for the record in it. -/
theorem readLine_eq_ok {record : StoreRecord} : readLine line nesting = .ok record ↔
    Json.depth line ≤ nesting ∧ recordIn? line = some record := by
  unfold readLine recordIn?
  by_cases shallow : Json.depth line ≤ nesting
  · rw [and_iff_right shallow, Json.load_of_shallow shallow]
    cases Json.read? line with
    | none => exact iff_of_false (fun read => by cases read) (fun read => by cases read)
    | some value =>
        change StoreRecord.ofValue value = .ok record ↔
          (StoreRecord.ofValue value).toOption = some record
        cases StoreRecord.ofValue value with
        | error fault => exact iff_of_false (fun read => by cases read) (fun read => by cases read)
        | ok found => simp [Except.toOption]
  · rw [Json.load_of_deep (by omega)]
    exact iff_of_false (fun read => by cases read) fun both => shallow both.1

/-- A line that is passed over holds no record. -/
theorem recordIn?_of_isMalformed {fault : Fault} (failed : readLine line nesting = .error fault)
    (skipped : isMalformed fault = true) : recordIn? line = none := by
  unfold readLine at failed
  by_cases shallow : Json.depth line ≤ nesting
  · rw [Json.load_of_shallow shallow] at failed
    unfold recordIn?
    cases held : Json.read? line with
    | none => rfl
    | some value =>
        rw [held] at failed
        have rejected : StoreRecord.ofValue value = .error fault := failed
        rw [Option.bind_some, rejected]
        rfl
  · rw [Json.load_of_deep (by omega)] at failed
    obtain rfl := Except.error.inj failed
    cases skipped

/-- A line gives its record where every fault about it is passed over. -/
theorem toOption_readLine
    (skipped : ∀ fault, readLine line nesting = .error fault → isMalformed fault = true) :
    (readLine line nesting).toOption = recordIn? line := by
  cases read : readLine line nesting with
  | ok record => exact (readLine_eq_ok.mp read).2.symm
  | error fault => exact (recordIn?_of_isMalformed read (skipped fault read)).symm

/-- Where the records of a log are read, every line with a fault is passed over. -/
theorem skipped_of_readRecords {path : Path} {content : Text} {kept : List StoreRecord}
    (read : (readRecords path content nesting).value = .ok kept) :
    ∀ line ∈ Text.lines content, Text.isAllBlank line = false → ∀ fault,
      readLine line nesting = .error fault → isMalformed fault = true := by
  obtain ⟨records, collected, -⟩ := Fault.map_eq_ok.mp read
  have skipped := List.forall_mem_map.mp (Batch.skipped_of_collect collected)
  intro line listed filled
  obtain ⟨entry, numbered, rfl⟩ := List.mem_map.mp (mem_numberedLines.mpr ⟨listed, filled⟩)
  exact skipped entry numbered

/-- The records that are kept are those of the lines. -/
theorem kept_of_readRecords {path : Path} {content : Text} {kept : List StoreRecord}
    (read : (readRecords path content nesting).value = .ok kept) :
    kept = (Text.lines content).filterMap recordOf? := by
  have skipped := skipped_of_readRecords read
  obtain ⟨records, collected, rfl⟩ := Fault.map_eq_ok.mp read
  have numbered : records.map Prod.snd =
      ((numberedLines content).map Prod.snd).filterMap recordIn? := by
    rw [Batch.kept_of_collect collected, List.filterMap_map, List.map_filterMap,
      List.filterMap_map]
    refine List.filterMap_congr fun entry numbered => ?_
    obtain ⟨listed, filled⟩ := mem_numberedLines.mp (List.mem_map_of_mem numbered)
    have same := toOption_readLine (skipped entry.2 listed filled)
    dsimp only [Function.comp]
    rw [← same]
    cases readLine entry.2 nesting <;> rfl
  rw [numbered, lines_of_numberedLines, List.filterMap_filter, List.filter_filterMap]
  refine congrArg (List.filterMap · (Text.lines content)) (funext fun line => ?_)
  cases blank : Text.isAllBlank line with
  | true => simp [recordOf?, recordIn?_of_isAllBlank blank]
  | false => simp [recordOf?]

/-- The issues that are kept are those of the records. -/
theorem kept_of_issuesOf {records : List StoreRecord}
    (made : (issuesOf records).value = .ok issues) :
    issues = records.filterMap issueOf? := by
  obtain ⟨kept, collected, rfl⟩ := Fault.map_eq_ok.mp made
  rw [Batch.kept_of_collect collected, List.filterMap_map, List.map_filterMap]
  refine congrArg (List.filterMap · records) (funext fun record => ?_)
  unfold issueOf?
  dsimp only [Function.comp]
  cases record.toIssue <;> rfl

/-- A store that is loaded has a log whose records are read, and make issues. -/
theorem exists_of_load (loaded : (load disk store nesting).value = .ok issues) :
    ∃ written kept made, (readContent disk (Places.issueLog store)).value = .ok written ∧
      (readRecords (Places.issueLog store) written nesting).value = .ok kept ∧
      (issuesOf kept).value = .ok made ∧ issues = withInverseEdges made := by
  unfold load at loaded
  dsimp only at loaded
  split at loaded
  · cases loaded
  · next written found =>
      split at loaded
      · cases loaded
      · next kept read =>
          obtain ⟨made, makes, rfl⟩ := Fault.map_eq_ok.mp loaded
          exact ⟨written, kept, made, found, read, makes, rfl⟩

/-- The issues of a store are those of its lines, apart from what other issues say about them. -/
theorem of_load (loaded : (load disk store nesting).value = .ok issues) :
    ∃ written, (readContent disk (Places.issueLog store)).value = .ok written ∧
      issues =
        withInverseEdges (((Text.lines written).filterMap recordOf?).filterMap issueOf?) := by
  obtain ⟨written, kept, made, found, read, makes, rfl⟩ := exists_of_load loaded
  exact ⟨written, found, by rw [kept_of_issuesOf makes, kept_of_readRecords read]⟩

/-- The identifier of the issue of a line, unless the line makes none. -/
def idOf? (line : Text) : Option Text :=
  ((recordOf? line).bind issueOf?).map Issue.id

/-- An identifier is loaded exactly when a line of the log has it. -/
theorem hasId_of_load (loaded : (load disk store).value = .ok issues) :
    ∃ written, (readContent disk (Places.issueLog store)).value = .ok written ∧
      ∀ id, Issue.hasId id issues = true ↔ ∃ line ∈ Text.lines written, idOf? line = some id := by
  obtain ⟨written, found, rfl⟩ := of_load loaded
  refine ⟨written, found, fun id => ?_⟩
  constructor
  · intro known
    obtain ⟨issue, listed, rfl⟩ := Issue.hasId_iff.mp known
    obtain ⟨made, place, rfl⟩ := List.mem_map.mp listed
    obtain ⟨record, kept, makes⟩ := List.mem_filterMap.mp place
    obtain ⟨line, present, read⟩ := List.mem_filterMap.mp kept
    exact ⟨line, present, by rw [idOf?, read, Option.bind_some, makes]; rfl⟩
  · rintro ⟨line, present, named⟩
    obtain ⟨made, found, rfl⟩ := Option.map_eq_some_iff.mp named
    obtain ⟨record, read, makes⟩ := Option.bind_eq_some_iff.mp found
    have place := List.mem_filterMap.mpr
      ⟨record, List.mem_filterMap.mpr ⟨line, present, read⟩, makes⟩
    exact Issue.hasId_iff.mpr ⟨_, List.mem_map_of_mem place, rfl⟩

/-- A line without a record gives no issue where the log is loaded. -/
theorem idOf?_of_rejected {written : Text} (listed : line ∈ Text.lines written)
    (rejected : ∀ record, readLine line ≠ .ok record)
    (read : (readContent disk (Places.issueLog store)).value = .ok written)
    (loaded : (load disk store).value = .ok issues) : idOf? line = none := by
  have unheld : recordIn? line = none := by
    cases blank : Text.isAllBlank line with
    | true => exact recordIn?_of_isAllBlank blank
    | false =>
        obtain ⟨content, kept, -, found, readKept, -⟩ := exists_of_load loaded
        obtain rfl := Except.ok.inj (read.symm.trans found)
        rw [← toOption_readLine (skipped_of_readRecords readKept line listed blank)]
        cases failed : readLine line with
        | error fault => rfl
        | ok record => exact absurd failed (rejected record)
  rw [idOf?, recordOf?, unheld]
  rfl

/-- A log that cannot be read holds no issue, if it can be passed over at all. -/
theorem load_of_unreadable {fault : Fault}
    (unreadable : disk.readText (Places.issueLog store) = .error fault)
    (loaded : (load disk store).value = .ok issues) : issues = [] := by
  obtain ⟨written, found, rfl⟩ := of_load loaded
  obtain rfl : written = [] := by
    unfold readContent at found
    rw [unreadable] at found
    split at found
    · next impossible => cases impossible
    · exact (Except.ok.inj found).symm
    · split_ifs at found
      exact (Except.ok.inj found).symm
  rfl

/-- A text that is read is the content of the log. -/
theorem readContent_of_readText {path : Path} {text : Text} (read : disk.readText path = .ok text) :
    (readContent disk path).value = .ok text := by
  rw [readContent, read]

/-- A log that cannot be read loses every issue. -/
theorem loses_of_unreadable {fault : Fault} {damaged : Disk} {left : List Issue}
    (unreadable : damaged.readText (Places.issueLog store) = .error fault)
    (loadedLeft : (load damaged store).value = .ok left) :
    Issue.Loses (fun _ => True) issues left := by
  rw [load_of_unreadable unreadable loadedLeft]
  exact ⟨fun known => (Bool.false_ne_true known).elim, fun _ _ => trivial⟩

/-- A store whose log is not at a place loads the same whatever is there. -/
theorem load_put_of_apart {place : Place} {old new : Content}
    (present : disk.node? place = some (.file old))
    (apart : disk.leadsTo (Places.issueLog store) place = false) :
    load (disk.put place (.file new)) store = load disk store := by
  have same : readContent (disk.put place (.file new)) (Places.issueLog store) =
      readContent disk (Places.issueLog store) := by
    rw [readContent, Disk.readText_put present new, apart]
    rfl
  unfold load
  dsimp only
  rw [same]

/-- Where a line of the log holds no record, the store loses the identifier of the issue that was
there. -/
theorem loses_of_rejected {place : Place} {old new : Text}
    (present : disk.node? place = some (.file (.text old)))
    (logged : disk.leadsTo (Places.issueLog store) place = true)
    {front back : List Text} {line other : Text}
    (oldLines : Text.lines (Text.withLineFeeds old) = front ++ line :: back)
    (newLines : Text.lines (Text.withLineFeeds new) = front ++ other :: back)
    (rejected : ∀ record, readLine other ≠ .ok record)
    (loaded : (load disk store).value = .ok issues) {left : List Issue}
    (loadedLeft : (load (disk.put place (.file (.text new))) store).value = .ok left) :
    Issue.Loses (fun id => idOf? line = some id) issues left := by
  have readLeft := Disk.readText_put present (.text new) (Places.issueLog store)
  rw [if_pos logged] at readLeft
  have read := Disk.readText_eq disk (Places.issueLog store)
  cases reached : disk.readContent (Places.issueLog store) with
  | error fault =>
      -- A log that was unreadable before holds no issue in either case.
      rw [reached] at read readLeft
      rw [load_of_unreadable read loaded, load_of_unreadable readLeft loadedLeft]
      exact ⟨id, fun known => (Bool.false_ne_true known).elim⟩
  | ok content =>
      obtain rfl := Disk.readContent_of_leadsTo present logged reached
      rw [reached] at read readLeft
      obtain ⟨written, found, names⟩ := hasId_of_load loaded
      obtain ⟨writtenLeft, foundLeft, namesLeft⟩ := hasId_of_load loadedLeft
      obtain rfl := Except.ok.inj (found.symm.trans (readContent_of_readText read))
      obtain rfl := Except.ok.inj (foundLeft.symm.trans (readContent_of_readText readLeft))
      have nameless : idOf? other = none :=
        idOf?_of_rejected (by rw [newLines]; simp) rejected foundLeft loadedLeft
      simp only [oldLines, newLines, List.mem_append, List.mem_cons, or_and_right, exists_or,
        exists_eq_left, nameless, reduceCtorEq, false_or] at names namesLeft
      constructor
      · intro id known
        exact (names id).mpr (((namesLeft id).mp known).imp_right .inr)
      · intro id known absent
        rcases (names id).mp known with inFront | isLine | inBack
        · rw [(namesLeft id).mpr (.inl inFront)] at absent
          cases absent
        · exact isLine
        · rw [(namesLeft id).mpr (.inr inBack)] at absent
          cases absent

end StoreLog

end Issuebook
