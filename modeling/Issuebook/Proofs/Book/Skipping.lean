import Issuebook.Proofs.Disk.Listing
import Issuebook.Proofs.Document.Rejection
import Issuebook.Proofs.Loading
import Issuebook.Proofs.Text.Order

/-!
# Files that are passed over

What is in the files of a book decides which of them are loaded, and not whether the others are: a
file that cannot be read, or holds no document, is passed over with a notice. The one content that
ends the loading is a document whose priority is too large for a floating-point number,
`load_passesOver`.
-/

namespace Issuebook

namespace Disk

variable {disk : Disk} {root path : Path}

/-- What is below a directory is listed in the order of its segments. -/
theorem pairwise_pathsBelow (disk : Disk) (root : Path) :
    (disk.pathsBelow root).Pairwise fun one other =>
      Path.segmentsLe one.segments other.segments := by
  rw [pathsBelow_eq]
  split
  · refine List.pairwise_map.mpr ((Path.pairwise_sorted _).imp fun {one other} before => ?_)
    change Path.segmentsLe (root.segments ++ one) (root.segments ++ other) = true
    rw [Path.segmentsLe_eq_lexLe, lexLe_append, ← Path.segmentsLe_eq_lexLe]
    exact before
  · exact .nil

/-- The files below a root are the paths that pass. -/
theorem filesBelow_eq_filter {ending : Text} {paths : List Path}
    (listed : disk.filesBelow root ending = .ok paths) :
    paths = (disk.pathsBelow root).filter
      fun path => (disk.isFileNamed ending path).toOption = some true := by
  rw [filesBelow_eq, filterM_eq_ok] at listed
  exact listed.2

/-- Each of them is a file. -/
theorem isFile_of_mem_filesBelow {ending : Text} {paths : List Path}
    (listed : disk.filesBelow root ending = .ok paths) (known : path ∈ paths) :
    disk.isFile path = .ok true := by
  rw [filesBelow_eq_filter listed] at known
  have named := of_decide_eq_true (List.mem_filter.mp known).2
  unfold isFileNamed at named
  split_ifs at named
  · cases asked : disk.isFile path with
    | error fault => simp [asked, Except.toOption] at named
    | ok answer => simpa [asked, Except.toOption] using named
  · cases named

/-- A file can be read, or the file system refuses to. -/
theorem readContent_of_isFile (file : disk.isFile path = .ok true) :
    Fault.Yields Fault.isOutside (fun _ => True) (disk.readContent path) := by
  unfold isFile holds stat at file
  unfold readContent
  split_ifs at file ⊢ with zero
  · cases file
  split
  · rfl
  · rfl
  · split
    · rfl
    · exact trivial
  · rfl

end Disk

namespace Book

open Disk

variable {disk : Disk} {root path : Path} {paths : List Path} {entries : List Entry}

/-- A file holds a document whose priority is too large for a floating-point number. -/
def HoldsOverrun (disk : Disk) (path : Path) : Prop :=
  ∃ content, disk.readText path = .ok content ∧ Document.Overruns content

/-- The notice about a file that cannot be read. -/
def skipped? (disk : Disk) (path : Path) : Option Notice :=
  match readFile disk path with
  | .ok _ => none
  | .error fault => some (skipNotice path fault)

/-- The files of a book are those below its root, or none. -/
theorem filesBelow_or_nil (listed : files disk root = .ok paths) :
    paths = [] ∨ disk.filesBelow root fileEnding = .ok paths := by
  obtain ⟨there, -, listed⟩ := Fault.bind_eq_ok.mp listed
  split_ifs at listed
  · exact .inr listed
  · exact .inl (Except.ok.inj listed).symm

/-- They are listed in the order of their names. -/
theorem files_sorted (listed : files disk root = .ok paths) :
    paths.Pairwise fun one other => Path.segmentsLe one.segments other.segments := by
  rcases filesBelow_or_nil listed with rfl | listed
  · exact .nil
  · rw [filesBelow_eq_filter listed]
    exact (pairwise_pathsBelow disk root).filter _

/-- Each of them is a file. -/
theorem isFile_of_mem_files (listed : files disk root = .ok paths) (known : path ∈ paths) :
    disk.isFile path = .ok true := by
  rcases filesBelow_or_nil listed with rfl | listed
  · cases known
  · exact isFile_of_mem_filesBelow listed known

/-- Reading a file ends with a text, or with a fault that is passed over. -/
theorem yields_readText (file : disk.isFile path = .ok true) :
    Fault.Yields isPassedOver (fun _ => True) (disk.readText path) := by
  have outside : ∀ fault, fault.isOutside = true → isPassedOver fault = true := by
    intro fault outside
    simp [isPassedOver, Fault.isSurvivable, outside]
  rw [readText_eq]
  refine ((readContent_of_isFile file).imp outside fun _ => id).bind fun content _ => ?_
  cases content with
  | text written => exact trivial
  | binary bytes => rfl

/-- A file that is no document, or cannot be read, is passed over. -/
theorem yields_readFile (file : disk.isFile path = .ok true) (fits : ¬ HoldsOverrun disk path) :
    Fault.Yields isPassedOver (fun _ => True) (readFile disk path) := by
  have rejected : ∀ fault, Document.isRejection fault = true → isPassedOver fault = true := by
    intro fault rejects
    cases fault <;> first | rfl | cases rejects
  unfold readFile
  cases read : disk.readText path with
  | error fault => exact (yields_readText file).of_error read
  | ok content =>
      have issue := Document.yields_readIssue fun overruns => fits ⟨content, read, overruns⟩
      exact (issue.imp rejected fun _ => id).bind fun _ _ => trivial

/-- A number out of range ends the reading of a file. -/
theorem readFile_of_holdsOverrun (overruns : HoldsOverrun disk path) :
    readFile disk path = .error .outOfRange := by
  obtain ⟨content, read, overruns⟩ := overruns
  unfold readFile
  rw [read]
  dsimp only [bind, Except.bind]
  rw [Document.overruns_iff.mp overruns]

/-- A book where every file that cannot be read is passed over gives the entries of the others. -/
theorem load_of_skipped (listed : files disk root = .ok paths)
    (skipped : ∀ path ∈ paths, ∀ fault, readFile disk path = .error fault →
      isPassedOver fault = true) :
    load disk root =
      ⟨paths.filterMap (skipped? disk), .ok (paths.filterMap (entryAt? disk))⟩ := by
  have items : ∀ item ∈ paths.map fun path => (path, readFile disk path),
      ∀ fault, item.2 = .error fault → isPassedOver fault = true :=
    List.forall_mem_map.mpr skipped
  unfold load
  rw [listed]
  dsimp only
  rw [Batch.collect_of_skipped items]
  dsimp only [Except.map]
  rw [List.filterMap_map, List.filterMap_map, List.map_filterMap]
  congr 2
  · funext path
    unfold skipped?
    dsimp only [Function.comp]
    cases readFile disk path <;> rfl
  · refine congrArg (List.filterMap · paths) (funext fun path => ?_)
    unfold entryAt?
    dsimp only [Function.comp]
    cases readFile disk path <;> rfl

/-- Any other fault ends the loading. -/
theorem skipped_of_load (listed : files disk root = .ok paths)
    (loaded : (load disk root).value = .ok entries) :
    ∀ path ∈ paths, ∀ fault, readFile disk path = .error fault → isPassedOver fault = true := by
  unfold load at loaded
  rw [listed] at loaded
  obtain ⟨kept, collected, -⟩ := Fault.map_eq_ok.mp loaded
  exact List.forall_mem_map.mp (Batch.skipped_of_collect collected)

/-- Every text is a document or rejected, unless its metadata name an issue and give it a priority
that is too large for a floating-point number. Where the files of a book can be listed, they are
listed in order, and the book is loaded exactly when none of them holds such a text. Then every
file whose content is read as a document gives its entry, and every other one a notice. -/
theorem load_passesOver (disk : Disk) (root : Path) (paths : List Path)
    (listed : files disk root = .ok paths) :
    (∀ content, Fault.Yields Document.isRejection (fun _ => True) (Document.read content) ↔
      ¬ Document.Overruns content) ∧
      paths.Pairwise (fun one other => Path.segmentsLe one.segments other.segments) ∧
      ((∃ entries, (load disk root).value = .ok entries) ↔
        ∀ path ∈ paths, ¬ HoldsOverrun disk path) ∧
      ∀ entries, (load disk root).value = .ok entries →
        entries = paths.filterMap (entryAt? disk) ∧
          (load disk root).notices = paths.filterMap (skipped? disk) := by
  have passed (fits : ∀ path ∈ paths, ¬ HoldsOverrun disk path) :
      load disk root =
        ⟨paths.filterMap (skipped? disk), .ok (paths.filterMap (entryAt? disk))⟩ :=
    load_of_skipped listed fun path known fault failed =>
      (yields_readFile (isFile_of_mem_files listed known) (fits path known)).of_error failed
  have fits {entries : List Entry} (loaded : (load disk root).value = .ok entries) :
      ∀ path ∈ paths, ¬ HoldsOverrun disk path := fun path known overruns =>
    nomatch skipped_of_load listed loaded path known _ (readFile_of_holdsOverrun overruns)
  refine ⟨fun _ => Document.yields_read_iff, files_sorted listed,
    ⟨fun ⟨_, loaded⟩ => fits loaded, fun none => ⟨_, by rw [passed none]⟩⟩,
    fun entries loaded => ?_⟩
  have whole := passed (fits loaded)
  rw [whole] at loaded ⊢
  exact ⟨(Except.ok.inj loaded).symm, rfl⟩

/-- A directory with files of the given names and contents. -/
def rackOf (files : List (Text × Content)) : Disk where
  nodes := (["p"], .directory) :: (["p", "book"], .directory) ::
    files.map fun file => ((["p", "book"] : Place) ++ [file.1], .file file.2)

/-- The path of such a directory. -/
def rackRoot : Path := ⟨.root, ["p", "book"]⟩

/-- A document, a text that names no issue, and bytes that are no text. -/
def mixedRack : Disk :=
  rackOf [("a.md", .text "---\nid: a-1\n---\n"), ("b.md", .text "---\ntitle: T\n---\n"),
    ("c.md", .binary [255])]

/-- The mixed rack has three files. -/
theorem mixedRack_files : files mixedRack rackRoot =
    .ok [rackRoot.child "a.md", rackRoot.child "b.md", rackRoot.child "c.md"] := by
  have walked : mixedRack.walk rackRoot = .ok (.there ["p", "book"] .directory) := by
    decide +kernel
  rw [files, filesBelow, pathsBelow_of_sorted walked (by decide)]
  decide +kernel

/-- Two of them are passed over, with a notice for each. -/
theorem mixedRack_passesOver : ∃ entries, (load mixedRack rackRoot).value = .ok entries ∧
    entries.map Entry.path = [rackRoot.child "a.md"] ∧
    (load mixedRack rackRoot).notices.length = 2 := by
  have fits : ∀ path ∈ [rackRoot.child "a.md", rackRoot.child "b.md", rackRoot.child "c.md"],
      readFile mixedRack path ≠ .error .outOfRange := by
    decide +kernel
  obtain ⟨-, -, whole, each⟩ := load_passesOver mixedRack rackRoot _ mixedRack_files
  obtain ⟨entries, loaded⟩ := whole.mpr fun path known overruns =>
    fits path known (readFile_of_holdsOverrun overruns)
  obtain ⟨same, told⟩ := each entries loaded
  refine ⟨entries, loaded, ?_, ?_⟩
  · rw [same]
    decide +kernel
  · rw [told]
    decide +kernel

/-- A document with one followed by 309 zeros for its priority. -/
def overrun : Text :=
  ("---\nid: b-1\npriority: 1" : Text) ++ List.replicate 309 '0' ++ ("\n---\n" : Text)

/-- The document has a number out of range. -/
theorem overruns_overrun : Document.Overruns overrun :=
  Document.overruns_iff.mpr (by decide +kernel)

/-- A document, and one whose priority is too large. -/
def overrunRack : Disk :=
  rackOf [("a.md", .text "---\nid: a-1\n---\n"), ("b.md", .text overrun)]

/-- Its rack has two files. -/
theorem overrunRack_files : files overrunRack rackRoot =
    .ok [rackRoot.child "a.md", rackRoot.child "b.md"] := by
  have walked : overrunRack.walk rackRoot = .ok (.there ["p", "book"] .directory) := by
    decide +kernel
  rw [files, filesBelow, pathsBelow_of_sorted walked (by decide)]
  decide +kernel

/-- Reading the second ends with that fault. -/
theorem readFile_overrun :
    readFile overrunRack (rackRoot.child "b.md") = .error .outOfRange := by
  decide +kernel

/-- So does the loading of the rack, which has a good file, too. -/
theorem overrun_endsLoading :
    ¬ Fault.Yields Document.isRejection (fun _ => True) (Document.read overrun) ∧
      files overrunRack rackRoot = .ok [rackRoot.child "a.md", rackRoot.child "b.md"] ∧
      (entryAt? overrunRack (rackRoot.child "a.md")).isSome ∧
      ¬ ∃ entries, (load overrunRack rackRoot).value = .ok entries := by
  refine ⟨?_, overrunRack_files, by decide +kernel, ?_⟩
  · rw [Document.yields_read_iff, not_not]
    exact overruns_overrun
  · rintro ⟨entries, loaded⟩
    have listed : rackRoot.child "b.md" ∈ [rackRoot.child "a.md", rackRoot.child "b.md"] :=
      List.mem_cons_of_mem _ List.mem_cons_self
    cases skipped_of_load overrunRack_files loaded _ listed _ readFile_overrun

end Book

end Issuebook
