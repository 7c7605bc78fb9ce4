import Issuebook.Proofs.Book.Names
import Issuebook.Proofs.Book.Skipping
import Issuebook.Proofs.Book.Storing
import Issuebook.Proofs.Filename.Ending
import Issuebook.Proofs.Loading
import Mathlib.Data.List.Perm.Subperm

/-!
# Batches that are loaded again

The loader reads every file below a directory whose name has the ending of issue files, so a batch
that was written to an empty directory is loaded again when its issues have files of their own and
all of them have such names. `load_write_iff` shows that nothing else can lose an issue. A pattern
with that ending at its end loses one all the same where a name has nothing else: the number that
sets it apart from another of its kind stands behind the ending then.
-/

namespace Issuebook

open Text

/-- A place inside another leads on from it. -/
theorem Place.IsInside.exists_names {place home : Place} (inside : place.IsInside home) :
    ∃ names, names ≠ [] ∧ place = home ++ names := by
  obtain ⟨names, rfl⟩ := inside.below
  refine ⟨names, ?_, rfl⟩
  rintro rfl
  exact inside.apart (List.append_nil home)

namespace Disk

variable {disk left : Disk} {root : Path} {home target : Place} {names : List Text}
  {report : WriteReport}

/-- The way to a place that is reached passes every directory on it. -/
theorem passes_of_prefix (inside : target.IsInside home) (reaches : disk.Reaches target)
    (noZero : hasZero (pathOf target) = false) (further : home ++ names <+: target) :
    disk.node? home = some .directory ∧ disk.Passes home names ∧ Place.IsTidy names ∧
      hasZero ⟨.none, names⟩ = false := by
  have within : names ⊆ target := fun name present =>
    further.subset (List.mem_append_right home present)
  refine ⟨reaches.passes.directories home inside.below inside.apart.symm,
    ⟨fun front isFront apart => ?_, fun name present => reaches.passes.names name (within present)⟩,
    fun name present => inside.clean name (within present),
    List.any_eq_false.mpr fun name present => List.any_eq_false.mp noZero name (within present)⟩
  refine reaches.passes.directories (home ++ front)
    (((List.prefix_append_right_inj home).mpr isFront).trans further) fun same => apart ?_
  rw [← same] at further
  exact isFront.eq_of_length_le ((List.prefix_append_right_inj home).mp further).length_le

/-- A directory with nothing in it, or a free name for one, and a path that leads there. -/
structure IsEmptyBook (disk : Disk) (root : Path) (home : Place) : Prop where
  /-- The path can be asked about. -/
  noZero : hasZero root = false
  /-- It leads to the place. -/
  leads : disk.walk root = .ok (disk.foundAt home)
  /-- The place is its canonical form too, with double dots taken as written. -/
  resolves : disk.resolve (disk.absolute root) = .ok (pathOf home)
  /-- What is there is a directory. -/
  directory : ∀ node ∈ disk.node? home, node = .directory
  /-- No link is on the way. -/
  clear : disk.HasNoLink [] home
  /-- Nothing is below. -/
  empty : ∀ names, names ≠ [] → disk.node? (home ++ names) = none
  /-- Nothing below refuses to be read. -/
  readable : ∀ names, disk.refuses .read (home ++ names) = none

namespace IsEmptyBook

/-- The home of an empty book is tidy. -/
theorem clean (book : disk.IsEmptyBook root home) : home.IsTidy := by
  obtain ⟨-, place, clean, same⟩ := of_resolve book.resolves
  rwa [pathOf_injective same]

/-- No link is below it. -/
theorem hasNoLink (book : disk.IsEmptyBook root home) (names : List Text) :
    disk.HasNoLink home names := by
  intro front _ target
  cases front with
  | nil =>
      rw [List.append_nil]
      exact book.clear home List.prefix_rfl target
  | cons name front => simp [book.empty (name :: front) (by simp)]

/-- It is free of links. -/
theorem isLinkFree (book : disk.IsEmptyBook root home) : disk.IsLinkFree (pathOf home) := by
  intro place near target
  rw [home_pathOf book.clean] at near
  rcases near with above | ⟨names, rfl⟩
  · exact book.clear place above target
  · exact book.hasNoLink names names List.prefix_rfl target

/-- Nothing is listed twice below it. -/
theorem nodup_inner (book : disk.IsEmptyBook root home) : (disk.inner home).Nodup := by
  have nothing : disk.inner home = [] := List.eq_nil_iff_forall_not_mem.mpr fun names listed =>
    (mem_inner.mp listed).2 (book.empty names (mem_inner.mp listed).1)
  rw [nothing]
  exact .nil

end IsEmptyBook

section Stores

open Book

variable (book : disk.IsEmptyBook root home) (stores : Stores disk left report)
  (inside : ∀ target ∈ places report, target.IsInside home)
include book stores

/-- Everything below the directory is on the way to a planned file. -/
theorem onWay_of_mem_inner (listed : names ∈ left.inner home) :
    ∃ target ∈ places report, home ++ names <+: target := by
  obtain ⟨present, taken⟩ := mem_inner.mp listed
  exact (stores.onWay taken).resolve_left (not_not.mpr (book.empty names present))

/-- The files below the directory are at planned places. -/
theorem mem_places_of_isSome (present : names ≠ [])
    (held : (left.content? (pathOf (home ++ names))).isSome) : home ++ names ∈ places report := by
  obtain ⟨content, held⟩ := Option.isSome_iff_exists.mp held
  by_contra unplanned
  rcases stores.adds unplanned (content?_eq_some.mp held) with before | impossible
  · rw [book.empty names present] at before
    cases before
  · cases impossible

include inside

/-- A batch that is stored extends the disk. -/
theorem extends_of_stores : disk.Extends left where
  here := stores.evolves.here
  keeps {place node} present := by
    refine stores.keeps (fun planned => ?_) present
    obtain ⟨names, apart, rfl⟩ := (inside place planned).exists_names
    rw [book.empty names apart] at present
    cases present
  links := stores.evolves.links

/-- What is below the directory is reached, and the directory is there then. -/
theorem reached_of_mem_inner (listed : names ∈ left.inner home) :
    left.node? home = some .directory ∧ left.Passes home names ∧ Place.IsTidy names ∧
      hasZero ⟨.none, names⟩ = false := by
  obtain ⟨target, planned, further⟩ := onWay_of_mem_inner book stores listed
  obtain ⟨reaches, noZero⟩ := stores.reached target planned
  exact passes_of_prefix (inside target planned) reaches noZero further

/-- Afterwards the book shows its home. -/
theorem shows_of_stores : left.Shows root home where
  noZero := book.noZero
  leads := by
    have walked (short : IsShort (root.onward [])) :
        left.walk (root.onward []) = .ok (left.foundAt (home ++ [])) :=
      walk_append (extends_of_stores book stores inside)
        (fun _ impossible => absurd impossible List.not_mem_nil)
        ((book.hasNoLink []).evolves stores.evolves) (passes_nil left home) book.leads short
    simpa [Path.onward, Path.append, Path.isAbsolute] using
      walked (by simpa [Path.onward, Path.append, Path.isAbsolute] using isShort_of_walk book.leads)
  plain names listed := (reached_of_mem_inner book stores inside listed).2.2.2
  walks names listed short := by
    obtain ⟨-, passes, clean, -⟩ := reached_of_mem_inner book stores inside listed
    exact walk_append (extends_of_stores book stores inside) clean
      ((book.hasNoLink names).evolves stores.evolves) passes book.leads short

/-- A directory is there, or neither it nor anything below. -/
theorem directory_or_inner_eq_nil :
    left.node? home = some .directory ∨ left.node? home = none ∧ left.inner home = [] := by
  cases present : left.node? home with
  | none =>
      refine .inr ⟨rfl, List.eq_nil_iff_forall_not_mem.mpr fun names listed => ?_⟩
      exact Option.some_ne_none _
        ((reached_of_mem_inner book stores inside listed).1.symm.trans present)
  | some node =>
      have apart : home ∉ places report := fun planned => (inside home planned).apart rfl
      rcases stores.adds apart present with before | same
      · exact .inl (congrArg some (book.directory node before))
      · exact .inl (congrArg some same)

end Stores

end Disk

/-- The identifier and the title of an issue. -/
def Issue.idAndTitle (issue : Issue) : Text × Text :=
  (issue.id, issue.title)

namespace Book

open Disk

variable {disk left : Disk} {root path : Path} {home place : Place} {names : List Text}
  {report : WriteReport} {issues : List Issue}

/-! ## Loading -/

/-- A path that is walked is a directory if its place is. -/
theorem isDirectory_of_walk (noZero : hasZero path = false)
    (walked : disk.walk path = .ok (disk.foundAt place)) :
    disk.isDirectory path = .ok (disk.node? place = some .directory) := by
  unfold isDirectory holds stat
  rw [if_neg (by simp [noZero]), walked, foundAt]
  cases disk.node? place with
  | none => rfl
  | some node => cases node <;> rfl

/-- The files of a book can be listed when no path to one of them is too long. -/
theorem files_eq_ok (shows : disk.Shows root home)
    (either : disk.node? home = some .directory ∨ disk.node? home = none ∧ disk.inner home = [])
    {paths : List Path} : files disk root = .ok paths ↔
      (∀ names ∈ disk.inner home, Text.endsWith (names.getLastD []) fileEnding →
        IsShort (root.onward names)) ∧
      paths = (disk.fileNames home fileEnding).map root.onward := by
  have asked := isDirectory_of_walk shows.noZero shows.leads
  unfold files
  rw [asked]
  rcases either with there | ⟨absent, empty⟩
  · rw [← filesBelow_eq_ok shows there, there]
    rfl
  · have nothing : disk.fileNames home fileEnding = [] :=
      List.eq_nil_iff_forall_not_mem.mpr fun names listed => by
        have known := (mem_fileNames.mp listed).1
        rw [empty] at known
        cases known
    rw [nothing, empty, absent]
    simp only [List.not_mem_nil, false_implies, implies_true, true_and, List.map_nil]
    exact ⟨fun same => (Except.ok.inj same).symm, fun same => congrArg Except.ok same.symm⟩

/-- The document of an issue is read as an issue with the same identifier and title. -/
theorem idAndTitle_entryAt? {planned : PlannedWrite} (valid : planned.issue.IsValid)
    (unbroken : planned.issue.IsUnbroken) (noZero : hasZero path = false)
    (walked : disk.walk path = .ok (disk.foundAt place))
    (readable : disk.refuses .read place = none)
    (held : disk.content? (pathOf place) = some (.text planned.document)) :
    (entryAt? disk path).map (fun entry => entry.issue.idAndTitle) =
      some planned.issue.idAndTitle := by
  have there := content?_eq_some.mp held
  have text : disk.readText path = .ok (Text.withLineFeeds planned.document) := by
    rw [readText_eq, readContent, if_neg (by simp [noZero]), walked, foundAt]
    rw [show disk.node? place = some (.file (.text planned.document)) from there]
    dsimp only
    rw [readable]
    rfl
  have validCopy : (planned.issue.withSource .file).IsValid := { valid with }
  have understood := Document.readIssue_withLineFeeds validCopy unbroken
  unfold entryAt? readFile
  rw [text]
  simp only [bind, Except.bind]
  rw [PlannedWrite.document, understood]
  rfl

/-- A book whose files can all be read gives an entry for each. -/
theorem load_eq_ok {paths : List Path} (listed : files disk root = .ok paths)
    (read : ∀ path ∈ paths, (entryAt? disk path).isSome) :
    (load disk root).value = .ok (paths.filterMap (entryAt? disk)) := by
  have skipped : ∀ path ∈ paths, ∀ fault, readFile disk path = .error fault →
      isPassedOver fault = true := by
    intro path known fault failed
    have found := read path known
    rw [entryAt?, failed] at found
    cases found
  rw [load_of_skipped listed skipped]

/-- Loading the book gives one entry for each issue, with its identifier and its title. -/
def IsReloaded (disk : Disk) (root : Path) (issues : List Issue) : Prop :=
  ∃ entries, (load disk root).value = .ok entries ∧
    (entries.map fun entry => entry.issue.idAndTitle).Perm (issues.map Issue.idAndTitle)

/-- The loader finds a file: its name has the ending of issue files, and the path to it from the
root is not too long. -/
structure IsFound (root : Path) (names : List Text) : Prop where
  /-- The name has the ending. -/
  ending : Text.endsWith (names.getLastD []) fileEnding
  /-- The path is not too long. -/
  short : IsShort (root.onward names)

/-- The names on the way from a directory to a planned file. -/
def wayTo (home : Place) (entry : PlannedWrite × WriteOutcome) : List Text :=
  entry.1.path.segments.drop home.length

/-- The file of an entry leads on from the home. -/
theorem segments_eq_wayTo {entry : PlannedWrite × WriteOutcome}
    (inside : Place.IsInside entry.1.path.segments home) :
    entry.1.path.segments = home ++ wayTo home entry := by
  obtain ⟨names, -, same⟩ := inside.exists_names
  rw [wayTo, same, List.drop_left' rfl]

section Stores

variable (book : disk.IsEmptyBook root home) (stores : Stores disk left report)
  (inside : ∀ target ∈ places report, target.IsInside home)
include book stores inside

/-- A path to a planned file that is found, or to a directory on the way, is not too long. -/
theorem short_of_found
    (found : ∀ names, home ++ names ∈ places report → IsFound root names)
    (listed : names ∈ left.inner home) : IsShort (root.onward names) := by
  obtain ⟨target, planned, further⟩ := onWay_of_mem_inner book stores listed
  obtain ⟨longer, -, rfl⟩ := (inside target planned).exists_names
  exact (found longer planned).short.of_prefix ((List.prefix_append_right_inj home).mp further)
    (mem_inner.mp listed).1

/-- An issue that shares its file with no other is read from it. -/
theorem idAndTitle_of_stores (distinct : (places report).Nodup)
    (found : ∀ names, home ++ names ∈ places report → IsFound root names)
    {entry : PlannedWrite × WriteOutcome} (listed : entry ∈ report)
    (valid : entry.1.issue.IsValid) (unbroken : entry.1.issue.IsUnbroken)
    (target : entry.1.path.segments = home ++ names) :
    names ∈ left.fileNames home fileEnding ∧
      (entryAt? left (root.onward names)).map (fun entry => entry.issue.idAndTitle) =
        some entry.1.issue.idAndTitle := by
  have planned : home ++ names ∈ places report := target ▸ List.mem_map_of_mem listed
  have there := content?_eq_some.mp (stores.held distinct entry listed)
  rw [target] at there
  have present : names ≠ [] := by
    rintro rfl
    exact (inside _ planned).apart (List.append_nil home)
  have known : names ∈ left.inner home := mem_inner.mpr ⟨present, by simp [there]⟩
  have held : left.content? (pathOf (home ++ names)) = some (.text entry.1.document) :=
    content?_eq_some.mpr there
  have shows := shows_of_stores book stores inside
  refine ⟨mem_fileNames.mpr ⟨known, (found names planned).ending, by simp [held]⟩, ?_⟩
  exact idAndTitle_entryAt? valid unbroken (shows.noZero_onward known)
    (shows.walks names known (found names planned).short)
    (by rw [stores.evolves.refuses, book.readable]) held

/-- Issues that share no files are loaded again when all their files are found. -/
theorem isReloaded_of_found
    (sound : ∀ entry ∈ report, entry.1.issue.IsValid ∧ entry.1.issue.IsUnbroken)
    (distinct : (places report).Nodup)
    (found : ∀ names, home ++ names ∈ places report → IsFound root names) :
    IsReloaded left root (report.map fun entry => entry.1.issue) := by
  have target (entry : PlannedWrite × WriteOutcome) (listed : entry ∈ report) :=
    segments_eq_wayTo (inside _ (List.mem_map_of_mem listed))
  have read (entry : PlannedWrite × WriteOutcome) (listed : entry ∈ report) :=
    idAndTitle_of_stores book stores inside distinct found listed (sound entry listed).1
      (sound entry listed).2 (target entry listed)
  have planned (names : List Text) (known : names ∈ left.fileNames home fileEnding) :
      ∃ entry ∈ report, wayTo home entry = names := by
    obtain ⟨known, -, held⟩ := mem_fileNames.mp known
    obtain ⟨entry, listed, same⟩ := List.mem_map.mp
      (mem_places_of_isSome book stores (mem_inner.mp known).1 held)
    exact ⟨entry, listed, List.append_cancel_left ((target entry listed).symm.trans same)⟩
  have files : (left.fileNames home fileEnding).Perm (report.map (wayTo home)) := by
    have whole : (report.map (wayTo home)).map (home ++ ·) = places report :=
      List.map_map.trans (List.map_congr_left fun entry listed => (target entry listed).symm)
    have apart : (report.map (wayTo home)).Nodup := .of_map (home ++ ·) (whole ▸ distinct)
    refine (List.perm_ext_iff_of_nodup
      (nodup_fileNames (stores.distinct book.nodup_inner) fileEnding) apart).mpr fun names => ?_
    rw [List.mem_map]
    refine ⟨planned names, ?_⟩
    rintro ⟨entry, listed, rfl⟩
    exact (read entry listed).1
  have listed : Book.files left root = .ok ((left.fileNames home fileEnding).map root.onward) :=
    (files_eq_ok (shows_of_stores book stores inside)
      (directory_or_inner_eq_nil book stores inside)).mpr
        ⟨fun names known _ => short_of_found book stores inside found known, rfl⟩
  refine ⟨_, load_eq_ok listed (List.forall_mem_map.mpr fun names known => ?_), ?_⟩
  · obtain ⟨entry, reported, rfl⟩ := planned names known
    exact Option.isSome_map.symm.trans (congrArg Option.isSome (read entry reported).2)
  · rw [List.filterMap_map, List.map_filterMap]
    refine (files.filterMap _).trans (.of_eq ?_)
    rw [List.filterMap_map, List.map_map, ← List.filterMap_eq_map]
    exact List.filterMap_congr fun entry reported => (read entry reported).2

/-- Where every issue is loaded again, no two share a file, and every file is found. -/
theorem found_of_isReloaded
    (reloaded : IsReloaded left root (report.map fun entry => entry.1.issue)) :
    (places report).Nodup ∧ ∀ names, home ++ names ∈ places report → IsFound root names := by
  obtain ⟨entries, loaded, same⟩ := reloaded
  obtain ⟨paths, listed, rfl⟩ := of_load loaded
  obtain ⟨short, rfl⟩ := (files_eq_ok (shows_of_stores book stores inside)
    (directory_or_inner_eq_nil book stores inside)).mp listed
  have planned : (left.fileNames home fileEnding).map (home ++ ·) ⊆ places report := by
    refine List.forall_mem_map.mpr fun names known => ?_
    obtain ⟨known, -, held⟩ := mem_fileNames.mp known
    exact mem_places_of_isSome book stores (mem_inner.mp known).1 held
  have apart : ((left.fileNames home fileEnding).map (home ++ ·)).Nodup :=
    (nodup_fileNames (stores.distinct book.nodup_inner) fileEnding).map
      fun _ _ => List.append_cancel_left
  -- Every issue has an entry of its own, and every entry a file.
  have count :
      (places report).length ≤ ((left.fileNames home fileEnding).map (home ++ ·)).length := by
    have issues := same.length_eq
    rw [List.length_map, List.length_map, List.length_map] at issues
    rw [places, List.length_map, List.length_map, ← issues, ← List.length_map root.onward]
    exact List.length_filterMap_le _ _
  have all := (apart.subperm planned).perm_of_length_le count
  refine ⟨all.nodup_iff.mp apart, fun names target => ?_⟩
  obtain ⟨other, known, same⟩ := List.mem_map.mp (all.mem_iff.mpr target)
  obtain rfl := List.append_cancel_left same
  obtain ⟨known, ending, -⟩ := mem_fileNames.mp known
  exact ⟨ending, short _ known ending⟩

/-- What a batch stored is loaded again exactly when no two issues share a file and every file is
found. -/
theorem isReloaded_iff
    (sound : ∀ entry ∈ report, entry.1.issue.IsValid ∧ entry.1.issue.IsUnbroken) :
    IsReloaded left root (report.map fun entry => entry.1.issue) ↔
      (places report).Nodup ∧ ∀ entry ∈ report, IsFound root (wayTo home entry) := by
  have target (entry : PlannedWrite × WriteOutcome) (listed : entry ∈ report) :=
    segments_eq_wayTo (inside _ (List.mem_map_of_mem listed))
  constructor
  · intro reloaded
    obtain ⟨distinct, found⟩ := found_of_isReloaded book stores inside reloaded
    refine ⟨distinct, fun entry listed => found _ ?_⟩
    rw [← target entry listed]
    exact List.mem_map_of_mem listed
  · rintro ⟨distinct, found⟩
    refine isReloaded_of_found book stores inside sound distinct fun names planned => ?_
    obtain ⟨entry, listed, same⟩ := List.mem_map.mp planned
    obtain rfl := List.append_cancel_left ((target entry listed).symm.trans same)
    exact found entry listed

end Stores

/-! ## Batches with plain names -/

section Plain

variable {base : Place} {today : Date} {options : WriteOptions} {taken : List Text}
  {planned : List PlannedWrite} {front : List Piece} {literal extension : Text}

/-- The name of every planned file is one that the pattern gives the issue. -/
theorem applied_of_planFrom (together : options.separateClosed = false)
    (made : planFrom disk today root options taken issues = .ok planned) :
    ∀ write ∈ planned, ∃ taken,
      Filename.apply today options.pattern (withSafeNames write.issue) taken =
        .ok write.relative := by
  induction issues generalizing taken planned with
  | nil =>
      obtain rfl := Except.ok.inj made
      exact fun _ impossible => absurd impossible List.not_mem_nil
  | cons issue issues inductionHypothesis =>
      obtain ⟨name, write, writes, rfl, chosen, rest⟩ := of_planFrom_cons made
      refine List.forall_mem_cons.mpr ⟨⟨taken, ?_⟩, inductionHypothesis rest⟩
      obtain ⟨-, own, relative, -⟩ := of_planOne chosen
      obtain ⟨other, applied, made⟩ := Fault.bind_eq_ok.mp chosen
      obtain ⟨target, -, made⟩ := Fault.bind_eq_ok.mp made
      obtain ⟨_, -, made⟩ := Fault.bind_eq_ok.mp made
      obtain ⟨rfl, -⟩ := Prod.mk.inj (Except.ok.inj made)
      rw [relative, relativeName, if_neg (by simp [isSeparated, together]), own, applied]

variable (linkFree : disk.IsLinkFree (pathOf base)) (clean : base.IsTidy)
  (together : options.separateClosed = false)
  (made : planFrom disk today (pathOf base) options taken issues = .ok planned)
  (plain : ∀ write ∈ planned, Path.IsPlain write.relative)
include linkFree clean made plain

/-- A planned path is the name below the home. -/
theorem path_of_planFrom : ∀ write ∈ planned,
    write.path = pathOf (base ++ (Path.ofText write.relative).segments) := fun write listed =>
  path_of_isPlain linkFree clean (plain write listed) ((of_planFrom made).2 write listed)

include together

/-- Plain names lead to files of their own. -/
theorem distinct_of_planFrom : (planned.map fun write => write.path.segments).Nodup := by
  have stays (write : PlannedWrite) : isSeparated options write.issue = false := by
    simp [isSeparated, together]
  refine List.pairwise_map.mpr ((open_apart_of_planFrom made).2.imp_of_mem ?_)
  intro one other oneListed otherListed apart same
  rw [path_of_planFrom linkFree clean made plain one oneListed,
    path_of_planFrom linkFree clean made plain other otherListed] at same
  exact apart (stays one) (stays other) ((plain one oneListed).eq_of_segments
    (plain other otherListed) (List.append_cancel_left same))

/-- A file has the ending of issue files unless its name is that ending with a number behind it. -/
theorem ending_iff_of_planFrom
    (read : Pattern.read options.pattern = .ok (front ++ [.literal literal]))
    (ends : fileEnding <:+ literal) : ∀ write ∈ planned,
      Text.endsWith write.path.name fileEnding ↔
        ¬ Filename.IsNumberedBare "md" write.relative := by
  intro write listed
  have whole : fileEnding = '.' :: "md" := by decide
  have name {ending : Text} (solid : Path.isSegment ending) (slashless : '/' ∉ ending)
      (ends : ending <:+ write.relative) : ending <:+ write.path.name := by
    obtain ⟨present, last⟩ := Path.suffix_last solid slashless ends
    rw [path_of_planFrom linkFree clean made plain write listed]
    change ending <:+ (base ++ _).getLastD []
    rwa [getLastD_append base present]
  have numbered (number : Nat) : '/' ∉ '-' :: Text.ofNat number := by
    intro slash
    rcases List.mem_cons.mp slash with impossible | digit
    · cases impossible
    · exact absurd (Nat.isDigit_of_mem_toDigits (by decide) (by decide) digit) (by decide)
  obtain ⟨taken, applied⟩ := applied_of_planFrom together made write listed
  rw [Text.endsWith_iff]
  rcases Filename.suffix_of_apply (by decide) (by decide) read (whole ▸ ends) applied with
    kept | ⟨bare, number, isBare, same⟩
  · exact iff_of_true (name (by decide) (by decide) (whole ▸ kept))
      (Filename.not_isNumberedBare (by decide) kept)
  · have ending : '-' :: Text.ofNat number <:+ write.path.name :=
      name (by simp [Path.isSegment]) (numbered number) (same ▸ List.suffix_append bare _)
    rw [whole]
    exact iff_of_false (Filename.not_suffix_of_number (by decide) ending)
      (not_not.mpr ⟨bare, number, isBare, same⟩)

end Plain

/-! ## Batches in an empty directory -/

section Write

variable {base : Place} {today : Date} {options : WriteOptions} {run : WriteRun}

/-- A batch that was planned and stored below an empty directory. -/
structure IsStored (disk : Disk) (today : Date) (home base : Place) (options : WriteOptions)
    (issues : List Issue) (run : WriteRun) : Prop where
  /-- Planned files are below a place in canonical form. -/
  clean : base.IsTidy
  /-- No link is at, above or below that place. -/
  linkFree : disk.IsLinkFree (pathOf base)
  /-- The report is about the plan. -/
  planned : planFrom disk today (pathOf base) options options.existingNames issues =
    .ok (run.report.map Prod.fst)
  /-- Everything that was planned was stored. -/
  stores : Stores disk run.disk run.report
  /-- It was planned inside the directory. -/
  inside : ∀ target ∈ places run.report, target.IsInside home

/-- Where nothing failed, everything is written. -/
theorem isWritten_of_failed_eq_nil (succeeds : report.failed = []) :
    ∀ entry ∈ report, entry.2.isWritten = true := by
  intro entry listed
  have kept := List.filterMap_eq_nil_iff.mp succeeds entry listed
  obtain ⟨planned, outcome⟩ := entry
  cases outcome with
  | written stale => rfl
  | failed fault => cases kept

/-- A batch in an empty directory that reports no failure was stored. -/
theorem exists_isStored (book : disk.IsEmptyBook root home) (fresh : options.previousPaths = [])
    (returns : (write disk today root options issues).fault = none)
    (succeeds : (write disk today root options issues).report.failed = []) :
    ∃ base, IsStored disk today home base options issues
      (write disk today root options issues) := by
  unfold write at returns succeeds ⊢
  split at returns
  · cases returns
  · next planned made =>
      rw [made] at succeeds
      dsimp only at succeeds
      rw [fresh] at returns succeeds ⊢
      obtain ⟨trace, listed⟩ := trace_of_writeAll returns
      obtain ⟨found, ensured, made⟩ := of_plan made
      -- The files are planned below the root as seen from its own canonical form.
      obtain ⟨resolvedRoot, resolves, ensured⟩ := Fault.bind_eq_ok.mp ensured
      obtain rfl := Except.ok.inj (book.resolves.symm.trans resolves)
      obtain ⟨resolved, resolves, ensured⟩ := Fault.bind_eq_ok.mp ensured
      split_ifs at ensured with within
      obtain rfl := Except.ok.inj ensured
      obtain ⟨-, base, clean, rfl⟩ := of_resolve resolves
      have below := (below_of_isWithin within).1
      have linkFree := book.isLinkFree.of_below clean ((home_pathOf book.clean disk).symm ▸ below)
      obtain ⟨-, inside⟩ := inside_of_planFrom linkFree made
      rw [home_pathOf clean] at inside
      have planned (entry : PlannedWrite × WriteOutcome)
          (reported : entry ∈ (writeAll disk root [] planned).report) :=
        inside entry.1 (listed ▸ List.mem_map_of_mem reported)
      refine ⟨base, clean, linkFree, listed.symm ▸ made, trace.stores (fun entry reported => ?_)
        (isWritten_of_failed_eq_nil succeeds), List.forall_mem_map.mpr fun entry reported => ?_⟩
      · obtain ⟨place, target, inner⟩ := planned entry reported
        refine ⟨place, target, inner.clean, linkFree.hasNoLink ?_⟩
        rw [home_pathOf clean]
        exact inner.below
      · obtain ⟨place, target, inner⟩ := planned entry reported
        rw [target]
        refine ⟨inner.clean, below.trans inner.below, fun same => inner.apart ?_⟩
        change place = home at same
        have outer : place <+: base := same.symm ▸ below
        exact outer.eq_of_length_le inner.below.length_le

/-- The root as it is given does not make paths too long that are not so from the directory. -/
def IsNoLonger (root : Path) (home : Place) : Prop :=
  ∀ names, IsShort (pathOf (home ++ names)) → IsShort (root.onward names)

/-- No path is shorter than its home. -/
theorem isNoLonger_pathOf (home : Place) : IsNoLonger (pathOf home) home :=
  fun _ short => short

/-- A batch that was stored in an empty directory is loaded again exactly when no two issues share a
file and every file is found. -/
theorem IsStored.isReloaded_iff (stored : IsStored disk today home base options issues run)
    (book : disk.IsEmptyBook root home)
    (sound : ∀ issue ∈ issues, issue.IsValid ∧ issue.IsUnbroken) :
    IsReloaded run.disk root issues ↔
      (places run.report).Nodup ∧ ∀ entry ∈ run.report, IsFound root (wayTo home entry) := by
  have own : run.report.map (fun entry => entry.1.issue) = issues := by
    rw [← (of_planFrom stored.planned).1, List.map_map]
    rfl
  have soundEntries : ∀ entry ∈ run.report,
      entry.1.issue.IsValid ∧ entry.1.issue.IsUnbroken := fun entry listed =>
    sound _ (own ▸ List.mem_map_of_mem listed)
  rw [← own]
  exact Book.isReloaded_iff book stored.stores stored.inside soundEntries

/-- Where all names are plain, that is the case exactly when none is the ending of issue files alone
with a number behind it. -/
theorem IsStored.found_iff_of_isPlain (stored : IsStored disk today home base options issues run)
    (together : options.separateClosed = false) (noLonger : IsNoLonger root home)
    {front : List Piece} {literal : Text}
    (read : Pattern.read options.pattern = .ok (front ++ [.literal literal]))
    (ends : fileEnding <:+ literal)
    (plain : ∀ entry ∈ run.report, Path.IsPlain entry.1.relative) :
    ((places run.report).Nodup ∧ ∀ entry ∈ run.report, IsFound root (wayTo home entry)) ↔
      ∀ entry ∈ run.report, ¬ Filename.IsNumberedBare "md" entry.1.relative := by
  have plain : ∀ write ∈ run.report.map Prod.fst, Path.IsPlain write.relative :=
    List.forall_mem_map.mpr plain
  have distinct : (places run.report).Nodup := by
    have apart := distinct_of_planFrom stored.linkFree stored.clean together stored.planned plain
    rwa [List.map_map] at apart
  have endings := ending_iff_of_planFrom stored.linkFree stored.clean together stored.planned plain
    read ends
  rw [and_iff_right distinct]
  refine forall₂_congr fun entry listed => ?_
  have planned : entry.1.path.segments ∈ places run.report := List.mem_map_of_mem listed
  have target := segments_eq_wayTo (stored.inside _ planned)
  have present : wayTo home entry ≠ [] := by
    intro empty
    rw [empty, List.append_nil] at target
    exact (stored.inside _ planned).apart target
  rw [← endings entry.1 (List.mem_map_of_mem listed), Path.name, target,
    getLastD_append home present]
  refine ⟨IsFound.ending, fun ending => ⟨ending, noLonger _ ?_⟩⟩
  rw [← target]
  exact (stored.stores.reached _ planned).1.length

/-- A batch that reports no failure in an empty directory is loaded again exactly when no two issues
share a file and every file is found. Under a pattern that ends with the ending of issue files, and
where all names are plain, it is so exactly when no name is that ending alone with a number
behind it. -/
theorem load_write_iff (disk : Disk) (root : Path) (home : Place) (today : Date)
    (options : WriteOptions) (issues : List Issue) (front : List Piece) (literal : Text)
    (book : disk.IsEmptyBook root home)
    (sound : ∀ issue ∈ issues, issue.IsValid ∧ issue.IsUnbroken)
    (fresh : options.previousPaths = []) (together : options.separateClosed = false)
    (read : Pattern.read options.pattern = .ok (front ++ [.literal literal]))
    (ends : fileEnding <:+ literal) (returns : (write disk today root options issues).fault = none)
    (succeeds : (write disk today root options issues).report.failed = []) :
    let run := write disk today root options issues
    (IsReloaded run.disk root issues ↔
      (places run.report).Nodup ∧ ∀ entry ∈ run.report, IsFound root (wayTo home entry)) ∧
      (IsNoLonger root home → (∀ entry ∈ run.report, Path.IsPlain entry.1.relative) →
        (IsReloaded run.disk root issues ↔
          ∀ entry ∈ run.report, ¬ Filename.IsNumberedBare "md" entry.1.relative)) := by
  obtain ⟨base, stored⟩ := exists_isStored book fresh returns succeeds
  have found := stored.isReloaded_iff book sound
  refine ⟨found, fun noLonger plain => found.trans ?_⟩
  exact stored.found_iff_of_isPlain together noLonger read ends plain

end Write

/-- A directory with nothing in it. -/
def bareShelf : Disk where
  nodes := [(["p"], .directory), (["p", "book"], .directory)]

/-- Files are named by the titles of their issues, and none was there before. -/
def freshByTitle : WriteOptions where
  pattern := "[title].md"

/-- The bare shelf is an empty book. -/
theorem isEmptyBook_bareShelf : bareShelf.IsEmptyBook ⟨.root, ["p", "book"]⟩ ["p", "book"] where
  noZero := by decide
  leads := by decide +kernel
  resolves := by decide +kernel
  directory := by decide +kernel
  clear front _ := node?_ne_link (by decide) front
  empty names present := by
    simp [node?, find?, bareShelf, present]
  readable _ := rfl

/-- An issue with a clean identifier and a title is valid. -/
theorem isValid_titled {id title : Text} (clean : Text.IsClean id) :
    (titled id title).IsValid := by
  have text : Issue.SaysSomething none := by decide
  have items : Issue.HasCleanItems none := by decide
  exact ⟨clean, text, items, text, text, text, text, items, items, items, text⟩

/-- Two issues with one title are sound if it is unbroken. -/
theorem sound_pair {title : Text} (unbroken : Text.IsUnbroken title) :
    ∀ issue ∈ [titled "1" title, titled "2" title], issue.IsValid ∧ issue.IsUnbroken := by
  have sound (id : Text) (clean : Text.IsClean id) (plain : Text.IsUnbroken id) :
      (titled id title).IsValid ∧ (titled id title).IsUnbroken :=
    ⟨isValid_titled clean,
      List.forall_mem_cons.mpr ⟨plain, List.forall_mem_singleton.mpr unbroken⟩⟩
  exact List.forall_mem_cons.mpr ⟨sound "1" (by decide) (by decide),
    List.forall_mem_singleton.mpr (sound "2" (by decide) (by decide))⟩

/-- Two issues of one title are stored under different names, and reloaded. -/
theorem sameTitles_reloaded :
    let batch := [titled "1" "a", titled "2" "a"]
    let run := write bareShelf ⟨2024, 1, 1⟩ ⟨.root, ["p", "book"]⟩ freshByTitle batch
    run.report.map (fun entry => entry.1.relative) = (["a.md", "a-1.md"] : List Text) ∧
      IsReloaded run.disk ⟨.root, ["p", "book"]⟩ batch := by
  have names : (write bareShelf ⟨2024, 1, 1⟩ ⟨.root, ["p", "book"]⟩ freshByTitle
      [titled "1" "a", titled "2" "a"]).report.map (fun entry => entry.1.relative) =
        (["a.md", "a-1.md"] : List Text) := by
    decide +kernel
  have each : ∀ name ∈ (["a.md", "a-1.md"] : List Text),
      Path.IsPlain name ∧ '.' :: "md" <:+ name := by
    have tidy : ∀ name ∈ (["a.md", "a-1.md"] : List Text),
        ∀ segment ∈ (Path.ofText name).segments, segment ≠ Path.up ∧ Path.isSegment segment := by
      decide
    intro name listed
    refine ⟨⟨?_, tidy name listed, ?_⟩, ?_⟩ <;> revert name <;> decide
  have listed {entry : PlannedWrite × WriteOutcome}
      (reported : entry ∈ (write bareShelf ⟨2024, 1, 1⟩ ⟨.root, ["p", "book"]⟩ freshByTitle
        [titled "1" "a", titled "2" "a"]).report) :
      entry.1.relative ∈ (["a.md", "a-1.md"] : List Text) :=
    names ▸ List.mem_map.mpr ⟨entry, reported, rfl⟩
  refine ⟨names, ((load_write_iff bareShelf ⟨.root, ["p", "book"]⟩ ["p", "book"] ⟨2024, 1, 1⟩
    freshByTitle [titled "1" "a", titled "2" "a"] [.variable "title" .preserve] ".md"
    isEmptyBook_bareShelf (sound_pair (by decide)) rfl rfl (by decide +kernel) (by decide)
    (by decide +kernel) (by decide +kernel)).2 (isNoLonger_pathOf _)
    fun entry reported => (each _ (listed reported)).1).mpr fun entry reported => ?_⟩
  exact Filename.not_isNumberedBare (by decide) (each _ (listed reported)).2

/-- Two issues whose titles leave nothing for a name are stored, and not both found again. -/
theorem untitled_lost :
    let batch := [titled "1" "?", titled "2" "?"]
    let run := write bareShelf ⟨2024, 1, 1⟩ ⟨.root, ["p", "book"]⟩ freshByTitle batch
    bareShelf.IsEmptyBook ⟨.root, ["p", "book"]⟩ ["p", "book"] ∧
      (∀ issue ∈ batch, issue.IsValid ∧ issue.IsUnbroken) ∧
      Pattern.read freshByTitle.pattern = .ok [.variable "title" .preserve, .literal ".md"] ∧
      freshByTitle.previousPaths = [] ∧ freshByTitle.separateClosed = false ∧
      run.fault = none ∧ run.report.failed = [] ∧
      ¬ IsReloaded run.disk ⟨.root, ["p", "book"]⟩ batch := by
  have returns : (write bareShelf ⟨2024, 1, 1⟩ ⟨.root, ["p", "book"]⟩ freshByTitle
      [titled "1" "?", titled "2" "?"]).fault = none := by
    decide +kernel
  have succeeds : (write bareShelf ⟨2024, 1, 1⟩ ⟨.root, ["p", "book"]⟩ freshByTitle
      [titled "1" "?", titled "2" "?"]).report.failed = [] := by
    decide +kernel
  have sound := sound_pair (show Text.IsUnbroken "?" by decide)
  refine ⟨isEmptyBook_bareShelf, sound, by decide +kernel, rfl, rfl, returns, succeeds,
    fun reloaded => ?_⟩
  obtain ⟨base, stored⟩ := exists_isStored isEmptyBook_bareShelf rfl returns succeeds
  have found := ((stored.isReloaded_iff isEmptyBook_bareShelf sound).mp reloaded).2
  have lost : ¬ ∀ entry ∈ (write bareShelf ⟨2024, 1, 1⟩ ⟨.root, ["p", "book"]⟩ freshByTitle
      [titled "1" "?", titled "2" "?"]).report,
      Text.endsWith ((wayTo ["p", "book"] entry).getLastD []) fileEnding := by
    decide +kernel
  exact lost fun entry listed => (found entry listed).ending

end Book

end Issuebook
