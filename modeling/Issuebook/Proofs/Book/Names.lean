import Issuebook.Book.Loading
import Issuebook.Proofs.Book.Keeping
import Issuebook.Proofs.Disk.Contents
import Issuebook.Proofs.Fault
import Issuebook.Proofs.Filename.Collision

/-!
# Names of a batch

The names that a plan gives the issues of a batch. Names are settled beside those that are taken
before a closed issue is moved to its own directory, so only such issues can end up with a name
that is taken or that another issue has: `plan_hasFreeNames_iff`.
-/

namespace Issuebook

/-- The name of a file as a directory lists it: relative, and its own canonical form. -/
structure Path.IsPlain (name : Text) : Prop where
  /-- It begins with a segment. -/
  relative : (Path.ofText name).anchor = .none
  /-- It has no double dots. -/
  clean : Place.IsTidy (Path.ofText name).segments
  /-- It is written without needless dots and slashes. -/
  written : (Path.ofText name).toText = name

/-- A plain name is known from its segments. -/
theorem Path.IsPlain.eq_of_segments {one other : Text} (plain : IsPlain one)
    (otherPlain : IsPlain other) (same : (ofText one).segments = (ofText other).segments) :
    one = other := by
  have path : ofText one = ofText other :=
    congrArg₂ Path.mk (plain.relative.trans otherPlain.relative.symm) same
  rw [← plain.written, path, otherPlain.written]

namespace Book

open Disk

variable {disk : Disk} {root base : Path} {today : Date} {options : WriteOptions}
  {taken : List Text} {issue : Issue} {issues : List Issue} {name : Text}
  {planned : List PlannedWrite} {write : PlannedWrite}

/-- The names of a plan are distinct, and none is taken. -/
structure HasFreeNames (options : WriteOptions) (planned : List PlannedWrite) : Prop where
  /-- No two issues have the same name. -/
  distinct : (planned.map PlannedWrite.relative).Nodup
  /-- No issue has a name that is taken. -/
  free : ∀ write ∈ planned, write.relative ∉ options.existingNames

/-- An issue that goes to the directory of closed issues has a name of its own there. -/
structure HasClosedApart (options : WriteOptions) (planned : List PlannedWrite) : Prop where
  /-- No other issue has the same name. -/
  distinct : planned.Pairwise fun one other =>
    isSeparated options one.issue = true ∨ isSeparated options other.issue = true →
      one.relative ≠ other.relative
  /-- The name is not taken. -/
  free : ∀ write ∈ planned, isSeparated options write.issue = true →
    write.relative ∉ options.existingNames

/-- What a planned issue is: its name is free, and its path is the one that the name leads to. -/
theorem of_planOne (made : planOne disk today root options taken issue = .ok (name, write)) :
    name ∉ taken ∧ write.issue = issue ∧ write.relative = relativeName options issue name ∧
      disk.ensureWithin root (Path.ofText write.relative) = .ok write.path := by
  unfold planOne at made
  obtain ⟨chosen, applied, made⟩ := Fault.bind_eq_ok.mp made
  obtain ⟨target, found, made⟩ := Fault.bind_eq_ok.mp made
  obtain ⟨_, -, made⟩ := Fault.bind_eq_ok.mp made
  obtain ⟨rfl, rfl⟩ := Prod.mk.inj (Except.ok.inj made)
  obtain ⟨pieces, -, rfl⟩ := Fault.map_eq_ok.mp applied
  exact ⟨Filename.resolveCollision_not_mem _ _, rfl, rfl, found⟩

/-- A plan names its first issue beside the names that are taken, and the others beside that one
too. -/
theorem of_planFrom_cons
    (made : planFrom disk today root options taken (issue :: issues) = .ok planned) :
    ∃ name write writes, planned = write :: writes ∧
      planOne disk today root options taken issue = .ok (name, write) ∧
        planFrom disk today root options (name :: taken) issues = .ok writes := by
  obtain ⟨⟨name, write⟩, chosen, made⟩ := Fault.bind_eq_ok.mp made
  obtain ⟨writes, rest, made⟩ := Fault.bind_eq_ok.mp made
  exact ⟨name, write, writes, (Except.ok.inj made).symm, chosen, rest⟩

/-- A plan is for its issues in order, and each path is the one that its name leads to. -/
theorem of_planFrom (made : planFrom disk today root options taken issues = .ok planned) :
    planned.map PlannedWrite.issue = issues ∧
      ∀ write ∈ planned, disk.ensureWithin root (Path.ofText write.relative) = .ok write.path := by
  induction issues generalizing taken planned with
  | nil =>
      obtain rfl := Except.ok.inj made
      exact ⟨rfl, fun _ impossible => absurd impossible List.not_mem_nil⟩
  | cons issue issues inductionHypothesis =>
      obtain ⟨name, write, writes, rfl, chosen, rest⟩ := of_planFrom_cons made
      obtain ⟨-, rfl, -, found⟩ := of_planOne chosen
      obtain ⟨own, later⟩ := inductionHypothesis rest
      exact ⟨congrArg _ own, List.forall_mem_cons.mpr ⟨found, later⟩⟩

/-- The names that a plan settles are distinct and free, before closed issues are moved to their
own directory. -/
theorem names_of_planFrom
    (made : planFrom disk today root options taken issues = .ok planned) :
    ∃ names : List Text, names.Nodup ∧ (∀ name ∈ names, name ∉ taken) ∧
      names.length = issues.length ∧
      planned.map PlannedWrite.relative = List.zipWith (relativeName options) issues names := by
  induction issues generalizing taken planned with
  | nil =>
      obtain rfl := Except.ok.inj made
      exact ⟨[], .nil, fun _ impossible => absurd impossible List.not_mem_nil, rfl, rfl⟩
  | cons issue issues inductionHypothesis =>
      obtain ⟨name, write, writes, rfl, chosen, rest⟩ := of_planFrom_cons made
      obtain ⟨free, rfl, relative, -⟩ := of_planOne chosen
      obtain ⟨names, distinct, later, length, shape⟩ := inductionHypothesis rest
      have own : name ∉ names := fun listed => later name listed List.mem_cons_self
      refine ⟨name :: names, List.nodup_cons.mpr ⟨own, distinct⟩,
        List.forall_mem_cons.mpr ⟨free, fun other listed => ?_⟩, congrArg (· + 1) length, ?_⟩
      · exact fun old => later other listed (List.mem_cons_of_mem name old)
      · rw [List.map_cons, List.zipWith_cons_cons, shape, relative]

/-- Issues that stay out of the directory of closed issues have names that are free. -/
theorem open_apart_of_planFrom
    (made : planFrom disk today root options taken issues = .ok planned) :
    (∀ write ∈ planned, isSeparated options write.issue = false → write.relative ∉ taken) ∧
      planned.Pairwise fun one other =>
        isSeparated options one.issue = false → isSeparated options other.issue = false →
          one.relative ≠ other.relative := by
  induction issues generalizing taken planned with
  | nil =>
      obtain rfl := Except.ok.inj made
      exact ⟨fun _ impossible => absurd impossible List.not_mem_nil, .nil⟩
  | cons issue issues inductionHypothesis =>
      obtain ⟨name, write, writes, rfl, chosen, rest⟩ := of_planFrom_cons made
      obtain ⟨free, rfl, relative, -⟩ := of_planOne chosen
      obtain ⟨laterFree, laterApart⟩ := inductionHypothesis rest
      have own (stays : isSeparated options write.issue = false) : write.relative = name := by
        rw [relative, relativeName, if_neg (by simp [stays])]
      refine ⟨List.forall_mem_cons.mpr ⟨fun stays => ?_, fun other present stays => ?_⟩,
        List.pairwise_cons.mpr ⟨fun other present stays otherStays => ?_, laterApart⟩⟩
      · rw [own stays]
        exact free
      · exact fun old => laterFree other present stays (List.mem_cons_of_mem name old)
      · rw [own stays]
        exact fun same => laterFree other present otherStays (same ▸ List.mem_cons_self)

/-- A plan is made in the resolved directory of its book. -/
theorem of_plan (made : plan disk today root options issues = .ok planned) :
    ∃ base, disk.ensureWithin root root false = .ok base ∧
      planFrom disk today base options options.existingNames issues = .ok planned := by
  obtain ⟨base, found, made⟩ := Fault.bind_eq_ok.mp made
  refine ⟨base, found, ?_⟩
  split_ifs at made
  · obtain ⟨_, -, made⟩ := Fault.bind_eq_ok.mp made
    exact made
  · exact made

/-- Names are free exactly when closed issues are apart. -/
theorem hasFreeNames_iff (made : plan disk today root options issues = .ok planned) :
    HasFreeNames options planned ↔ HasClosedApart options planned := by
  obtain ⟨base, -, made⟩ := of_plan made
  obtain ⟨openFree, openApart⟩ := open_apart_of_planFrom made
  constructor
  · intro names
    refine ⟨(List.pairwise_map.mp names.distinct).imp ?_, fun write present _ => ?_⟩
    · exact fun apart _ => apart
    · exact names.free write present
  · intro closed
    refine ⟨List.pairwise_map.mpr ((openApart.and closed.distinct).imp ?_), ?_⟩
    · rintro one other ⟨stay, moved⟩
      cases separated : isSeparated options one.issue with
      | true => exact moved (.inl separated)
      | false =>
          cases otherSeparated : isSeparated options other.issue with
          | true => exact moved (.inr otherSeparated)
          | false => exact stay separated otherSeparated
    · intro write present
      cases separated : isSeparated options write.issue with
      | true => exact closed.free write present separated
      | false => exact openFree write present separated

/-- Without links a plain name leads to the place that it writes. -/
theorem path_of_isPlain {base : Place} {target : Path} (linkFree : disk.IsLinkFree (pathOf base))
    (clean : base.IsTidy) (plain : Path.IsPlain name)
    (found : disk.ensureWithin (pathOf base) (Path.ofText name) = .ok target) :
    target = pathOf (base ++ (Path.ofText name).segments) := by
  have whole : Place.IsTidy (base ++ (Path.ofText name).segments) :=
    List.forall_mem_append.mpr ⟨clean, plain.clean⟩
  have seen : (pathOf base).append (Path.ofText name) =
      pathOf (base ++ (Path.ofText name).segments) := by
    rw [Path.append, Path.isAbsolute, plain.relative, if_neg (by decide)]
    rfl
  obtain ⟨rootNoZero, noZero, -⟩ := of_ensureWithin linkFree found
  rw [home_pathOf clean, seen] at noZero
  have clear : disk.HasNoLink [] (base ++ (Path.ofText name).segments) :=
    linkFree.hasNoLink (by rw [home_pathOf clean]; exact List.prefix_append _ _)
  obtain ⟨resolvedRoot, rootResolves, found⟩ := Fault.bind_eq_ok.mp found
  rw [linkFree.resolve_absolute rootNoZero, home_pathOf clean] at rootResolves
  obtain rfl := Except.ok.inj rootResolves
  obtain ⟨resolved, resolves, found⟩ := Fault.bind_eq_ok.mp found
  rw [seen, resolve_of_hasNoLink rfl whole clear noZero] at resolves
  obtain rfl := Except.ok.inj resolves
  split_ifs at found
  exact (Except.ok.inj found).symm

/-- The files of a plan are distinct, and none is the file of a taken name. -/
structure HasFreeFiles (disk : Disk) (base : Path) (options : WriteOptions)
    (planned : List PlannedWrite) : Prop where
  /-- No two issues have the same file. -/
  distinct : (planned.map PlannedWrite.path).Nodup
  /-- No issue has the file of a taken name. -/
  free : ∀ write ∈ planned, ∀ name ∈ options.existingNames,
    disk.ensureWithin base (Path.ofText name) ≠ .ok write.path

/-- Plain names that are free are free files. -/
theorem hasFreeFiles_of_hasFreeNames (linkFree : disk.IsLinkFree root)
    (made : plan disk today root options issues = .ok planned)
    (resolved : disk.ensureWithin root root false = .ok base)
    (names : HasFreeNames options planned)
    (plain : ∀ name ∈ planned.map PlannedWrite.relative ++ options.existingNames,
      Path.IsPlain name) :
    HasFreeFiles disk base options planned := by
  obtain ⟨other, found, made⟩ := of_plan made
  obtain rfl := Except.ok.inj (found.symm.trans resolved)
  obtain ⟨-, -, place, clean, below, -, rfl⟩ := of_ensureWithin linkFree found
  obtain ⟨plannedPlain, takenPlain⟩ := List.forall_mem_append.mp plain
  have inner := linkFree.of_below clean below
  have relativePlain (write : PlannedWrite) (present : write ∈ planned) :
      Path.IsPlain write.relative := plannedPlain _ (List.mem_map_of_mem present)
  have path (write : PlannedWrite) (present : write ∈ planned) :
      write.path = pathOf (place ++ (Path.ofText write.relative).segments) :=
    path_of_isPlain inner clean (relativePlain write present)
      ((of_planFrom made).2 write present)
  refine ⟨List.pairwise_map.mpr ?_, fun write present name taken leads => ?_⟩
  · have apart := List.pairwise_map.mp names.distinct
    refine apart.imp_of_mem fun {one two} onePresent twoPresent => ?_
    refine mt fun same => (relativePlain one onePresent).eq_of_segments
      (relativePlain two twoPresent) ?_
    rw [path one onePresent, path two twoPresent] at same
    exact List.append_cancel_left (pathOf_injective same)
  · have target := path_of_isPlain inner clean (takenPlain name taken) leads
    rw [path write present] at target
    have same := (relativePlain write present).eq_of_segments (takenPlain name taken)
      (List.append_cancel_left (pathOf_injective target))
    exact names.free write present (same ▸ taken)

/-- Where no issue goes to the directory of closed issues, there is nothing to keep apart. -/
theorem hasClosedApart_of_open (made : plan disk today root options issues = .ok planned)
    (stay : issues.any (isSeparated options) = false) : HasClosedApart options planned := by
  obtain ⟨base, -, made⟩ := of_plan made
  have stays : ∀ write ∈ planned, isSeparated options write.issue ≠ true := by
    rw [← (of_planFrom made).1] at stay
    intro write present
    exact List.any_eq_false.mp stay _ (List.mem_map_of_mem present)
  refine ⟨List.pairwise_of_forall_mem_list fun one onePresent other otherPresent moved => ?_,
    fun write present moved => absurd moved (stays write present)⟩
  exact absurd moved (not_or_intro (stays one onePresent) (stays other otherPresent))

/-- A plan settles distinct and free names, and then moves closed issues to their own directory. So
its names are distinct and free exactly when those of the moved issues are, as they are where none
is moved; and where all names are plain, so are the files then. -/
theorem plan_hasFreeNames_iff (disk : Disk) (today : Date) (root base : Path)
    (options : WriteOptions) (issues : List Issue) (planned : List PlannedWrite)
    (linkFree : disk.IsLinkFree root)
    (resolved : disk.ensureWithin root root false = .ok base)
    (made : plan disk today root options issues = .ok planned) :
    (∃ names : List Text, names.Nodup ∧ (∀ name ∈ names, name ∉ options.existingNames) ∧
      names.length = issues.length ∧
      planned.map PlannedWrite.relative = List.zipWith (relativeName options) issues names) ∧
      (HasFreeNames options planned ↔ HasClosedApart options planned) ∧
      (issues.any (isSeparated options) = false → HasClosedApart options planned) ∧
      (HasClosedApart options planned →
        (∀ name ∈ planned.map PlannedWrite.relative ++ options.existingNames,
          Path.IsPlain name) →
        HasFreeFiles disk base options planned) := by
  have names := hasFreeNames_iff made
  obtain ⟨_, -, settled⟩ := of_plan made
  exact ⟨names_of_planFrom settled, names, hasClosedApart_of_open made, fun closed plain =>
    hasFreeFiles_of_hasFreeNames linkFree made resolved (names.mpr closed) plain⟩

/-- A directory with an open issue, and a closed one in a directory of its own. -/
def archive : Disk where
  nodes :=
    [(["p"], .directory), (["p", "book"], .directory),
      (["p", "book", "1.md"], .file (.text "first")),
      (["p", "book", "closed"], .directory),
      (["p", "book", "closed", "2.md"], .file (.text "second"))]

/-- Files are named by identifiers, and those of closed issues are apart. -/
def byIdentifier : WriteOptions where
  pattern := "[id].md"
  separateClosed := true
  existingNames := ["1.md", "closed/2.md"]

/-- The names that exist in the archive. -/
theorem archive_existingNames :
    existingNames archive ⟨.root, ["p", "book"]⟩ = .ok byIdentifier.existingNames := by
  have walked : archive.walk ⟨.root, ["p", "book"]⟩ = .ok (.there ["p", "book"] .directory) := by
    decide +kernel
  rw [existingNames, files, filesBelow, pathsBelow_of_sorted walked (by decide)]
  decide +kernel

/-- The plan for an open issue whose name is taken, and a closed one. -/
def archivePlan : List PlannedWrite :=
  [⟨titled "1" "a", ⟨.root, ["p", "book", "1-1.md"]⟩, "1-1.md"⟩,
    ⟨{ titled "3" "b" with status := .closed }, ⟨.root, ["p", "book", "closed", "3.md"]⟩,
      "closed/3.md"⟩]

/-- A plan for the archive whose names are free. -/
theorem archivePlan_hasFreeNames :
    HasFreeNames byIdentifier archivePlan ∧
      HasFreeFiles archive ⟨.root, ["p", "book"]⟩ byIdentifier archivePlan := by
  obtain ⟨-, names, -, files⟩ :=
    plan_hasFreeNames_iff archive ⟨2024, 1, 1⟩ ⟨.root, ["p", "book"]⟩ ⟨.root, ["p", "book"]⟩
      byIdentifier (archivePlan.map PlannedWrite.issue) archivePlan (.of_linkCount (by decide) _)
      (by decide +kernel) (by decide +kernel)
  have closed : HasClosedApart byIdentifier archivePlan := ⟨by decide +kernel, by decide +kernel⟩
  have plain : ∀ name ∈ archivePlan.map PlannedWrite.relative ++ byIdentifier.existingNames,
      (Path.ofText name).anchor = .none ∧
        (∀ segment ∈ (Path.ofText name).segments,
          segment ≠ Path.up ∧ Path.isSegment segment = true) ∧
        (Path.ofText name).toText = name := by
    decide +kernel
  exact ⟨names.mpr closed, files closed fun name listed =>
    ⟨(plain name listed).1, (plain name listed).2.1, (plain name listed).2.2⟩⟩

/-- A closed issue whose name is taken. -/
theorem closedName_not_free :
    archive.IsLinkFree ⟨.root, ["p", "book"]⟩ ∧
      existingNames archive ⟨.root, ["p", "book"]⟩ = .ok byIdentifier.existingNames ∧
      ∃ planned, plan archive ⟨2024, 1, 1⟩ ⟨.root, ["p", "book"]⟩ byIdentifier
          [{ titled "2" "b" with status := .closed }] = .ok planned ∧
        ¬ HasFreeNames byIdentifier planned ∧
        archive.ensureWithin ⟨.root, ["p", "book"]⟩ (Path.ofText "closed/2.md") =
          .ok ⟨.root, ["p", "book", "closed", "2.md"]⟩ ∧
        planned.map PlannedWrite.path = [⟨.root, ["p", "book", "closed", "2.md"]⟩] := by
  refine ⟨.of_linkCount (by decide) _, archive_existingNames,
    [⟨{ titled "2" "b" with status := .closed }, ⟨.root, ["p", "book", "closed", "2.md"]⟩,
      "closed/2.md"⟩], by decide +kernel, fun names => ?_, by decide +kernel, rfl⟩
  exact names.free _ (List.mem_singleton.mpr rfl) (by decide)

end Book

end Issuebook
