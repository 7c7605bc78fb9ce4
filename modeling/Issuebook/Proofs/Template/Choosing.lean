import Issuebook.Proofs.Disk.Contents
import Issuebook.Proofs.Fault
import Issuebook.Proofs.Text.Cleaning
import Issuebook.Template.Resolution
import Mathlib.Tactic.ByContra

/-!
# Choosing a template

The candidates for a template, in order, and what is told of each. A choice is the first candidate
that has a text. A file that the file system refuses has none, and a file that is not a text ends
the choice; so a template is chosen exactly when no such file is tried: `choose_takes_first`.
-/

namespace Issuebook

namespace Disk

/-- Whether a path names a file that can be read and is not a text. -/
def holdsBytes (disk : Disk) (path : Path) : Bool :=
  match disk.readContent path with
  | .ok (.binary _) => true
  | _ => false

/-- A file that holds bytes is no text. -/
theorem readText_of_holdsBytes {disk : Disk} {path : Path} (bytes : disk.holdsBytes path = true) :
    disk.readText path = .error .notUtf8 := by
  rw [readText_eq]
  unfold holdsBytes at bytes
  split at bytes
  · next read =>
      rw [read]
      rfl
  · cases bytes

/-- A path with a zero character is not read. -/
theorem readText_of_hasZero {disk : Disk} {path : Path} (zero : hasZero path = true) :
    disk.readText path = .error .zeroInPath := by
  rw [readText_eq, readContent, if_pos zero]
  rfl

/-- A path without the character zero is read, or refused by the file system, unless it names a file
that is not a text. -/
theorem readText_cases (disk : Disk) {path : Path} (noZero : hasZero path = false)
    (noBytes : disk.holdsBytes path = false) :
    (∃ text, disk.readText path = .ok text) ∨
      ∃ refusal place, disk.readText path = .error (.refused refusal place) := by
  unfold holdsBytes at noBytes
  rw [readText_eq]
  cases read : disk.readContent path with
  | ok content =>
      cases content with
      | text written => exact .inl ⟨_, rfl⟩
      | binary bytes =>
          rw [read] at noBytes
          cases noBytes
  | error fault =>
      refine .inr ?_
      unfold readContent at read
      rw [if_neg (by simp [noZero])] at read
      split at read
      · exact ⟨_, _, congrArg _ (Except.error.inj read).symm⟩
      · exact ⟨_, _, congrArg _ (Except.error.inj read).symm⟩
      · split at read
        · exact ⟨_, _, congrArg _ (Except.error.inj read).symm⟩
        · cases read
      · exact ⟨_, _, congrArg _ (Except.error.inj read).symm⟩

/-- A child's path has a zero if its parent's has, or its name. -/
theorem hasZero_child (path : Path) (segment : Text) :
    hasZero (path.child segment) = (hasZero path || segment.any fun char => char.val = 0) := by
  simp [hasZero, Path.child, List.any_append]

end Disk

/-- No name of a preset brings a zero into the path of its file. -/
theorem Places.hasZero_presetFile (directory : Path) (name : Text) :
    Disk.hasZero (presetFile directory name) = Disk.hasZero directory := by
  have endingFree : Text.IsZeroFree templateEnding := by decide
  have free : ∀ char ∈ Text.safeName name ++ templateEnding, char.val ≠ 0 :=
    List.forall_mem_append.mpr ⟨(Text.isHarmless_safeName name).zeroFree, endingFree⟩
  have inside : (Text.safeName name ++ templateEnding).any (fun char => char.val = 0) = false :=
    List.any_eq_false.mpr fun char present => by simpa using free char present
  rw [presetFile, Disk.hasZero_child, Disk.hasZero_child, inside]
  simp [List.any]

/-- The path of a custom template has a zero exactly when its directory has. -/
theorem Places.hasZero_customTemplate (directory : Path) (kind : TemplateKind) :
    Disk.hasZero (customTemplate directory kind) = Disk.hasZero directory := by
  cases kind <;> rw [customTemplate, Disk.hasZero_child] <;> exact Bool.or_false _

namespace Resolution

/-- What a template can be taken from. -/
inductive Candidate where
  /-- The file of the custom template. -/
  | custom
  /-- The file of the preset. -/
  | presetFile
  /-- The built-in template with the name of the preset. -/
  | named
  /-- The minimal built-in template. -/
  | minimal

variable {disk : Disk} {kind : TemplateKind} {source : TemplateSource} {candidate : Candidate}
  {resolution : Resolution} {path : Path}

namespace Candidate

/-- The candidates before one, in order. -/
def earlier : Candidate → List Candidate
  | .custom => []
  | .presetFile => [.custom]
  | .named => [.custom, .presetFile]
  | .minimal => [.custom, .presetFile, .named]

/-- The name under which a choice of a candidate is told. -/
def origin : Candidate → Text
  | .custom => "custom"
  | .presetFile => presetFileOrigin
  | .named => "builtin_preset"
  | .minimal => "builtin"

/-- The file of a candidate. A preset without a name has none. -/
def file? (kind : TemplateKind) (source : TemplateSource) : Candidate → Option Path
  | .custom => some (Places.customTemplate source.directory kind)
  | .presetFile => match source.preset with
    | none | some [] => none
    | some name => some (Places.presetFile source.directory name)
  | .named | .minimal => none

/-- The text of a candidate, if it has one that can be read. -/
def text? (disk : Disk) (kind : TemplateKind) (source : TemplateSource) :
    Candidate → Option Text
  | .named => (Preset.table kind).get? (Preset.key (source.preset.getD []))
  | .minimal => some (Preset.fallback kind)
  | candidate => (candidate.file? kind source).bind fun path => (disk.readText path).toOption

/-- How the reading of a file went. -/
def ending : Except Fault Text → Text
  | .ok _ => "found"
  | .error (.refused .absent _) => "missing"
  | .error fault => fault.message

/-- What is told of the try at a file. -/
def fileReport (disk : Disk) (origin : Text) (path : Path) : Text :=
  origin ++ ':' :: path.toText ++ (": " : Text) ++ ending (disk.readText path)

/-- What is told of the try at a candidate. Nothing is told of a name that no template has. -/
def report? (disk : Disk) (kind : TemplateKind) (source : TemplateSource) :
    Candidate → Option Text
  | .named => (Candidate.named.text? disk kind source).map fun _ =>
      ("builtin_preset:" : Text) ++ kind.name ++ ':' :: Preset.key (source.preset.getD []) ++
        (": found" : Text)
  | .minimal => some (("builtin:" : Text) ++ kind.name ++ (": found" : Text))
  | candidate => match candidate.file? kind source with
    | some path => some (fileReport disk candidate.origin path)
    | none => some (candidate.origin ++ (": no preset configured" : Text))

/-- The try at a candidate. -/
def attempt (disk : Disk) (kind : TemplateKind) (source : TemplateSource)
    (candidate : Candidate) : Attempt :=
  ⟨candidate.text? disk kind source, candidate.origin,
    (candidate.report? disk kind source).getD []⟩

/-- Whether a candidate is tried: none before it has a text. -/
def IsTried (disk : Disk) (kind : TemplateKind) (source : TemplateSource)
    (candidate : Candidate) : Prop :=
  ∀ other ∈ candidate.earlier, other.text? disk kind source = none

/-- A choice that is the text of a candidate, the first to have one, told with all before it. -/
structure IsChosen (disk : Disk) (kind : TemplateKind) (source : TemplateSource)
    (candidate : Candidate) (resolution : Resolution) : Prop where
  tried : candidate.IsTried disk kind source
  text : candidate.text? disk kind source = some resolution.text
  origin : resolution.origin = candidate.origin
  attempts : resolution.attempts =
    (candidate.earlier ++ [candidate]).filterMap (report? disk kind source)

end Candidate

/-- Whether every file that is tried is a text, or refused by the file system. -/
structure IsReadable (disk : Disk) (kind : TemplateKind) (source : TemplateSource) : Prop where
  /-- The name of the directory can be handed to the file system. -/
  noZero : Disk.hasZero source.directory = false
  /-- No file that is tried holds other bytes than those of a text. -/
  noBytes : ∀ candidate : Candidate, candidate.IsTried disk kind source →
    ∀ path ∈ candidate.file? kind source, disk.holdsBytes path = false

open Candidate

/-- A file that may be read is found or missed, and either is told. -/
theorem tryFile_eq (origin : Text) (noZero : Disk.hasZero path = false)
    (noBytes : disk.holdsBytes path = false) : tryFile disk origin path =
      .ok ⟨(disk.readText path).toOption, origin, fileReport disk origin path⟩ := by
  unfold tryFile fileReport
  rcases disk.readText_cases noZero noBytes with ⟨text, read⟩ | ⟨refusal, place, read⟩
  · rw [read]
    rfl
  · rw [read]
    cases refusal <;> rfl

/-- A file of bytes ends the search. -/
theorem tryFile_of_holdsBytes (origin : Text) (bytes : disk.holdsBytes path = true) :
    tryFile disk origin path = .error .notUtf8 := by
  unfold tryFile
  rw [Disk.readText_of_holdsBytes bytes]

/-- A path with a zero ends it, too. -/
theorem tryFile_of_hasZero (origin : Text) (zero : Disk.hasZero path = true) :
    tryFile disk origin path = .error .zeroInPath := by
  unfold tryFile
  rw [Disk.readText_of_hasZero zero]

/-- The try of the custom template. -/
theorem tryCustom_eq (noZero : Disk.hasZero source.directory = false)
    (noBytes : disk.holdsBytes (Places.customTemplate source.directory kind) = false) :
    tryFile disk "custom" (Places.customTemplate source.directory kind) =
      .ok (Candidate.custom.attempt disk kind source) :=
  tryFile_eq _ ((Places.hasZero_customTemplate _ _).trans noZero) noBytes

/-- A preset with a name is looked for in its file. -/
theorem tryPresetFile_of_file (given : path ∈ Candidate.presetFile.file? kind source) :
    tryPresetFile disk source = tryFile disk presetFileOrigin path := by
  obtain ⟨directory, preset⟩ := source
  match preset with
  | none | some [] => cases given
  | some (char :: name) =>
      obtain rfl := Option.some.inj given
      rfl

/-- The try of a preset's file. -/
theorem tryPresetFile_eq (noZero : Disk.hasZero source.directory = false)
    (noBytes : ∀ path ∈ Candidate.presetFile.file? kind source, disk.holdsBytes path = false) :
    tryPresetFile disk source = .ok (Candidate.presetFile.attempt disk kind source) := by
  obtain ⟨directory, preset⟩ := source
  match preset with
  | none | some [] => rfl
  | some (char :: name) =>
      exact tryFile_eq _ ((Places.hasZero_presetFile _ _).trans noZero) (noBytes _ rfl)

/-- A try that found a text settles the choice, and tells of all tries. -/
theorem settle_of_some {attempt : Attempt} {text : Text} (found : attempt.text = some text)
    (missed : List Attempt) (next : List Attempt → Noted (Except Fault Resolution)) :
    (settle missed (.ok attempt) next).value =
      .ok ⟨text, attempt.origin, (missed ++ [attempt]).map Attempt.report⟩ := by
  simp only [settle, found]

/-- A try that found nothing hands over to the next. -/
theorem settle_of_none {attempt : Attempt} (nothing : attempt.text = none)
    (missed : List Attempt) (next : List Attempt → Noted (Except Fault Resolution)) :
    settle missed (.ok attempt) next = next (missed ++ [attempt]) := by
  simp only [settle, nothing]

/-- A named preset that is built in is taken. -/
theorem builtin_of_some {text : Text} (named : Candidate.named.text? disk kind source = some text) :
    (builtin kind source.preset).value = Candidate.named.attempt disk kind source := by
  rw [attempt, report?, named]
  simp only [text?] at named
  simp only [builtin, named]
  rfl

/-- Else the minimal one is. -/
theorem builtin_of_none (unnamed : Candidate.named.text? disk kind source = none) :
    (builtin kind source.preset).value = Candidate.minimal.attempt disk kind source := by
  simp only [text?] at unnamed
  simp only [builtin, unnamed]
  rfl

/-- Both files are told of. -/
theorem filterMap_report (disk : Disk) (kind : TemplateKind) (source : TemplateSource)
    (others : List Candidate) :
    (.custom :: .presetFile :: others).filterMap (report? disk kind source) =
      [Candidate.custom.attempt disk kind source,
          Candidate.presetFile.attempt disk kind source].map Attempt.report ++
        others.filterMap (report? disk kind source) := by
  have custom : Candidate.custom.report? disk kind source =
      some (Candidate.custom.attempt disk kind source).report := rfl
  have presetFile : Candidate.presetFile.report? disk kind source =
      some (Candidate.presetFile.attempt disk kind source).report := by
    obtain ⟨directory, preset⟩ := source
    match preset with
    | none | some [] | some (char :: name) => rfl
  rw [List.filterMap_cons_some custom, List.filterMap_cons_some presetFile]
  rfl

/-- Behind files without a text stands a built-in template. -/
theorem fallBack_chosen (noCustom : Candidate.custom.text? disk kind source = none)
    (noPresetFile : Candidate.presetFile.text? disk kind source = none) :
    ∃ candidate resolution, (fallBack kind source [Candidate.custom.attempt disk kind source,
        Candidate.presetFile.attempt disk kind source]).value = .ok resolution ∧
      IsChosen disk kind source candidate resolution := by
  have filesTried : Candidate.named.IsTried disk kind source := by
    simp [IsTried, earlier, noCustom, noPresetFile]
  cases named : Candidate.named.text? disk kind source with
  | some text =>
      refine ⟨.named, _, rfl, ?_⟩
      rw [builtin_of_some named]
      exact ⟨filesTried, by simp [attempt, named], rfl, by
        simp [earlier, filterMap_report, report?, attempt, named]⟩
  | none =>
      have tried : Candidate.minimal.IsTried disk kind source := by
        simp [IsTried, earlier, noCustom, noPresetFile, named]
      refine ⟨.minimal, _, rfl, ?_⟩
      rw [builtin_of_none named]
      exact ⟨tried, rfl, rfl, by simp [earlier, filterMap_report, report?, attempt, named]⟩

/-- Where the files can be read, the first candidate with a text is chosen. -/
theorem choose_of_isReadable (readable : IsReadable disk kind source) :
    ∃ candidate resolution, (choose disk kind source).value = .ok resolution ∧
      IsChosen disk kind source candidate resolution := by
  have customTried : Candidate.custom.IsTried disk kind source := fun _ before => nomatch before
  rw [choose, tryCustom_eq readable.noZero (readable.noBytes .custom customTried _ rfl)]
  cases custom : Candidate.custom.text? disk kind source with
  | some text => exact ⟨_, _, settle_of_some custom _ _, customTried, custom, rfl, rfl⟩
  | none =>
      have presetTried : Candidate.presetFile.IsTried disk kind source := by
        intro other before
        rwa [List.mem_singleton.mp before]
      rw [settle_of_none custom,
        tryPresetFile_eq readable.noZero (readable.noBytes .presetFile presetTried)]
      cases presetFile : Candidate.presetFile.text? disk kind source with
      | some text =>
          exact ⟨_, _, settle_of_some presetFile _ _, presetTried, presetFile, rfl,
            (filterMap_report disk kind source []).symm⟩
      | none =>
          rw [settle_of_none presetFile]
          exact fallBack_chosen custom presetFile

/-- A file that is tried and is no text ends the choice. -/
theorem choose_of_holdsBytes (noZero : Disk.hasZero source.directory = false)
    (tried : candidate.IsTried disk kind source) (given : path ∈ candidate.file? kind source)
    (bytes : disk.holdsBytes path = true) :
    (choose disk kind source).value = .error .notUtf8 := by
  cases candidate with
  | custom =>
      obtain rfl := Option.some.inj given
      rw [choose, tryFile_of_holdsBytes _ bytes]
      rfl
  | presetFile =>
      rw [choose]
      cases customBytes : disk.holdsBytes (Places.customTemplate source.directory kind) with
      | true =>
          rw [tryFile_of_holdsBytes _ customBytes]
          rfl
      | false =>
          have nothing := tried .custom (List.mem_singleton_self _)
          rw [tryCustom_eq noZero customBytes, settle_of_none nothing,
            tryPresetFile_of_file given, tryFile_of_holdsBytes _ bytes]
          rfl
  | named | minimal => cases given

/-- A directory with a zero character ends the choice. -/
theorem choose_of_hasZero (zero : Disk.hasZero source.directory = true) :
    (choose disk kind source).value = .error .zeroInPath := by
  rw [choose, tryFile_of_hasZero _ ((Places.hasZero_customTemplate _ _).trans zero)]
  rfl

/-- A choice that was made could read the files. -/
theorem isReadable_of_choose (chosen : (choose disk kind source).value = .ok resolution) :
    IsReadable disk kind source := by
  have noZero : Disk.hasZero source.directory = false := by
    by_contra zero
    rw [choose_of_hasZero (Bool.not_eq_false _ ▸ zero)] at chosen
    cases chosen
  refine ⟨noZero, fun candidate tried path given => ?_⟩
  by_contra bytes
  rw [choose_of_holdsBytes noZero tried given (Bool.not_eq_false _ ▸ bytes)] at chosen
  cases chosen

/-- A template is chosen exactly when every file that is tried is a text or refused, whatever name
the preset has; and what is chosen is the first candidate that has a text, with all that were tried
told in order. -/
theorem choose_takes_first (disk : Disk) (kind : TemplateKind) (source : TemplateSource) :
    ((∃ resolution, (choose disk kind source).value = .ok resolution) ↔
        IsReadable disk kind source) ∧
      ∀ resolution, (choose disk kind source).value = .ok resolution →
        ∃ candidate, IsChosen disk kind source candidate resolution := by
  constructor
  · constructor
    · rintro ⟨resolution, chosen⟩
      exact isReadable_of_choose chosen
    · intro readable
      obtain ⟨candidate, resolution, chosen, -⟩ := choose_of_isReadable readable
      exact ⟨resolution, chosen⟩
  · intro resolution chosen
    obtain ⟨candidate, other, same, first⟩ := choose_of_isReadable (isReadable_of_choose chosen)
    obtain rfl := Except.ok.inj (chosen.symm.trans same)
    exact ⟨candidate, first⟩

/-- A directory of templates, in which the custom template of issues is a directory itself, and that
of the rollup and one preset are no texts. -/
def clutteredDisk : Disk where
  nodes := [(["t"], .directory), (["t", "[Issue].mdx"], .directory),
    (["t", "TODO.mdx"], .file (.binary [0xff])), (["t", "presets"], .directory),
    (["t", "presets", "github.mdx"], .file (.binary [0xff]))]

/-- A preset with blanks and a capital in its name. -/
def linearSource : TemplateSource :=
  ⟨⟨.root, ["t"]⟩, some " Linear"⟩

/-- A choice behind a custom template that is a directory. -/
theorem linearSource_chosen :
    IsReadable clutteredDisk .issue linearSource ∧
      ∃ resolution, (choose clutteredDisk .issue linearSource).value = .ok resolution ∧
        (∃ candidate, IsChosen clutteredDisk .issue linearSource candidate resolution) ∧
        resolution.attempts =
          ["custom:/t/[Issue].mdx: [Errno 21] Is a directory: \x27/t/[Issue].mdx\x27",
           "preset_file:/t/presets/Linear.mdx: missing", "builtin_preset:issue:linear: found"] := by
  obtain ⟨succeeds, first⟩ := choose_takes_first clutteredDisk .issue linearSource
  have chosen : ((choose clutteredDisk .issue linearSource).value.map Resolution.attempts) =
      .ok ["custom:/t/[Issue].mdx: [Errno 21] Is a directory: \x27/t/[Issue].mdx\x27",
        "preset_file:/t/presets/Linear.mdx: missing", "builtin_preset:issue:linear: found"] := by
    decide +kernel
  obtain ⟨resolution, value, attempts⟩ := Fault.map_eq_ok.mp chosen
  exact ⟨succeeds.mp ⟨resolution, value⟩, resolution, value, first resolution value, attempts⟩

/-- A custom template that is no text ends the choice, as does the file of a preset. -/
theorem clutteredDisk_undecided :
    (choose clutteredDisk .todo linearSource).value = .error .notUtf8 ∧
      (choose clutteredDisk .issue ⟨⟨.root, ["t"]⟩, some "github"⟩).value = .error .notUtf8 := by
  decide +kernel

end Resolution

end Issuebook
