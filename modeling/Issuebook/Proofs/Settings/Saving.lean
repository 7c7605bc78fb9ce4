import Issuebook.Proofs.Disk.Listing
import Issuebook.Proofs.Entries
import Issuebook.Proofs.Json.Objects
import Issuebook.Settings.Reading

/-!
# Saving settings

Settings that were accepted once are read back from their file as they are, and of an environment
whose variables are accepted each variable decides its own setting and no other: `load_of_save`. The
file leaves absent values out, and what it holds is accepted as the value it was written for, so
checking a value a second time does not change it.
-/

namespace Issuebook

/-- One of the settings. -/
inductive Setting where
  /-- Whether the store takes part. -/
  | beads
  /-- The directory of the store. -/
  | beadsDir
  /-- The directory of issue files. -/
  | todoDir
  /-- The directory of templates. -/
  | templateDir
  /-- The filename pattern. -/
  | filePattern
  /-- The name of a template preset. -/
  | preset
  /-- What happens to conflicts. -/
  | strategy
  /-- Whether closed issues have a directory of their own. -/
  | separateClosed
  /-- The directory of closed issues. -/
  | closedSubdir
  /-- The seconds within which changes are in conflict. -/
  | conflictWindow

namespace Setting

/-- Every setting. -/
def all : List Setting :=
  [.beads, .beadsDir, .todoDir, .templateDir, .filePattern, .preset, .strategy, .separateClosed,
    .closedSubdir, .conflictWindow]

/-- The kind of data that a setting is. -/
def Content : Setting → Type
  | .beads | .separateClosed => Bool
  | .beadsDir | .filePattern | .preset => Option Text
  | .todoDir | .templateDir | .closedSubdir => Text
  | .strategy => Strategy
  | .conflictWindow => Int

/-- What some settings choose. -/
def get : (setting : Setting) → Settings → setting.Content
  | .beads => Settings.beads
  | .beadsDir => Settings.beadsDir
  | .todoDir => Settings.todoDir
  | .templateDir => Settings.templateDir
  | .filePattern => Settings.filePattern
  | .preset => Settings.preset
  | .strategy => Settings.strategy
  | .separateClosed => Settings.separateClosed
  | .closedSubdir => Settings.closedSubdir
  | .conflictWindow => Settings.conflictWindow

/-- The settings that choose something each. -/
def together (content : (setting : Setting) → setting.Content) : Settings where
  beads := content .beads
  beadsDir := content .beadsDir
  todoDir := content .todoDir
  templateDir := content .templateDir
  filePattern := content .filePattern
  preset := content .preset
  strategy := content .strategy
  separateClosed := content .separateClosed
  closedSubdir := content .closedSubdir
  conflictWindow := content .conflictWindow

/-- How a setting is accepted. -/
def check : (setting : Setting) → Value → Checked setting.Content
  | .beads | .separateClosed => Settings.checkBool
  | .beadsDir | .filePattern | .preset => Settings.checkOptional
  | .todoDir | .templateDir | .closedSubdir => Settings.checkText
  | .strategy => Settings.checkStrategy
  | .conflictWindow => Settings.checkInt

/-- How a setting is written. -/
def write : (setting : Setting) → setting.Content → Value
  | .beads | .separateClosed => Value.bool
  | .beadsDir | .filePattern | .preset => Value.ofText?
  | .todoDir | .templateDir | .closedSubdir => Value.text
  | .strategy => fun strategy => .text strategy.name
  | .conflictWindow => Value.int

/-- The name of a setting in a record. -/
def name : Setting → Text
  | .beads => "beads"
  | .beadsDir => "beads_dir"
  | .todoDir => "todo_dir"
  | .templateDir => "template_dir"
  | .filePattern => "file_pattern"
  | .preset => "preset"
  | .strategy => "conflict_strategy"
  | .separateClosed => "separate_closed"
  | .closedSubdir => "closed_subdir"
  | .conflictWindow => "conflict_window_seconds"

/-- The variable of the environment that overrides a setting. -/
def variableName (setting : Setting) : Text :=
  Settings.variableHead ++ match setting with
    | .beads => "BEADS"
    | .beadsDir => "BEADS_DIR"
    | .todoDir => "TODO_DIR"
    | .templateDir => "TEMPLATE_DIR"
    | .filePattern => "FILE_PATTERN"
    | .preset => "PRESET"
    | .strategy => "CONFLICT_STRATEGY"
    | .separateClosed => "SEPARATE_CLOSED"
    | .closedSubdir => "CLOSED_SUBDIR"
    | .conflictWindow => "CONFLICT_WINDOW_SECONDS"

/-- The variables that override settings, under the names of these. -/
def variableTable : Entries Text :=
  all.map fun setting => (setting.name, setting.variableName)

/-- What a record says about a setting. -/
def field (setting : Setting) (record : Entries Value) : Checked setting.Content :=
  Settings.field record setting.name setting.check (setting.get .standard)

/-- No setting has two variables. -/
theorem nodup_keys_variableTable : variableTable.keys.Nodup := by
  decide

/-- Every setting has its variable. -/
theorem get?_variableTable (setting : Setting) :
    variableTable.get? setting.name = some setting.variableName := by
  cases setting <;> rfl

/-- A setting of a whole is the one that went into it. -/
theorem get_together (content : (setting : Setting) → setting.Content) (setting : Setting) :
    setting.get (together content) = content setting := by
  cases setting <;> rfl

end Setting

/-! ## Checking fields -/

namespace Checked

variable {α : Type} {field : Checked α}

/-- There is no problem with a field exactly when its check passes. -/
theorem problem_eq_nil (name : Text) (standIn : α) :
    problem name field = [] ↔ field = .ok (field.getD standIn) := by
  cases field with
  | ok value => exact iff_of_true rfl rfl
  | error defect => exact iff_of_false (List.cons_ne_nil _ _) (fun impossible => nomatch impossible)

end Checked

namespace Settings

variable {settings : Settings} {record before : Entries Value} {name : Text} {value : Value}
  {disk left : Disk} {root : Path}

/-- A record is accepted as the settings that all its fields are accepted as. -/
theorem ofRecord_eq_ok : ofRecord record = .ok settings ↔
    ∀ setting : Setting, setting.field record = .ok (setting.get settings) := by
  constructor
  · intro accepted setting
    unfold ofRecord at accepted
    dsimp only at accepted
    -- Settings are accepted when none of the ten checks has a problem.
    split_ifs at accepted with none
    obtain rfl := Except.ok.inj accepted
    simp only [List.isEmpty_iff, List.append_eq_nil_iff, and_assoc] at none
    obtain ⟨beads, beadsDir, todoDir, templateDir, filePattern, preset, strategy, separateClosed,
      closedSubdir, window⟩ := none
    cases setting with
    | beads => exact (Checked.problem_eq_nil _ _).mp beads
    | beadsDir => exact (Checked.problem_eq_nil _ _).mp beadsDir
    | todoDir => exact (Checked.problem_eq_nil _ _).mp todoDir
    | templateDir => exact (Checked.problem_eq_nil _ _).mp templateDir
    | filePattern => exact (Checked.problem_eq_nil _ _).mp filePattern
    | preset => exact (Checked.problem_eq_nil _ _).mp preset
    | strategy => exact (Checked.problem_eq_nil _ _).mp strategy
    | separateClosed => exact (Checked.problem_eq_nil _ _).mp separateClosed
    | closedSubdir => exact (Checked.problem_eq_nil _ _).mp closedSubdir
    | conflictWindow => exact (Checked.problem_eq_nil _ _).mp window
  · intro each
    have beads : field record "beads" checkBool standard.beads = _ := each .beads
    have beadsDir : field record "beads_dir" checkOptional standard.beadsDir = _ := each .beadsDir
    have todoDir : field record "todo_dir" checkText standard.todoDir = _ := each .todoDir
    have templateDir : field record "template_dir" checkText standard.templateDir = _ :=
      each .templateDir
    have filePattern : field record "file_pattern" checkOptional standard.filePattern = _ :=
      each .filePattern
    have preset : field record "preset" checkOptional standard.preset = _ := each .preset
    have strategy : field record "conflict_strategy" checkStrategy standard.strategy = _ :=
      each .strategy
    have separateClosed : field record "separate_closed" checkBool standard.separateClosed = _ :=
      each .separateClosed
    have closedSubdir : field record "closed_subdir" checkText standard.closedSubdir = _ :=
      each .closedSubdir
    have window : field record "conflict_window_seconds" checkInt standard.conflictWindow = _ :=
      each .conflictWindow
    simp only [ofRecord, beads, beadsDir, todoDir, templateDir, filePattern, preset, strategy,
      separateClosed, closedSubdir, window]
    rfl

/-- A record is accepted when all its fields are. -/
theorem exists_ofRecord
    (each : ∀ setting : Setting, ∃ content, setting.field record = .ok content) :
    ∃ settings, ofRecord record = .ok settings := by
  choose content each using each
  exact ⟨Setting.together content, ofRecord_eq_ok.mpr fun setting => by
    rw [each, Setting.get_together]⟩

/-! ## Values that are saved -/

/-- What a file holds of a value; nothing of an absent one. -/
def saved? : Value → Option Value
  | .null => none
  | value => some value

/-- The record of settings in their file. -/
def savedRecord (settings : Settings) : Entries Value :=
  settings.toRecord.filterMap fun entry => (saved? entry.2).map (entry.1, ·)

/-- The record of settings has a key for each of them, in order. -/
theorem keys_toRecord (settings : Settings) :
    settings.toRecord.keys = Setting.all.map Setting.name :=
  rfl

/-- No key is repeated in it. -/
theorem nodup_keys_toRecord (settings : Settings) : settings.toRecord.keys.Nodup := by
  rw [keys_toRecord]
  decide

/-- None is repeated in the part that is saved. -/
theorem nodup_keys_savedRecord (settings : Settings) : settings.savedRecord.keys.Nodup :=
  settings.nodup_keys_toRecord.sublist (Entries.keys_filterMap_sublist (fun _ => saved?) _)

/-- Saved is each setting as it is written, unless that is nothing. -/
theorem get?_savedRecord (settings : Settings) (setting : Setting) :
    settings.savedRecord.get? setting.name = saved? (setting.write (setting.get settings)) := by
  have held : settings.toRecord.get? setting.name =
      some (setting.write (setting.get settings)) := by
    cases setting <;> rfl
  rw [savedRecord, Entries.get?_filterMap (fun _ => saved?) settings.nodup_keys_toRecord, held,
    Option.bind_some]

/-- An optional text that was accepted is not blank. -/
theorem isAllBlank_of_checkOptional {written : Text}
    (accepted : checkOptional value = .ok (some written)) : ¬ Text.isAllBlank written := by
  unfold checkOptional at accepted
  split at accepted
  · cases accepted
  · split_ifs at accepted with blank
    · cases accepted
    · obtain rfl := Option.some.inj (Except.ok.inj accepted)
      exact blank
  · cases accepted

/-- A field that is there is checked. -/
theorem field_of_get? {α : Type} {check : Value → Checked α} {standard : α}
    (held : record.get? name = some value) : field record name check standard = check value := by
  rw [field, held]

/-- A field that is absent has its standard value. -/
theorem field_of_absent {α : Type} {check : Value → Checked α} {standard : α}
    (absent : record.get? name = none) : field record name check standard = .ok standard := by
  rw [field, absent]

/-- An optional text is accepted as itself, where it was accepted before. -/
theorem field_saved_optional {content : Option Text}
    (accepted : field before name checkOptional none = .ok content)
    (held : record.get? name = saved? (.ofText? content)) :
    field record name checkOptional none = .ok content := by
  cases content with
  | none => exact field_of_absent held
  | some written =>
      have present : ¬ Text.isAllBlank written := by
        unfold field at accepted
        split at accepted
        · exact isAllBlank_of_checkOptional accepted
        · cases accepted
      exact (field_of_get? held).trans (congrArg Except.ok (if_neg present))

/-- What was accepted once is accepted as itself when it was saved. -/
theorem field_saved {setting : Setting} {content : setting.Content}
    (accepted : setting.field before = .ok content)
    (held : record.get? setting.name = saved? (setting.write content)) :
    setting.field record = .ok content := by
  cases setting with
  | beads | separateClosed => exact field_of_get? held
  | beadsDir | filePattern | preset => exact field_saved_optional accepted held
  | todoDir | templateDir | closedSubdir => exact field_of_get? held
  | conflictWindow => exact field_of_get? held
  | strategy =>
      refine (field_of_get? held).trans ?_
      cases content <;> rfl

/-! ## The text of the file -/

section Text

open Json

/-- A value is absent, or it is written in ASCII as a text that it is read from. -/
def IsSavable (value : Value) : Prop :=
  value = .null ∨ ∃ written, saved? value = some value ∧ fieldText? value = some written ∧
    IsWritten value written ∧ ∀ char ∈ written, IsPlainAscii char

/-- A truth value can be saved. -/
theorem isSavable_bool (value : Bool) : IsSavable (.bool value) := by
  cases value with
  | false => exact .inr ⟨_, rfl, rfl, isWritten_false, by decide⟩
  | true => exact .inr ⟨_, rfl, rfl, isWritten_true, by decide⟩

/-- A text can be saved. -/
theorem isSavable_text (text : Text) : IsSavable (.text text) :=
  .inr ⟨_, rfl, rfl, isWritten_asciiString text, fun _ listed =>
    isPlainAscii_of_mem_asciiString listed⟩

/-- So can an optional text. -/
theorem isSavable_ofText? (text : Option Text) : IsSavable (.ofText? text) := by
  cases text with
  | none => exact .inl rfl
  | some text => exact isSavable_text text

/-- The characters of numbers are plain. -/
theorem isPlainAscii_of_isNumberChar {char : Char} (number : Text.IsNumberChar char) :
    IsPlainAscii char := by
  rcases number with digit | listed
  · have bounds := Text.toNat_of_isDigit digit
    exact ⟨UInt32.le_iff_toNat_le.mpr (Nat.le_trans (by decide) bounds.1),
      UInt32.lt_iff_toNat_lt.mpr (Nat.lt_of_le_of_lt bounds.2 (by decide))⟩
  · revert char
    decide

/-- A whole number can be saved. -/
theorem isSavable_int (number : Int) : IsSavable (.int number) :=
  .inr ⟨_, rfl, rfl, isWritten_ofInt number, fun char listed =>
    isPlainAscii_of_isNumberChar (Text.isNumberText_ofInt number char listed)⟩

/-- Every setting can be saved. -/
theorem isSavable_toRecord (settings : Settings) :
    ∀ entry ∈ settings.toRecord, IsSavable entry.2 := by
  simp only [toRecord, List.forall_mem_cons]
  exact ⟨isSavable_bool _, isSavable_ofText? _, isSavable_text _, isSavable_text _,
    isSavable_ofText? _, isSavable_ofText? _, isSavable_text _, isSavable_bool _, isSavable_text _,
    isSavable_int _, List.forall_mem_nil _⟩

/-- The lines of a file hold the fields of its record. -/
theorem isLine_fieldLines (settings : Settings) :
    List.Forall₂ IsLine settings.savedRecord settings.fieldLines := by
  have savable := settings.isSavable_toRecord
  unfold savedRecord fieldLines
  generalize settings.toRecord = entries at savable
  induction entries with
  | nil => exact .nil
  | cons entry entries inductionHypothesis =>
      obtain ⟨here, later⟩ := List.forall_mem_cons.mp savable
      obtain ⟨name, value⟩ := entry
      rcases here with (rfl : value = .null) | ⟨written, same, wrote, isWritten, -⟩
      · exact inductionHypothesis later
      · have kept : (saved? value).map (name, ·) = some (name, value) := congrArg _ same
        have shown : (fieldText? value).map (fieldLine name) = some (fieldLine name written) :=
          congrArg _ wrote
        rw [List.filterMap_cons_some (by exact kept), List.filterMap_cons_some (by exact shown)]
        exact .cons ⟨written, rfl, isWritten⟩ (inductionHypothesis later)

/-- The file of settings is loaded as their record. -/
theorem load_toJson (settings : Settings) :
    Json.load settings.toJson = .ok (.record settings.savedRecord) := by
  have present : settings.savedRecord ≠ [] := List.cons_ne_nil _ _
  have shallow : depth settings.toJson ≤ standardNesting := by
    rw [show depth settings.toJson = 1 from depth_lines settings.isLine_fieldLines present]
    decide
  have read : read? settings.toJson = some (.record settings.savedRecord) := by
    rw [← Entries.ofList_of_distinct settings.nodup_keys_savedRecord]
    exact read?_lines settings.isLine_fieldLines present
  rw [Json.load, if_neg (Nat.not_lt.mpr shallow), read]

/-- The lines of saved settings are written in plain characters. -/
theorem isPlainAscii_of_mem_fieldLines {line : Text} (listed : line ∈ settings.fieldLines) :
    ∀ char ∈ line, IsPlainAscii char := by
  obtain ⟨⟨name, value⟩, held, wrote⟩ := List.mem_filterMap.mp listed
  obtain ⟨written, same, rfl⟩ := Option.map_eq_some_iff.mp wrote
  have plain : ∀ char ∈ written, IsPlainAscii char := by
    rcases settings.isSavable_toRecord _ held with rfl | ⟨text, -, wrote, -, plain⟩
    · cases same
    · rwa [Option.some.inj (same.symm.trans wrote)]
  simp only [List.forall_mem_cons, List.forall_mem_append]
  exact ⟨by decide, by decide, ⟨fun _ listed => isPlainAscii_of_mem_asciiString listed, by decide⟩,
    plain⟩

/-- No line of the file ends in anything but a line feed. -/
theorem carriage_notMem_toJson (settings : Settings) : '\r' ∉ settings.toJson := by
  have between : ∀ char ∈ ([',', '\n'] : Text), char ≠ '\r' := by decide
  have each : ∀ line ∈ settings.fieldLines, ∀ char ∈ line, char ≠ '\r' := by
    rintro line listed char held rfl
    exact absurd (isPlainAscii_of_mem_fieldLines listed _ held) (by decide)
  simp only [toJson, List.mem_cons, List.mem_append, not_or]
  exact ⟨by decide, by decide, fun listed => Text.forall_mem_join between each _ listed rfl,
    by decide⟩

end Text

/-- The file of settings that were saved is read as their record, where it may be read. -/
theorem readRecord_of_save (saved : save disk root settings = (.ok (), left))
    (readable : ∀ place, disk.refuses .write place = none → disk.refuses .read place = none) :
    readRecord left (Places.settingsFile root) = .ok settings.savedRecord := by
  obtain ⟨noZero, refuses, place, allowed, walked⟩ := Disk.walk_of_writeText saved
  have there : left.exists? (Places.settingsFile root) = .ok true := by
    rw [Disk.exists?, Disk.holds, Disk.stat, if_neg (by simp [noZero]), walked]
  have written : left.readText (Places.settingsFile root) = .ok settings.toJson := by
    rw [Disk.readText_eq, Disk.readContent, if_neg (by simp [noZero]), walked]
    dsimp only
    rw [refuses, readable place allowed]
    exact congrArg Except.ok (Text.withLineFeeds_of_absent settings.carriage_notMem_toJson)
  rw [readRecord, there]
  simp only [bind, Except.bind, if_true, written, load_toJson]
  rfl

/-! ## Overriding by the environment -/

/-- What the environment overrides is told by the table of variables. -/
theorem overrides_eq (environment : Environment) : overrides environment =
    Setting.variableTable.filterMap fun entry =>
      ((environment.get? entry.2).map Value.text).map (entry.1, ·) := by
  have table : Setting.variableTable =
      overridable.map fun entry => (entry.2, variableHead ++ entry.1) := rfl
  rw [table, List.filterMap_map, overrides]
  congr 1
  funext entry
  rw [Function.comp_apply, Option.map_map]
  rfl

/-- The environment overrides a setting by the text of its variable. -/
theorem get?_overrides (environment : Environment) (setting : Setting) :
    (overrides environment).get? setting.name =
      (environment.get? setting.variableName).map .text := by
  rw [overrides_eq, Entries.get?_filterMap (fun _ name => (environment.get? name).map Value.text)
    Setting.nodup_keys_variableTable, Setting.get?_variableTable, Option.bind_some]

/-- It overrides no setting twice. -/
theorem nodup_keys_overrides (environment : Environment) : (overrides environment).keys.Nodup := by
  rw [overrides_eq]
  exact Setting.nodup_keys_variableTable.sublist
    (Entries.keys_filterMap_sublist (fun _ name => (environment.get? name).map Value.text) _)

/-- A variable of the environment comes before what a record says. -/
theorem get?_overridden (record : Entries Value) (environment : Environment) (setting : Setting) :
    (record.putAll (overrides environment)).get? setting.name =
      ((environment.get? setting.variableName).map .text).or (record.get? setting.name) := by
  rw [Entries.get?_putAll, Entries.get?_reverse (nodup_keys_overrides environment), get?_overrides]

/-- What a variable of the environment sets is accepted. -/
def IsAccepted (environment : Environment) : Prop :=
  ∀ (setting : Setting) (written : Text), environment.get? setting.variableName = some written →
    ∃ content, setting.check (.text written) = .ok content

/-- Settings are the same as others but for the variables of an environment. -/
def IsOverridden (settings loaded : Settings) (environment : Environment) : Prop :=
  ∀ setting : Setting, match environment.get? setting.variableName with
    | some written => setting.check (.text written) = .ok (setting.get loaded)
    | none => setting.get loaded = setting.get settings

/-- Without variables the settings are loaded as they are. -/
theorem eq_of_isOverridden_nil {loaded : Settings} (overridden : settings.IsOverridden loaded []) :
    loaded = settings :=
  congrArg Setting.together (funext overridden)

/-- What is saved with some variables over it is accepted as the settings with these over them. -/
theorem exists_ofRecord_overridden {environment : Environment}
    (accepted : ofRecord before = .ok settings) (valid : IsAccepted environment) : ∃ loaded,
      ofRecord (settings.savedRecord.putAll (overrides environment)) = .ok loaded ∧
        settings.IsOverridden loaded environment := by
  let record := settings.savedRecord.putAll (overrides environment)
  have ruled {setting : Setting} {written : Text}
      (held : environment.get? setting.variableName = some written) :
      setting.field record = setting.check (.text written) := by
    refine field_of_get? ?_
    rw [get?_overridden, held]
    rfl
  have kept {setting : Setting} (absent : environment.get? setting.variableName = none) :
      setting.field record = .ok (setting.get settings) := by
    refine field_saved (ofRecord_eq_ok.mp accepted setting) ?_
    rw [get?_overridden, absent, get?_savedRecord]
    rfl
  have each (setting : Setting) : ∃ content, setting.field record = .ok content := by
    cases held : environment.get? setting.variableName with
    | none => exact ⟨_, kept held⟩
    | some written =>
        rw [ruled held]
        exact valid setting written held
  obtain ⟨loaded, made⟩ := exists_ofRecord each
  refine ⟨loaded, made, fun setting => ?_⟩
  have field := ofRecord_eq_ok.mp made setting
  split
  · next written held => rw [← ruled held, field]
  · next absent => exact (Except.ok.inj ((kept absent).symm.trans field)).symm

/-- Settings that were accepted and saved are read back as they are, without an environment; and in
an environment whose variables are accepted, as the settings that each of these overrides. -/
theorem load_of_save (accepted : ofValue value = .ok settings)
    (saved : save disk root settings = (.ok (), left))
    (readable : ∀ place, disk.refuses .write place = none → disk.refuses .read place = none) :
    load left root [] = .ok settings ∧ ∀ environment, IsAccepted environment →
      ∃ loaded, load left root environment = .ok loaded ∧
        settings.IsOverridden loaded environment := by
  obtain ⟨before, accepted⟩ : ∃ before, ofRecord before = .ok settings := by
    unfold ofValue at accepted
    split at accepted
    · exact ⟨_, accepted⟩
    · cases accepted
  have loads (environment : Environment) (valid : IsAccepted environment) :
      ∃ loaded, load left root environment = .ok loaded ∧
        settings.IsOverridden loaded environment := by
    obtain ⟨loaded, made, overridden⟩ := exists_ofRecord_overridden accepted valid
    refine ⟨loaded, ?_, overridden⟩
    rw [load, readRecord_of_save saved readable]
    simp only [bind, Except.bind, made]
  refine ⟨?_, loads⟩
  obtain ⟨loaded, made, overridden⟩ := loads [] fun _ _ impossible => nomatch impossible
  rw [made, eq_of_isOverridden_nil overridden]

/-- A disk with an empty project. -/
def plainDisk : Disk where
  nodes := [(["p"], .directory)]

/-- Settings with characters that a file escapes, and with loose values. -/
def looseValue : Value :=
  .record [("preset", .text "a😀\"\r\u0085"), ("conflict_strategy", .text " FILE_wins "),
    ("conflict_window_seconds", .text "-1_000"), ("file_pattern", .text " "), ("beads", .int 0)]

/-- Escaped characters come back from the file, and a variable overrides what it names. -/
theorem load_looseValue : ∃ settings left loaded,
    ofValue looseValue = .ok settings ∧ settings.preset = some "a😀\"\r\u0085" ∧
    save plainDisk ⟨.root, ["p"]⟩ settings = (.ok (), left) ∧
    load left ⟨.root, ["p"]⟩ [] = .ok settings ∧
    load left ⟨.root, ["p"]⟩ [("TODOMD_BEADS", "On")] = .ok loaded ∧
    settings.IsOverridden loaded [("TODOMD_BEADS", "On")] := by
  let settings : Settings := { standard with
    beads := false, preset := some "a😀\"\r\u0085", strategy := .fileWins, conflictWindow := -1000 }
  let left := (save plainDisk ⟨.root, ["p"]⟩ settings).2
  have accepted : ofValue looseValue = .ok settings := by decide +kernel
  have saved : save plainDisk ⟨.root, ["p"]⟩ settings = (.ok (), left) := Prod.ext rfl rfl
  have valid : IsAccepted [("TODOMD_BEADS", "On")] := by
    intro setting written held
    cases setting with
    | beads =>
        obtain rfl : ("On" : Text) = written := Option.some.inj held
        exact ⟨true, rfl⟩
    | _ => cases held
  obtain ⟨same, overridden⟩ := load_of_save accepted saved fun _ _ => rfl
  obtain ⟨loaded, made, ruled⟩ := overridden _ valid
  exact ⟨settings, left, loaded, accepted, rfl, saved, same, made, ruled⟩

end Settings

end Issuebook
