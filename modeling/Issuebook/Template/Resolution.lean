import Issuebook.Disk.Files
import Issuebook.Journal
import Issuebook.Places

/-!
# Choosing a template

A template is looked for in a custom file, in the file of a preset, among the built-in
templates by name, and is the minimal one when all else fails. A file that the file system
refuses counts as absent. Every try is recorded.
-/

namespace Issuebook

/-- Where templates are looked for. -/
structure TemplateSource where
  /-- The directory of templates. -/
  directory : Path
  /-- The name of a preset. -/
  preset : Option Text
  deriving Repr, DecidableEq, Inhabited

/-- The template that was chosen. -/
structure Resolution where
  /-- Its text with directives. -/
  text : Text
  /-- The name of the place it comes from. -/
  origin : Text
  /-- The tries, in order. -/
  attempts : List Text
  deriving Repr, DecidableEq, Inhabited

namespace Resolution

/-- A try at a place: its text, when there is one, and how it went. -/
structure Attempt where
  /-- The template found there. -/
  text : Option Text
  /-- The name of the place. -/
  origin : Text
  /-- How the try went. -/
  report : Text
  deriving Repr, DecidableEq, Inhabited

/-- A try at a file. -/
def tryFile (disk : Disk) (origin : Text) (path : Path) : Except Fault Attempt :=
  let report (ending : Text) : Text := origin ++ ':' :: path.toText ++ (": " : Text) ++ ending
  match disk.readText path with
  | .ok text => .ok ⟨some text, origin, report "found"⟩
  | .error (.refused .absent _) => .ok ⟨none, origin, report "missing"⟩
  | .error (.refused refusal place) =>
    .ok ⟨none, origin, report (Fault.message (.refused refusal place))⟩
  | .error fault => .error fault

/-- The name of the place of a preset file. -/
def presetFileOrigin : Text := "preset_file"

/-- A try at the file of a preset. -/
def tryPresetFile (disk : Disk) (source : TemplateSource) : Except Fault Attempt :=
  match source.preset with
  | none | some [] =>
    .ok ⟨none, presetFileOrigin, presetFileOrigin ++ (": no preset configured" : Text)⟩
  | some name => tryFile disk presetFileOrigin (Places.presetFile source.directory name)

/-- The notice that a try came to nothing. -/
def missNotice (attempt : Attempt) : Notice :=
  ⟨.debug, ("template lookup missed: " : Text) ++ attempt.report⟩

/-- The built-in template for the name of a preset, with the notice that no template has that
name if it is so. -/
def builtin (kind : TemplateKind) (preset : Option Text) : Noted Attempt :=
  let name := Preset.key (preset.getD [])
  match (Preset.table kind).get? name with
  | some text =>
    ⟨[], some text, "builtin_preset",
      ("builtin_preset:" : Text) ++ kind.name ++ ':' :: name ++ (": found" : Text)⟩
  | none =>
    ⟨if name.isEmpty then []
      else [⟨.debug, ("unknown preset " : Text) ++ Text.quoted name ++
        ("; using the minimal template" : Text)⟩],
      some (Preset.fallback kind), "builtin",
      ("builtin:" : Text) ++ kind.name ++ (": found" : Text)⟩

/-- The choice after tries that came to nothing. -/
def fallBack (kind : TemplateKind) (source : TemplateSource) (missed : List Attempt) :
    Noted (Except Fault Resolution) :=
  let last := builtin kind source.preset
  ⟨missed.map missNotice ++ last.notices,
    .ok ⟨last.value.text.getD [], last.value.origin,
      (missed ++ [last.value]).map Attempt.report⟩⟩

/-- The choice at a try, or what to do after it came to nothing. -/
def settle (missed : List Attempt) (attempt : Except Fault Attempt)
    (next : List Attempt → Noted (Except Fault Resolution)) :
    Noted (Except Fault Resolution) :=
  match attempt with
  | .error fault => ⟨missed.map missNotice, .error fault⟩
  | .ok attempt =>
    match attempt.text with
    | some text =>
      ⟨missed.map missNotice,
        .ok ⟨text, attempt.origin, (missed ++ [attempt]).map Attempt.report⟩⟩
    | none => next (missed ++ [attempt])

/-- The template of a kind. -/
def choose (disk : Disk) (kind : TemplateKind) (source : TemplateSource) :
    Noted (Except Fault Resolution) :=
  settle [] (tryFile disk "custom" (Places.customTemplate source.directory kind)) fun missed =>
    settle missed (tryPresetFile disk source) (fallBack kind source)

end Resolution

end Issuebook
