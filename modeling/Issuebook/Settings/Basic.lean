import Issuebook.Disk.Path
import Issuebook.Places
import Issuebook.Strategy
import Issuebook.Template.Resolution
import Issuebook.Value.Basic

/-!
# Settings

What a project chooses for itself.
-/

namespace Issuebook

/-- The settings of a project. -/
structure Settings where
  /-- Whether the store takes part. -/
  beads : Bool
  /-- The directory of the store, if it is not the usual one. -/
  beadsDir : Option Text
  /-- The directory of issue files. -/
  todoDir : Text
  /-- The directory of templates. -/
  templateDir : Text
  /-- The filename pattern; without one the template decides. -/
  filePattern : Option Text
  /-- The name of a template preset. -/
  preset : Option Text
  /-- What happens to conflicts. -/
  strategy : Strategy
  /-- Whether closed issues have a directory of their own. -/
  separateClosed : Bool
  /-- The directory of closed issues below that of all issues. -/
  closedSubdir : Text
  /-- Changes within so many seconds are in conflict. -/
  conflictWindow : Int
  deriving Repr, DecidableEq

namespace Settings

/-- The settings of a project that chooses nothing. -/
def standard : Settings where
  beads := true
  beadsDir := none
  todoDir := Places.todoName
  templateDir := Places.templateName
  filePattern := none
  preset := none
  strategy := .beadsWins
  separateClosed := false
  closedSubdir := "closed"
  conflictWindow := 86400

/-- The directory of issue files. -/
def todoPath (settings : Settings) (root : Path) : Path :=
  Places.todoDirectory root settings.todoDir

/-- The directory of the store. -/
def beadsPath (settings : Settings) (root : Path) : Path :=
  Places.beadsDirectory root settings.beadsDir

/-- Where the templates of the project are. -/
def templateSource (settings : Settings) (root : Path) : TemplateSource :=
  ⟨Places.templateDirectory root settings.templateDir, settings.preset⟩

/-- The settings under their written names. -/
def toRecord (settings : Settings) : Entries Value :=
  [("beads", .bool settings.beads), ("beads_dir", .ofText? settings.beadsDir),
   ("todo_dir", .text settings.todoDir), ("template_dir", .text settings.templateDir),
   ("file_pattern", .ofText? settings.filePattern), ("preset", .ofText? settings.preset),
   ("conflict_strategy", .text settings.strategy.name),
   ("separate_closed", .bool settings.separateClosed),
   ("closed_subdir", .text settings.closedSubdir),
   ("conflict_window_seconds", .int settings.conflictWindow)]

end Settings

end Issuebook
