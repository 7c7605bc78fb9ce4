import Issuebook.Disk.Path
import Issuebook.Entries
import Issuebook.Fault
import Issuebook.Template.Preset
import Issuebook.Text.Basic
import Issuebook.Text.Shape

/-!
# Places of a project

Where a project keeps its issues, its store, its templates and its settings.
-/

namespace Issuebook.Places

/-- The name of the directory of issue files. -/
def todoName : Text := ".todo"

/-- The name of the directory of the store. -/
def beadsName : Text := ".beads"

/-- The name of the directory of templates. -/
def templateName : Text := ".mdx"

/-- The name of the settings file. -/
def settingsName : Text := "todo.config.json"

/-- The ending of template files. -/
def templateEnding : Text := ".mdx"

/-- The directory of the store, or another one that is given instead. -/
def beadsDirectory (root : Path) (override : Option Text) : Path :=
  root.join (override.getD beadsName)

/-- The log of a store. -/
def issueLog (store : Path) : Path :=
  store.child "issues.jsonl"

/-- The directory of issue files by its name. -/
def todoDirectory (root : Path) (name : Text) : Path :=
  root.join name

/-- The directory of templates by its name. -/
def templateDirectory (root : Path) (name : Text) : Path :=
  root.join name

/-- The file of the custom template of a kind. -/
def customTemplate (directory : Path) : TemplateKind → Path
  | .issue => directory.child "[Issue].mdx"
  | .todo => directory.child "TODO.mdx"

/-- The file of a named template. -/
def presetFile (directory : Path) (name : Text) : Path :=
  (directory.child "presets").child (Text.safeName name ++ templateEnding)

/-- The settings file. -/
def settingsFile (root : Path) : Path :=
  root.child settingsName

end Issuebook.Places

/-!
## Home directories

A path may begin with a tilde for the home directory of its reader, or with a tilde and the
name of a user for that user's. The reader's home is the one that a variable names; the homes
of all users are in the list of accounts. A path whose home nobody knows is a fault.
-/

namespace Issuebook

/-- The home directories of users by name. -/
abbrev Homes := Entries Text

namespace Homes

/-- The user and the home directory that a line of the list of accounts names. -/
def ofLine? (line : Text) : Option (Text × Text) :=
  match Text.splitOn ':' line with
  | name :: _ :: _ :: _ :: _ :: home :: _ => some (name, home)
  | _ => none

/-- The home directories that the list of accounts names. -/
def ofAccounts (accounts : Text) : Homes :=
  (Text.lines accounts).filterMap ofLine?

/-- The home directories of a system without accounts of its own. -/
def usual : Homes :=
  [("root", "/root"), ("daemon", "/usr/sbin"), ("bin", "/bin"), ("sys", "/dev"),
   ("sync", "/bin"), ("games", "/usr/games"), ("man", "/var/cache/man"),
   ("lp", "/var/spool/lpd"), ("mail", "/var/mail"), ("news", "/var/spool/news"),
   ("uucp", "/var/spool/uucp"), ("proxy", "/bin"), ("www-data", "/var/www"),
   ("backup", "/var/backups"), ("list", "/var/list"), ("irc", "/run/ircd"),
   ("_apt", "/nonexistent"), ("nobody", "/nonexistent")]

/-- The directory that a written home names: slashes at its end do not count, and an empty
one stands for the root. -/
def directory (written : Text) : Text :=
  let bare := Text.trimEndBy (· = '/') written
  if bare.isEmpty then ['/'] else bare

/-- The home directory behind a tilde and a name; `own` is that of the reader. -/
def find? (homes : Homes) (own : Option Text) (name : Text) : Option Text :=
  (if name.isEmpty then own else homes.get? name).map directory

/-- A path with the tilde at its front replaced by the home directory. -/
def expand (homes : Homes) (own : Option Text) (path : Path) : Except Fault Path :=
  match path.anchor, path.segments with
  | .none, ('~' :: name) :: rest =>
    if name.contains '\x00' then .error .zeroInPath
    else match find? homes own name with
    | some home =>
      if home.head? = some '~' then .error .unknownHome
      else .ok ((Path.ofText home).append ⟨.none, rest⟩)
    | none => .error .unknownHome
  | _, _ => .ok path

end Homes

end Issuebook
