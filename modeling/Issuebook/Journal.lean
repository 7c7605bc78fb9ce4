import Issuebook.Text.Basic
import Issuebook.Text.Case
import Issuebook.Text.Printable
import Issuebook.Fault

/-!
# The journal

Operations give notices, each with a level. A journal prints those at its own level and
above: warnings and errors to the error stream, everything else to the output.
-/

namespace Issuebook

/-- How much a notice matters, the least first. -/
inductive Level where
  /-- Every step. -/
  | trace
  /-- For whoever looks for a mistake. -/
  | debug
  /-- What goes on. -/
  | info
  /-- What is done. -/
  | success
  /-- What is passed over. -/
  | warning
  /-- What fails. -/
  | error
  deriving Repr, DecidableEq, Inhabited

namespace Level

/-- The written name of a level. -/
def name : Level → Text
  | .trace => "trace"
  | .debug => "debug"
  | .info => "info"
  | .success => "success"
  | .warning => "warning"
  | .error => "error"

/-- Every level, the least first. -/
def all : List Level :=
  [.trace, .debug, .info, .success, .warning, .error]

/-- The weight of a level. -/
def weight : Level → Nat
  | .trace => 10
  | .debug => 20
  | .info => 30
  | .success => 35
  | .warning => 40
  | .error => 50

/-- The level of a name in any case. -/
def ofName? (written : Text) : Option Level :=
  let key := Text.lower (Text.trim written)
  if key = ("warn" : Text) then some .warning else all.find? fun level => level.name = key

/-- The level that a setting asks for; without a known name notices of what goes on and
above are printed. -/
def ofSetting (setting : Option Text) : Level :=
  (setting.bind ofName?).getD .info

/-- Whether notices of a level are printed where `least` is the least level. -/
def isPrinted (least level : Level) : Bool :=
  least.weight ≤ level.weight

/-- Whether notices of a level go to the error stream. -/
def isAlarm (level : Level) : Bool :=
  Level.weight .warning ≤ level.weight

end Level

/-- A message with its level. -/
structure Notice where
  /-- How much it matters. -/
  level : Level
  /-- The message. -/
  message : Text
  deriving Repr, DecidableEq, Inhabited

namespace Notice

/-- Whether a terminal acts on a character instead of showing it. -/
def isControl (char : Char) : Bool :=
  let code := char.val.toNat
  code = 7 ∨ code = 8 ∨ code = 11 ∨ code = 12 ∨ code = 13

/-- The columns between tab stops. -/
def tabWidth : Nat := 8

/-- A line whose pieces stand between tabs, with each tab widened to the next tab stop: one
space, and as many more as are missing. The first piece begins at `column`. -/
def widenTabsFrom (column : Nat) : (pieces : List Text) → Text
  | [] => []
  | [piece] => piece
  | piece :: next :: pieces =>
    let behind := column + Text.columns (piece ++ [' '])
    let missing := (tabWidth - behind % tabWidth) % tabWidth
    piece ++ List.replicate (missing + 1) ' ' ++
      widenTabsFrom (behind + missing) (next :: pieces)

/-- A text with the tabs of each of its lines widened. -/
def widenTabs (text : Text) : Text :=
  Text.join ['\n'] ((Text.splitOn '\n' text).map fun line =>
    widenTabsFrom 0 (Text.splitOn '\t' line))

/-- The line that a message prints. -/
def printed (message : Text) : Text :=
  widenTabs (message.filter fun char => !isControl char) ++ ['\n']

/-- What a notice prints to the output where `least` is the least level. -/
def output (least : Level) (notice : Notice) : Text :=
  if least.isPrinted notice.level && !notice.level.isAlarm then printed notice.message else []

/-- What a notice prints to the error stream where `least` is the least level. -/
def errors (least : Level) (notice : Notice) : Text :=
  if least.isPrinted notice.level && notice.level.isAlarm then printed notice.message else []

end Notice

/-- A journal. Until it is given a level, the setting of the environment counts. -/
structure Journal where
  /-- The level it was given. -/
  given : Option Level := none
  /-- The setting of the environment. -/
  setting : Option Text := none
  /-- Whether it prints without colours. -/
  isPlain : Bool := false
  deriving Repr, DecidableEq, Inhabited

namespace Journal

/-- The level from which notices are printed. -/
def least (journal : Journal) : Level :=
  journal.given.getD (Level.ofSetting journal.setting)

/-- The journal with a level given by name; without a known name it is the usual one. -/
def give (name : Option Text) (journal : Journal) : Journal :=
  { journal with given := some (Level.ofSetting name) }

/-- The journal in an environment, with no level given. -/
def within (setting : Option Text) (journal : Journal) : Journal :=
  { journal with given := none, setting := setting }

/-- The levels whose notices are printed. -/
def printedLevels (journal : Journal) : List Level :=
  Level.all.filter journal.least.isPrinted

end Journal

/-- A value with the notices given on the way to it. -/
structure Noted (α : Type) where
  /-- The notices in order. -/
  notices : List Notice
  /-- The value. -/
  value : α

end Issuebook

/-!
## Batches

Items that are read one by one. A fault that concerns its item alone is noted and the item
passed over; any other fault ends the batch.
-/

namespace Issuebook.Batch

variable {α β : Type}

/-- The items that could be read, with what was read of each. `skips` tells which faults
concern their item alone, and `notice` what is noted about them. -/
def collect (skips : Fault → Bool) (notice : α → Fault → Notice) :
    List (α × Except Fault β) → Noted (Except Fault (List (α × β)))
  | [] => ⟨[], .ok []⟩
  | (item, .ok value) :: rest =>
    let later := collect skips notice rest
    ⟨later.notices, later.value.map fun read => (item, value) :: read⟩
  | (item, .error fault) :: rest =>
    if skips fault then
      let later := collect skips notice rest
      ⟨notice item fault :: later.notices, later.value⟩
    else ⟨[], .error fault⟩

end Issuebook.Batch
