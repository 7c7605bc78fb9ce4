import Issuebook.Text.Basic

/-!
# Conflict strategies

Which copy of an issue stays when both sides changed it.
-/

namespace Issuebook

/-- A rule for conflicts. -/
inductive Strategy where
  /-- The copy in the store stays. -/
  | beadsWins
  /-- The copy in the file stays. -/
  | fileWins
  /-- The copy that changed last stays. -/
  | newestWins
  deriving Repr, DecidableEq, Inhabited

namespace Strategy

/-- The written name of a strategy. -/
def name : Strategy → Text
  | .beadsWins => "beads-wins"
  | .fileWins => "file-wins"
  | .newestWins => "newest-wins"

/-- Every strategy. -/
def all : List Strategy :=
  [.beadsWins, .fileWins, .newestWins]

/-- The names of the strategies. -/
def names : List Text :=
  all.map name

/-- The strategy of a written name. -/
def ofName? (written : Text) : Option Strategy :=
  all.find? fun strategy => strategy.name = written

end Strategy

end Issuebook
