import Issuebook.Fault
import Issuebook.Number.Binary64
import Issuebook.Reconciliation.Facet
import Issuebook.Time.Calendar
import Issuebook.Time.Reading

/-!
# Changes

What differs between the copies in the store and the copies in files, identifier by
identifier. A copy on one side alone is new or deleted; of two copies that differ one is
newer, or both changed and they are in conflict.
-/

/-!
## Windows

The span of time within which two changes are in conflict, in millionths of a second. A
fraction of a second is rounded to the nearest millionth, and of two equally near ones to the
even one. No window is longer than the longest span.
-/

namespace Issuebook

/-- A span of time in millionths of a second; a negative one holds no two changes. -/
abbrev Window := Int

namespace Window

/-- The longest span in days. -/
def dayLimit : Int := 999999999

/-- The millionths in a second. -/
def secondMicros : Nat := 1000000

/-- A day. -/
def standard : Window := Stamp.dayMicros

/-- A span of millionths of a second; one beyond the longest is a fault. -/
def ofMicros (micros : Int) : Except Fault Window :=
  let days := Int.fdiv micros Stamp.dayMicros
  if days < -dayLimit ∨ dayLimit < days then .error .outOfRange else .ok micros

/-- A span of whole seconds. -/
def ofSeconds (seconds : Int) : Except Fault Window :=
  ofMicros (seconds * secondMicros)

/-- A finite number that is not negative, rounded to the nearest whole number. -/
def nearest : Binary64 → Nat
  | .finite _ mantissa exponent => Binary64.scaleToEven mantissa 1 (-exponent)
  | _ => 0

/-- The millionths in a number of seconds that is not negative. The fraction of a second is
multiplied as a floating-point number. -/
def microsOf (mantissa : Nat) (exponent : Int) : Nat :=
  if 0 ≤ exponent then mantissa * Power.two exponent.toNat * secondMicros
  else
    let unit := Power.two (-exponent).toNat
    mantissa / unit * secondMicros +
      nearest (Binary64.ofRatio false (mantissa % unit * secondMicros) unit)

/-- A span of seconds that may have a fraction. -/
def ofFloat : Binary64 → Except Fault Window
  | .nan => .error .notANumber
  | .infinite _ => .error .outOfRange
  | .finite negative mantissa exponent =>
    let micros : Int := microsOf mantissa exponent
    ofMicros (if negative then -micros else micros)

end Window

end Issuebook

namespace Issuebook

/-- An issue that changed on both sides. -/
structure Conflict where
  /-- The copy in the store. -/
  beads : Issue
  /-- The copy in the file. -/
  file : Issue
  /-- The side whose copy stays. -/
  resolution : Side
  deriving Repr, DecidableEq

namespace Conflict

/-- The identifier of both copies. -/
def id (conflict : Conflict) : Text :=
  conflict.file.id

/-- The facets in which the copies differ. -/
def facets (conflict : Conflict) : List Facet :=
  Facet.differing conflict.beads conflict.file

end Conflict

/-- The differences between both collections. -/
structure Changes where
  /-- Copies from files for the store: newer ones, and those the store has not. -/
  toBeads : List Issue
  /-- Copies from the store for files: newer ones, and those without a file. -/
  toFiles : List Issue
  /-- The issues that changed on both sides. -/
  conflicts : List Conflict
  /-- The identifiers that only the store has. -/
  beadsOnly : List Text
  /-- The identifiers that only files have. -/
  filesOnly : List Text
  deriving Repr, DecidableEq

namespace Issue

/-- The last issue with an identifier. -/
def lastWithId? (id : Text) (issues : List Issue) : Option Issue :=
  issues.reverse.find? fun issue => issue.id = id

/-- Whether an issue with an identifier is among others. -/
def hasId (id : Text) (issues : List Issue) : Bool :=
  issues.any fun issue => issue.id = id

end Issue

namespace Changes

/-- The instant of a time stamp; without one it is the beginning of 1970. -/
def instantOf (stamp : Option Stamp) : Int :=
  (stamp.map Stamp.instant).getD 0

/-- The side with the later time stamp, when they differ. -/
def newer (beads file : Option Stamp) : Option Side :=
  if instantOf beads = instantOf file then none
  else if instantOf file < instantOf beads then some .beads
  else some .file

/-- Whether a copy changed after a point in time. -/
def changedAfter (point : Stamp) (changed : Option Stamp) : Bool :=
  changed.any fun stamp => point.instant < stamp.instant

/-- Whether two changes lie within a window of each other. -/
def isWithinWindow (window : Window) (beads file : Option Stamp) : Bool :=
  match beads, file with
  | some beads, some file => ((beads.instant - file.instant).natAbs : Int) < window
  | _, _ => false

/-- The side whose copy is newer, or none for a conflict. Where the last agreement is known,
the side that changed since is newer; else the times have to lie apart. -/
def winner (lastAgreed : Option Stamp) (window : Window) (beads file : Option Stamp) :
    Option Side :=
  match lastAgreed with
  | some point =>
    match changedAfter point beads, changedAfter point file with
    | true, true => none
    | true, false => some .beads
    | false, true => some .file
    | false, false => newer beads file
  | none =>
    if (beads.isNone && file.isNone) || isWithinWindow window beads file then none
    else newer beads file

/-- When an issue last changed. -/
def changeTime (issue : Issue) : Option Stamp :=
  Stamp.ofOptional? issue.updatedAt

/-- The side whose copy stays in a conflict. -/
def resolve (strategy : Strategy) (beads file : Issue) : Side :=
  match strategy with
  | .beadsWins => .beads
  | .fileWins => .file
  | .newestWins => (newer (changeTime beads) (changeTime file)).getD .beads

/-- What becomes of a copy in a file. -/
inductive Verdict where
  /-- The store has no copy. -/
  | fileOnly
  /-- Both copies agree. -/
  | agreed
  /-- The copy in the file is newer. -/
  | fileNewer
  /-- The copy in the store is newer. -/
  | beadsNewer (beads : Issue)
  /-- Both changed. -/
  | conflicting (beads : Issue)
  deriving Repr, DecidableEq

/-- What becomes of a copy in a file beside the issues of the store. -/
def judge (beadsIssues : List Issue) (lastAgreed : Option Stamp) (window : Window)
    (file : Issue) : Verdict :=
  match Issue.lastWithId? file.id beadsIssues with
  | none => .fileOnly
  | some beads =>
    if (Facet.differing beads file).isEmpty then .agreed
    else
      match winner lastAgreed window (changeTime beads) (changeTime file) with
      | some .beads => .beadsNewer beads
      | some .file => .fileNewer
      | none => .conflicting beads

/-- The copy that a verdict sends to the store. -/
def pushed? (file : Issue) : Verdict → Option Issue
  | .fileOnly | .fileNewer => some file
  | _ => none

/-- The copy that a verdict sends to a file. -/
def pulled? : Verdict → Option Issue
  | .beadsNewer beads => some beads
  | _ => none

/-- The conflict of a verdict. -/
def conflict? (strategy : Strategy) (file : Issue) : Verdict → Option Conflict
  | .conflicting beads => some ⟨beads, file, resolve strategy beads file⟩
  | _ => none

/-- The differences between the issues of the store and those in files. -/
def between (beadsIssues fileIssues : List Issue) (strategy : Strategy)
    (lastAgreedAt : Option Text) (window : Window) : Changes :=
  let lastAgreed := Stamp.ofOptional? lastAgreedAt
  let verdicts := fileIssues.map fun file => (file, judge beadsIssues lastAgreed window file)
  let unfiled := beadsIssues.filter fun beads => !Issue.hasId beads.id fileIssues
  { toBeads := verdicts.filterMap fun (file, verdict) => pushed? file verdict
    toFiles := (verdicts.filterMap fun (_, verdict) => pulled? verdict) ++ unfiled
    conflicts := verdicts.filterMap fun (file, verdict) => conflict? strategy file verdict
    beadsOnly := unfiled.map Issue.id
    filesOnly := (verdicts.filter fun (_, verdict) => verdict == .fileOnly).map fun (file, _) =>
      file.id }

end Changes

end Issuebook
