import Issuebook.Book.Loading
import Issuebook.Entries
import Issuebook.Issue.Basic
import Issuebook.Reconciliation.Changes
import Issuebook.Settings.Basic
import Issuebook.Store.Log
import Issuebook.Template.Rendering
import Issuebook.Text.Basic
import Issuebook.Time.Reading
import Issuebook.Value.Basic

/-!
# Rollups

A rollup lists the issues in progress, then the open ones kind by kind, and the issues that
were closed last.

The rollup of a project: the issues of both sides, merged and shown by the template for
rollups.
-/

namespace Issuebook

/-- What a rollup shows of closed issues. -/
structure RollupOptions where
  /-- Whether closed issues are shown. -/
  showsClosed : Bool := true
  /-- How many closed issues are shown; a negative number counts those left out at the end. -/
  closedLimit : Int := 10
  deriving Repr, DecidableEq, Inhabited

namespace Rollup

/-- The title of a rollup. -/
def title : Text := "TODO"

/-- The kinds in the order of their groups. -/
def kindOrder : List Kind :=
  [.epic, .bug, .feature, .task]

/-- The heading of the group of a kind. -/
def kindHeading : Kind → Text
  | .epic => "Epics"
  | .bug => "Bugs"
  | .feature => "Features"
  | .task => "Tasks"

/-- The number of characters of a closing time that are shown. -/
def closingLength : Nat := 10

/-- The identifier and the title of an issue behind its box. -/
def itemHead (isChecked : Bool) (issue : Issue) : Text :=
  ("- " : Text) ++ (if isChecked then "[x]" else "[ ]" : Text) ++ (" [#" : Text) ++ issue.id ++
    ("] " : Text) ++ issue.title ++ (" - *" : Text)

/-- What is known about an issue besides its title. -/
def itemDetails (issue : Issue) : Text :=
  let assignee := Issue.textOrEmpty issue.assignee
  Text.join ", "
      ([issue.kind.name, 'P' :: Text.ofNat issue.priority.val] ++
        (if assignee.isEmpty then [] else ['@' :: assignee])) ++
    (Issue.itemsOrNone issue.labels).flatMap fun label => ' ' :: '#' :: label

/-- The line of an issue. A checked one shows when it was closed, if that is known. -/
def item (isChecked : Bool) (issue : Issue) : Text :=
  let closed := Issue.textOrEmpty issue.closedAt
  let tail :=
    if isChecked && !closed.isEmpty then
      ("closed " : Text) ++ (Text.trim closed).take closingLength
    else itemDetails issue
  itemHead isChecked issue ++ tail ++ ['*']

/-- Issues compare by priority, then by identifier. -/
def urgencyLe (one other : Issue) : Bool :=
  if one.priority = other.priority then Text.le one.id other.id
  else one.priority < other.priority

/-- When an issue was closed, in seconds since 1970; zero when that is not known. -/
def closingSeconds (issue : Issue) : Binary64 :=
  ((Stamp.ofOptional? issue.closedAt).map Stamp.seconds).getD Binary64.zero

/-- Issues compare by closing time, the latest first. -/
def recencyLe (one other : Issue) : Bool :=
  !(closingSeconds one).lessThan (closingSeconds other)

/-- The issues that nobody works on yet. -/
def isPending (issue : Issue) : Bool :=
  issue.status == .opened || issue.status == .blocked

/-- The first items up to a limit, or all but the last ones for a negative limit. -/
def upTo {α : Type} (limit : Int) (items : List α) : List α :=
  if 0 ≤ limit then items.take limit.toNat else items.take (items.length - limit.natAbs)

/-- A heading, its items and an empty line. -/
def titled (heading : Text) (items : List Text) : List Text :=
  [heading, []] ++ items ++ [[]]

/-- The section of the issues in progress. -/
def progressLines (issues : List Issue) : List Text :=
  let active := issues.filter fun issue => issue.status == .inProgress
  if active.isEmpty then []
  else titled "## In Progress" ((active.mergeSort urgencyLe).map (item false))

/-- The group of the pending issues of a kind. -/
def kindLines (pending : List Issue) (kind : Kind) : List Text :=
  let group := pending.filter fun issue => issue.kind == kind
  if group.isEmpty then []
  else titled (("### " : Text) ++ kindHeading kind) ((group.mergeSort urgencyLe).map (item false))

/-- The section of the pending issues. -/
def pendingLines (issues : List Issue) : List Text :=
  let pending := issues.filter isPending
  if pending.isEmpty then []
  else [("## Open" : Text), []] ++ kindOrder.flatMap (kindLines pending)

/-- The section of the issues that were closed last. -/
def closedLines (options : RollupOptions) (issues : List Issue) : List Text :=
  let closed := issues.filter fun issue => issue.status == .closed
  if options.showsClosed && !closed.isEmpty then
    titled "## Recently Completed"
      ((upTo options.closedLimit (closed.mergeSort recencyLe)).map (item true))
  else []

/-- The sections of a rollup. -/
def sections (options : RollupOptions) (issues : List Issue) : Text :=
  Text.trim <| Text.unlines <|
    progressLines issues ++ pendingLines issues ++ closedLines options issues

/-- A rollup of its title and its sections. -/
def document (options : RollupOptions) (issues : List Issue) : Text :=
  Text.trim (("# " : Text) ++ title ++ ['\n', '\n'] ++ sections options issues)

/-- The number of issues that satisfy a test, as a value. -/
def countValue (test : Issue → Bool) (issues : List Issue) : Value :=
  .int (issues.countP test)

/-- What a template can show of a rollup. -/
def context (now : Stamp) (options : RollupOptions) (issues : List Issue) : Value :=
  .record [("todo", .record
    [("title", .text title), ("sections", .text (sections options issues)),
     ("count", countValue (fun _ => true) issues), ("open", countValue isPending issues),
     ("in_progress", countValue (fun issue => issue.status == .inProgress) issues),
     ("closed", countValue (fun issue => issue.status == .closed) issues),
     ("generated", .text (Stamp.toZuluText now.date now.clock))])]

end Rollup

end Issuebook

/-!
## Merging both sides

One copy of each issue: those from files in order, then those that only the store has. The
strategy decides between two copies, and the store's copy stays when times do not.
-/

namespace Issuebook.Rollup

/-- Whether the store's copy changed no earlier than the file's, or the file's copy has no
time. -/
def isBeadsNewest (beads file : Issue) : Bool :=
  match Changes.changeTime file with
  | none => true
  | some fileTime =>
    (Changes.changeTime beads).any fun beadsTime => fileTime.instant ≤ beadsTime.instant

/-- Whether the store's copy replaces the file's. -/
def prefersBeads (strategy : Strategy) (beads file : Issue) : Bool :=
  match strategy with
  | .beadsWins => true
  | .fileWins => false
  | .newestWins => isBeadsNewest beads file

/-- The collection with one copy from the store taken in. -/
def takeIn (strategy : Strategy) (merged : Entries Issue) (beads : Issue) : Entries Issue :=
  match merged.get? beads.id with
  | some file => if prefersBeads strategy beads file then merged.put beads.id beads else merged
  | none => merged.put beads.id beads

/-- One copy of each issue of both sides. -/
def merge (strategy : Strategy) (beadsIssues fileIssues : List Issue) : List Issue :=
  let files := Entries.ofList (fileIssues.map fun issue => (issue.id, issue))
  (beadsIssues.foldl (takeIn strategy) files).map Prod.snd

/-! ## Compiling -/

/-- A compiled rollup. -/
structure Compilation where
  /-- Its text. -/
  output : Text
  /-- The issues it shows. -/
  issues : List Issue
  deriving Repr, DecidableEq

/-- The issues of the store, none where the store takes no part. -/
def storeIssues (disk : Disk) (root : Path) (settings : Settings) :
    Noted (Except Fault (List Issue)) :=
  if settings.beads then StoreLog.load disk (settings.beadsPath root) else ⟨[], .ok []⟩

/-- The merged issues of both sides. -/
def loadMerged (disk : Disk) (root : Path) (settings : Settings) :
    Noted (Except Fault (List Issue)) :=
  let beads := storeIssues disk root settings
  match beads.value with
  | .error fault => ⟨beads.notices, .error fault⟩
  | .ok beadsIssues =>
    let files := Book.load disk (settings.todoPath root)
    ⟨beads.notices ++ files.notices, files.value.map fun entries =>
      merge settings.strategy beadsIssues (entries.map Book.Entry.issue)⟩

/-- The text of a rollup by a template, with one line feed at its end. -/
def render (now : Stamp) (options : RollupOptions) (template : Text) (issues : List Issue) :
    Except Fault Text :=
  (Template.render template (context now options issues)).map fun text =>
    Text.trim text ++ ['\n']

/-- Compiles the rollup of a project. -/
def compile (disk : Disk) (now : Stamp) (root : Path) (settings : Settings)
    (options : RollupOptions) : Noted (Except Fault Compilation) :=
  let merged := loadMerged disk root settings
  match merged.value with
  | .error fault => ⟨merged.notices, .error fault⟩
  | .ok issues =>
    let resolution := Resolution.choose disk .todo (settings.templateSource root)
    ⟨merged.notices ++ resolution.notices, do
      let template ← resolution.value
      let output ← render now options template.text issues
      pure ⟨output, issues⟩⟩

end Issuebook.Rollup
