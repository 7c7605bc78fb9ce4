import Issuebook.Document.Writing
import Issuebook.Value.Basic

/-!
# Facets

What two copies of an issue are compared by. An absent list counts as an empty one, and a
description without what a document adds around it.
-/

namespace Issuebook

/-- A side of an issue that is compared. -/
inductive Facet where
  /-- The title. -/
  | title
  /-- The status. -/
  | status
  /-- The kind of work. -/
  | kind
  /-- The priority. -/
  | priority
  /-- The description. -/
  | description
  /-- Who works on it. -/
  | assignee
  /-- The labels. -/
  | labels
  /-- What it waits for. -/
  | dependsOn
  /-- What waits for it. -/
  | blocks
  /-- What it is a part of. -/
  | parent
  deriving Repr, DecidableEq, Inhabited

/-- The value of a facet. -/
inductive FacetValue where
  /-- A text. -/
  | text (value : Text)
  /-- A text that may be absent. -/
  | option (value : Option Text)
  /-- A priority. -/
  | priority (value : Priority)
  /-- A list of texts. -/
  | texts (value : List Text)
  deriving Repr, DecidableEq, Inhabited

namespace FacetValue

/-- A facet's value as data. -/
def toValue : FacetValue → Value
  | .text value => .text value
  | .option value => .ofText? value
  | .priority value => .int value.val
  | .texts value => .ofTexts value

end FacetValue

namespace Facet

/-- Every facet, in the order of reports. -/
def all : List Facet :=
  [.title, .status, .kind, .priority, .description, .assignee, .labels, .dependsOn, .blocks,
   .parent]

/-- The written name of a facet. -/
def name : Facet → Text
  | .title => "title"
  | .status => "status"
  | .kind => "type"
  | .priority => "priority"
  | .description => "description"
  | .assignee => "assignee"
  | .labels => "labels"
  | .dependsOn => "depends_on"
  | .blocks => "blocks"
  | .parent => "parent"

/-- The value of an issue's facet, as it is compared. -/
def value (issue : Issue) : Facet → FacetValue
  | .title => .text issue.title
  | .status => .text issue.status.name
  | .kind => .text issue.kind.name
  | .priority => .priority issue.priority
  | .description => .text issue.bodyText
  | .assignee => .option issue.assignee
  | .labels => .texts (Issue.itemsOrNone issue.labels)
  | .dependsOn => .texts (Issue.itemsOrNone issue.dependsOn)
  | .blocks => .texts (Issue.itemsOrNone issue.blocks)
  | .parent => .option issue.parent

/-- Whether two issues have the same value of a facet. -/
def agrees (one other : Issue) (facet : Facet) : Bool :=
  facet.value one = facet.value other

/-- The facets in which two issues differ. -/
def differing (one other : Issue) : List Facet :=
  all.filter fun facet => !facet.agrees one other

end Facet

end Issuebook
