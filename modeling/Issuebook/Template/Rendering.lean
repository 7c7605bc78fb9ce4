import Issuebook.Template.Lookup
import Issuebook.Template.Segment

/-!
# Rendering templates

Every slot becomes the text of the value at its path. What a value writes is not read
again: braces in it stay as they are.
-/

namespace Issuebook

namespace Segment

/-- The text of a segment in a context. -/
def render (context : Value) : Segment → Except Fault Text
  | .literal text => .ok text
  | .slot path => (context.at? path).map Value.slotText

end Segment

namespace Template

/-- The text of a template in a context behind `skip` characters that are already read. -/
def renderFrom (context : Value) : (skip : Nat) → Text → Except Fault Text
  | _, [] => .ok []
  | skip + 1, _ :: rest => renderFrom context skip rest
  | 0, char :: rest =>
    match Segment.escaped? (char :: rest) with
    | some inner => (renderFrom context (inner.length + 3) rest).map (Segment.braced inner ++ ·)
    | none =>
      match Segment.slot? (char :: rest) with
      | some path => do
        let value ← context.at? path
        let later ← renderFrom context (path.length + 1) rest
        pure (value.slotText ++ later)
      | none => (renderFrom context 0 rest).map (char :: ·)

/-- The text of a template in a context, without its directives. -/
def render (template : Text) (context : Value) : Except Fault Text :=
  renderFrom context 0 (withoutDirectives template)

/-- The name under which a template finds the issue it shows. -/
def issueKey : Text := "issue"

/-- The context that shows one issue. -/
def issueContext (issue : Issue) : Value :=
  .record [(issueKey, .issue issue)]

/-- The text of a template for an issue. -/
def renderIssue (template : Text) (issue : Issue) : Except Fault Text :=
  render template (issueContext issue)

end Template

end Issuebook
