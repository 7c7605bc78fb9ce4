import Issuebook.Template.Extraction
import Issuebook.Template.Rendering
import Issuebook.Value.Flat

/-!
# Rebuilding issues

The issue that an edited document describes: the values found in the document replace
those of the issue it was rendered from.
-/

namespace Issuebook.Template

/-- The issue that a document describes by a template, and what the document says. Fields
without a slot that was found are those of `base`. -/
def rebuild (template document : Text) (base : Issue) : Except Fault (Issue × Extraction) := do
  let extraction := Extraction.ofDocument template document
  let merged := (issueContext base).merged extraction.data
  let issue ← Issue.ofValue ((merged.get? issueKey).getD .null)
  pure (issue, extraction)

end Issuebook.Template
