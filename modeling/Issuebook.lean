import Issuebook.Text.Basic
import Issuebook.Text.Word
import Issuebook.Text.Markup
import Issuebook.Text.Table
import Issuebook.Text.Printable
import Issuebook.Text.Case
import Issuebook.Text.Plain
import Issuebook.Number.Binary64
import Issuebook.Number.Shortest
import Issuebook.Number.Reading
import Issuebook.Value.Shown
import Issuebook.Value.Member
import Issuebook.Json.Reader
import Issuebook.Json.Writer
import Issuebook.Fault
import Issuebook.Disk.Path
import Issuebook.Disk.Files
import Issuebook.Disk.Changes
import Issuebook.Issue.Intake
import Issuebook.Document.Reading
import Issuebook.Document.Writing
import Issuebook.Time.Reading
import Issuebook.Filename.Collision
import Issuebook.Filename.Matching
import Issuebook.Template.Segment
import Issuebook.Template.Lookup
import Issuebook.Template.Rendering
import Issuebook.Template.Extraction
import Issuebook.Value.Flat
import Issuebook.Template.Rebuilding
import Issuebook.Template.Preset
import Issuebook.Journal
import Issuebook.Places
import Issuebook.Template.Resolution
import Issuebook.Strategy
import Issuebook.Reconciliation.Facet
import Issuebook.Reconciliation.Changes
import Issuebook.Reconciliation.Plan
import Issuebook.Rollup.Compilation
import Issuebook.Settings.Basic
import Issuebook.Settings.Reading
import Issuebook.Store.Record
import Issuebook.Store.Log
import Issuebook.Store.Command
import Issuebook.Store.Backend
import Issuebook.Store.Script
import Issuebook.Book.Naming
import Issuebook.Book.Loading
import Issuebook.Book.Writing
import Issuebook.Reconciliation.StorePhase
import Issuebook.Reconciliation.FilePhase
import Issuebook.Reconciliation.Run
import Issuebook.CommandLine.Arguments
import Issuebook.CommandLine.Invocation
import Issuebook.CommandLine.Session
import Issuebook.CommandLine.Conclusion
import Issuebook.Shell.Glob
import Issuebook.Shell.Arithmetic
import Issuebook.Shell.Script
import Issuebook.Shell.Expansion
import Issuebook.Shell.Condition
import Issuebook.Shell.Numeral
import Issuebook.Shell.Printing
import Issuebook.Shell.Own.Variables
import Issuebook.Shell.Own.Places
import Issuebook.Shell.Own.Basic
import Issuebook.Shell.Own.Signals
import Issuebook.Shell.Running
import Issuebook.Shell.Utility.Files
import Issuebook.Shell.Interpreter
import Issuebook.Shell.Job
import Issuebook.Main
import Issuebook.Proofs.Text.Trimming
import Issuebook.Proofs.Text.Lines
import Issuebook.Proofs.Json.Literals
import Issuebook.Proofs.Entries
import Issuebook.Proofs.Issue.Validity
import Issuebook.Proofs.Issue.Unbroken
import Issuebook.Proofs.Document.Metadata
import Issuebook.Proofs.Document.Restoration
import Issuebook.Proofs.Json.Escapes
import Issuebook.Proofs.Json.Tearing
import Issuebook.Proofs.Document.Tearing
import Issuebook.Proofs.Document.Faithfulness
import Issuebook.Proofs.Document.Body
import Issuebook.Proofs.Document.Stability
import Issuebook.Proofs.Reconciliation.Updating
import Issuebook.Proofs.Reconciliation.Planning
import Issuebook.Proofs.Reconciliation.Convergence
import Issuebook.Proofs.Disk.Reaching
import Issuebook.Proofs.Disk.Effects
import Issuebook.Proofs.Book.Home
import Issuebook.Proofs.Book.Steps
import Issuebook.Proofs.Book.Keeping
import Issuebook.Proofs.Filename.Collision
import Issuebook.Proofs.Fault
import Issuebook.Proofs.Book.Names
import Issuebook.Proofs.Disk.Contents
import Issuebook.Proofs.Reconciliation.Directions
import Issuebook.Proofs.Reconciliation.Effects
import Issuebook.Proofs.Reconciliation.Authority
import Issuebook.Proofs.Reconciliation.Success
import Issuebook.Proofs.Reconciliation.Foretelling
import Issuebook.Proofs.Loading
import Issuebook.Proofs.Reconciliation.Damage
import Issuebook.Proofs.Reconciliation.Partition
import Issuebook.Proofs.Reconciliation.Actions
import Issuebook.Proofs.Reconciliation.Repetition
import Issuebook.Proofs.Disk.Resolving
import Issuebook.Proofs.Book.Confinement
import Issuebook.Proofs.Filename.Rendering
import Issuebook.Proofs.Book.Passing
import Issuebook.Proofs.Book.Surviving
import Issuebook.Proofs.Reconciliation.Ledger
import Issuebook.Proofs.Reconciliation.Accounting
import Issuebook.Proofs.Reconciliation.Completion
import Issuebook.Proofs.Template.Segments
import Issuebook.Proofs.Template.Anchors
import Issuebook.Proofs.Template.Captures
import Issuebook.Proofs.Template.RoundTrip
import Issuebook.Proofs.Issue.Fields
import Issuebook.Proofs.Template.Data
import Issuebook.Proofs.Template.Rebuilding
import Issuebook.Proofs.Template.Reach
import Issuebook.Proofs.Template.Layouts
import Issuebook.Proofs.Template.Misses
import Issuebook.Proofs.Template.Shown
import Issuebook.Proofs.Template.Reading
import Issuebook.Proofs.Template.Recovery
import Issuebook.Proofs.Template.Editing
import Issuebook.Proofs.Filename.Ending
import Issuebook.Proofs.Disk.Listing
import Issuebook.Proofs.Book.Storing
import Issuebook.Proofs.Number.Range
import Issuebook.Proofs.Text.Order
import Issuebook.Proofs.Document.Rejection
import Issuebook.Proofs.Book.Skipping
import Issuebook.Proofs.Book.Reloading
import Issuebook.Proofs.Book.Renewal
import Issuebook.Proofs.Template.Breaks
import Issuebook.Proofs.Json.Enclosure
import Issuebook.Proofs.Store.Records
import Issuebook.Proofs.Filename.Cutting
import Issuebook.Proofs.Filename.Standard
import Issuebook.Proofs.Filename.Recovery
import Issuebook.Proofs.Book.Direct
import Issuebook.Proofs.Issue.Building
import Issuebook.Proofs.Rollup.Merging
import Issuebook.Proofs.Template.Choosing
import Issuebook.Proofs.Value.Leaves
import Issuebook.Proofs.Value.Differences
import Issuebook.Proofs.Value.Merging
import Issuebook.Proofs.Template.Pieces
import Issuebook.Proofs.Json.Words
import Issuebook.Proofs.Json.Numbers
import Issuebook.Proofs.Document.Spellings
import Issuebook.Proofs.Document.Pieces
import Issuebook.Proofs.Document.Keeping
import Issuebook.Proofs.Filename.Delimiters
import Issuebook.Proofs.Filename.Shortening
import Issuebook.Proofs.Store.Edges
import Issuebook.Proofs.Rollup.Checklist
import Issuebook.Proofs.Text.Cleaning
import Issuebook.Proofs.Filename.Numbering
import Issuebook.Proofs.Filename.Spelling
import Issuebook.Proofs.Json.Objects
import Issuebook.Proofs.Settings.Saving
import Issuebook.Proofs.Shell.Quoting
import Issuebook.Proofs.Shell.Calculations
import Issuebook.Proofs.CommandLine.Calls
