import DataPipeline.Catalogue.Basic
import DataPipeline.Catalogue.Inheritance
import DataPipeline.Catalogue.Offer
import DataPipeline.Codec.Basic
import DataPipeline.Codec.Choice
import DataPipeline.Codec.Record
import DataPipeline.CommandLine
import DataPipeline.Diagnostic
import DataPipeline.Dict
import DataPipeline.Editor.Preview
import DataPipeline.Editor.Session
import DataPipeline.Graph.Basic
import DataPipeline.Graph.Reachability
import DataPipeline.Json.Basic
import DataPipeline.Json.Equality
import DataPipeline.Json.Error
import DataPipeline.Json.Lexer
import DataPipeline.Json.Printer
import DataPipeline.Json.Reader
import DataPipeline.Kind
import DataPipeline.Main
import DataPipeline.Number.Binary64
import DataPipeline.Number.Shortest
import DataPipeline.Plan.Chain
import DataPipeline.Plan.Compile
import DataPipeline.Plan.Dag
import DataPipeline.Proofs.Catalogue.Inheritance
import DataPipeline.Proofs.Catalogue.Offer
import DataPipeline.Proofs.Codec.Keywise
import DataPipeline.Proofs.Codec.Open
import DataPipeline.Proofs.Codec.Overlay
import DataPipeline.Proofs.Codec.Reading
import DataPipeline.Proofs.Codec.Refinement
import DataPipeline.Proofs.Codec.Survival
import DataPipeline.Proofs.Dict
import DataPipeline.Proofs.Editor.Session
import DataPipeline.Proofs.Graph.Acyclic
import DataPipeline.Proofs.Graph.Path
import DataPipeline.Proofs.Graph.Reachability
import DataPipeline.Proofs.Json.Narrowing
import DataPipeline.Proofs.Json.Reading
import DataPipeline.Proofs.Json.Sorted
import DataPipeline.Proofs.Plan.Attribution
import DataPipeline.Proofs.Plan.Chains
import DataPipeline.Proofs.Plan.Compilation
import DataPipeline.Proofs.Plan.Contribution
import DataPipeline.Proofs.Plan.Conversions
import DataPipeline.Proofs.Plan.Diagnosis
import DataPipeline.Proofs.Plan.Execution
import DataPipeline.Proofs.Plan.Gather
import DataPipeline.Proofs.Plan.Indifference
import DataPipeline.Proofs.Plan.Mirroring
import DataPipeline.Proofs.Plan.Recognition
import DataPipeline.Proofs.Plan.Reordering
import DataPipeline.Proofs.Plan.Rereading
import DataPipeline.Proofs.Plan.Sequencing
import DataPipeline.Proofs.Plan.WellFormed
import DataPipeline.Proofs.Results
import DataPipeline.Proofs.Settings.Forms
import DataPipeline.Proofs.Settings.Inherited
import DataPipeline.Proofs.Settings.Known
import DataPipeline.Proofs.Settings.Merging
import DataPipeline.Proofs.Settings.Records
import DataPipeline.Proofs.Task.Blame
import DataPipeline.Proofs.Task.DagId
import DataPipeline.Proofs.Task.LeftBehind
import DataPipeline.Proofs.Task.NormalForm
import DataPipeline.Proofs.Task.Options
import DataPipeline.Proofs.Task.Recalling
import DataPipeline.Proofs.Task.Remapping
import DataPipeline.Proofs.Task.Required
import DataPipeline.Proofs.Task.Rereading
import DataPipeline.Proofs.Task.Roles
import DataPipeline.Proofs.Task.Trimming
import DataPipeline.Proofs.Task.WellFormed
import DataPipeline.Proofs.Text.Blank
import DataPipeline.Proofs.Validation.Agreement
import DataPipeline.Proofs.Validation.Dedicated
import DataPipeline.Proofs.Validation.Missing
import DataPipeline.Proofs.Validation.Reordering
import DataPipeline.Proofs.Validation.Rules
import DataPipeline.Proofs.Validation.Unreachable
import DataPipeline.Proofs.Validation.Validity
import DataPipeline.Proofs.Validation.WellDrawn
import DataPipeline.Proofs.Workflow.Changes
import DataPipeline.Proofs.Workflow.Connecting
import DataPipeline.Proofs.Workflow.Core
import DataPipeline.Proofs.Workflow.Depiction
import DataPipeline.Proofs.Workflow.Editing
import DataPipeline.Proofs.Workflow.Erasing
import DataPipeline.Proofs.Workflow.Inheriting
import DataPipeline.Proofs.Workflow.Interleaving
import DataPipeline.Proofs.Workflow.Loading
import DataPipeline.Proofs.Workflow.Lookup
import DataPipeline.Proofs.Workflow.Offering
import DataPipeline.Proofs.Workflow.Patching
import DataPipeline.Proofs.Workflow.Rebuilding
import DataPipeline.Proofs.Workflow.Reports
import DataPipeline.Proofs.Workflow.Rereading
import DataPipeline.Proofs.Workflow.RoundTrip
import DataPipeline.Proofs.Workflow.Runs
import DataPipeline.Proofs.Workflow.Undoing
import DataPipeline.Settings.Basic
import DataPipeline.Settings.Control
import DataPipeline.Settings.Database
import DataPipeline.Settings.File
import DataPipeline.Settings.Filter
import DataPipeline.Settings.Inline
import DataPipeline.Settings.Salesforce
import DataPipeline.Task.Basic
import DataPipeline.Task.Clauses
import DataPipeline.Task.Conversion
import DataPipeline.Task.Error
import DataPipeline.Task.FileCommand
import DataPipeline.Task.Input
import DataPipeline.Task.Options
import DataPipeline.Task.Output
import DataPipeline.Task.Salesforce
import DataPipeline.Task.Storage
import DataPipeline.Task.Timer
import DataPipeline.Text.Basic
import DataPipeline.Text.Printable
import DataPipeline.Text.Quoted
import DataPipeline.Text.Slug
import DataPipeline.Text.Timestamp
import DataPipeline.Validation.Basic
import DataPipeline.Validation.Fault
import DataPipeline.Validation.Node
import DataPipeline.Workflow.Basic
import DataPipeline.Workflow.Document
import DataPipeline.Workflow.Edit
import DataPipeline.Workflow.Node
