import Reconcile.Backoff
import Reconcile.CommandLine.Assignment
import Reconcile.CommandLine.Files
import Reconcile.CommandLine.Invocation
import Reconcile.CommandLine.Options
import Reconcile.CommandLine.Run
import Reconcile.Config.Basic
import Reconcile.Config.Document
import Reconcile.Digest.Encoding
import Reconcile.Digest.Sha256
import Reconcile.Document.Basic
import Reconcile.Error.Advice
import Reconcile.Error.Basic
import Reconcile.Evaluation.Error
import Reconcile.Evaluation.Evaluate
import Reconcile.Evaluation.Functions
import Reconcile.Evaluation.Resolution
import Reconcile.Expression.Basic
import Reconcile.Expression.Fingerprint
import Reconcile.Expression.Reading
import Reconcile.Expression.References
import Reconcile.Expression.Substitution
import Reconcile.Graph.Basic
import Reconcile.Graph.Leveling
import Reconcile.Graph.OfTemplate
import Reconcile.Graph.Order
import Reconcile.Graph.Reachability
import Reconcile.Inputs.Conditions
import Reconcile.Inputs.Parameters
import Reconcile.Inputs.PseudoParameters
import Reconcile.Inputs.Validation
import Reconcile.Json.Basic
import Reconcile.Json.Printer
import Reconcile.Json.Reader
import Reconcile.Main
import Reconcile.Number.Double
import Reconcile.Number.Layout
import Reconcile.Number.Reading
import Reconcile.Number.Scaling
import Reconcile.Number.Shortest
import Reconcile.Operation
import Reconcile.Patch
import Reconcile.Pattern.Basic
import Reconcile.Pattern.Category
import Reconcile.Pattern.CharSet
import Reconcile.Pattern.Folding
import Reconcile.Pattern.Reading
import Reconcile.Pattern.Script
import Reconcile.Plan.Basic
import Reconcile.Plan.Deletion
import Reconcile.Proofs.Backoff
import Reconcile.Proofs.Document.Distinct
import Reconcile.Proofs.Document.RoundTrip
import Reconcile.Proofs.Document.States
import Reconcile.Proofs.Evaluation.Branches
import Reconcile.Proofs.Evaluation.Dialogue
import Reconcile.Proofs.Evaluation.Distinct
import Reconcile.Proofs.Evaluation.Exposure
import Reconcile.Proofs.Evaluation.Growth
import Reconcile.Proofs.Evaluation.Inquiry
import Reconcile.Proofs.Evaluation.Reads
import Reconcile.Proofs.Evaluation.Relisting
import Reconcile.Proofs.Evaluation.Resolutions
import Reconcile.Proofs.Evaluation.Strays
import Reconcile.Proofs.Expression.Mentions
import Reconcile.Proofs.Expression.Placeholders
import Reconcile.Proofs.Expression.RoundTrip
import Reconcile.Proofs.Expression.Settled
import Reconcile.Proofs.Graph.Additions
import Reconcile.Proofs.Graph.Coverage
import Reconcile.Proofs.Graph.Cycles
import Reconcile.Proofs.Graph.Edges
import Reconcile.Proofs.Graph.Foresight
import Reconcile.Proofs.Graph.Leveling
import Reconcile.Proofs.Graph.Levels
import Reconcile.Proofs.Graph.Nesting
import Reconcile.Proofs.Graph.Numbering
import Reconcile.Proofs.Graph.Order
import Reconcile.Proofs.Graph.Refusal
import Reconcile.Proofs.Inputs.Bounds
import Reconcile.Proofs.Inputs.Conditions
import Reconcile.Proofs.Inputs.Defaults
import Reconcile.Proofs.Inputs.Memo
import Reconcile.Proofs.Json.Alike
import Reconcile.Proofs.Json.Canonical
import Reconcile.Proofs.Json.Distinct
import Reconcile.Proofs.Json.Patching
import Reconcile.Proofs.Json.Pointer
import Reconcile.Proofs.Json.Written
import Reconcile.Proofs.Number.Order
import Reconcile.Proofs.Outcome
import Reconcile.Proofs.Plan.Deletion
import Reconcile.Proofs.Plan.Planning
import Reconcile.Proofs.Provider.InMemory
import Reconcile.Proofs.Run.Attempts
import Reconcile.Proofs.Run.Counting
import Reconcile.Proofs.Run.Decisions
import Reconcile.Proofs.Run.Distinct
import Reconcile.Proofs.Run.Exchanges
import Reconcile.Proofs.Run.Justification
import Reconcile.Proofs.Run.Knowledge
import Reconcile.Proofs.Run.Moves
import Reconcile.Proofs.Run.Pauses
import Reconcile.Proofs.Run.Perseverance
import Reconcile.Proofs.Run.Regularity
import Reconcile.Proofs.Run.Removal
import Reconcile.Proofs.Run.Rounds
import Reconcile.Proofs.Run.Schedule
import Reconcile.Proofs.Run.Soundness
import Reconcile.Proofs.Run.Steadiness
import Reconcile.Proofs.Run.Tasks
import Reconcile.Proofs.Run.Termination
import Reconcile.Proofs.Run.Transcript
import Reconcile.Proofs.Stack.Accounting
import Reconcile.Proofs.Stack.Completion
import Reconcile.Proofs.Stack.Concurrence
import Reconcile.Proofs.Stack.Custody
import Reconcile.Proofs.Stack.Deletion
import Reconcile.Proofs.Stack.Endings
import Reconcile.Proofs.Stack.Foretelling
import Reconcile.Proofs.Stack.History
import Reconcile.Proofs.Stack.Independence
import Reconcile.Proofs.Stack.Keeping
import Reconcile.Proofs.Stack.Operations
import Reconcile.Proofs.Stack.Perseverance
import Reconcile.Proofs.Stack.Readiness
import Reconcile.Proofs.Stack.Reconciliation
import Reconcile.Proofs.Stack.Recording
import Reconcile.Proofs.Stack.Rejection
import Reconcile.Proofs.Stack.Repetition
import Reconcile.Proofs.Stack.Replanning
import Reconcile.Proofs.Stack.Standstill
import Reconcile.Proofs.Stack.Typing
import Reconcile.Proofs.Table
import Reconcile.Provider.Basic
import Reconcile.Provider.InMemory
import Reconcile.Provider.Registry
import Reconcile.Provider.Rehearsal
import Reconcile.Run.Basic
import Reconcile.Run.Drive
import Reconcile.Run.Metrics
import Reconcile.Run.Record
import Reconcile.Run.Step
import Reconcile.Stack
import Reconcile.State.Basic
import Reconcile.State.Document
import Reconcile.Table
import Reconcile.Template.Basic
import Reconcile.Template.Reading
import Reconcile.Template.Writing
import Reconcile.Text.Distance
import Reconcile.Text.Lowercase
import Reconcile.Text.Quoted
import Reconcile.Text.Scan
import Reconcile.Toml.Reader
import Reconcile.Toml.Tree
import Reconcile.Yaml.Layout
import Reconcile.Yaml.Mark
import Reconcile.Yaml.Node
import Reconcile.Yaml.Place
import Reconcile.Yaml.Reader
import Reconcile.Yaml.Scalar
import Reconcile.Yaml.Schema
import Reconcile.Yaml.Token
