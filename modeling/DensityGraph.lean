import DensityGraph.Composition.Validation
import DensityGraph.Declaration.Elaboration
import DensityGraph.Error
import DensityGraph.Formula.Basic
import DensityGraph.Job
import DensityGraph.Json.Canonical
import DensityGraph.Json.Decode
import DensityGraph.Json.Reader
import DensityGraph.Json.Writer
import DensityGraph.Main
import DensityGraph.Name
import DensityGraph.Table.Order
import DensityGraph.Toml.Reader
import DensityGraph.Workspace.Storage
import DensityGraph.Proofs.Number.Order
import DensityGraph.Proofs.Parameter
import DensityGraph.Proofs.Result
import DensityGraph.Proofs.Composition.Coherent
import DensityGraph.Proofs.Sampling.Draw
import DensityGraph.Proofs.Snapshot
import DensityGraph.Proofs.Snapshot.Restoring
import DensityGraph.Proofs.Table.Loading
import DensityGraph.Proofs.Table.Session
import DensityGraph.Proofs.Artifact
import DensityGraph.Proofs.Artifact.Framing
import DensityGraph.Proofs.Dataset
import DensityGraph.Proofs.Document.Model
import DensityGraph.Proofs.Document.Workspace
import DensityGraph.Proofs.Number.Arithmetic
import DensityGraph.Proofs.Number.Sums
import DensityGraph.Proofs.Sampling.Generate
import DensityGraph.Proofs.Workspace.Reachable
import DensityGraph.Proofs.Sampling.Independence
import DensityGraph.Proofs.Workspace.Draws
import DensityGraph.Proofs.Workspace.Siblings
import DensityGraph.Proofs.Document.Restored
import DensityGraph.Proofs.Storage
import DensityGraph.Proofs.Storage.Limit
import DensityGraph.Proofs.Workspace.Stored
import DensityGraph.Proofs.Table.Accepted
import DensityGraph.Proofs.ForwardPass
import DensityGraph.Proofs.Sampling.Unread
import DensityGraph.Proofs.Workspace.Damaged
import DensityGraph.Proofs.Declaration.Nesting
import DensityGraph.Proofs.Workspace.Compose
import DensityGraph.Proofs.Workspace.Observations
import DensityGraph.Proofs.Workspace.Values
import DensityGraph.Proofs.Composition.Weights
import DensityGraph.Proofs.Sampling.Choice
import DensityGraph.Proofs.Workspace.Loaded
import DensityGraph.Proofs.Storage.Atomic
import DensityGraph.Proofs.Workspace.Restore
import DensityGraph.Proofs.Workspace.Undone
import DensityGraph.Proofs.Declaration.Appended
import DensityGraph.Proofs.Formula.Grammar
import DensityGraph.Proofs.Workspace.Proper
import DensityGraph.Proofs.Workspace.Literals
import DensityGraph.Proofs.Workspace.Objects
import DensityGraph.Proofs.Declaration.Grammar
import DensityGraph.Proofs.Table.Search
import DensityGraph.Proofs.Depth
import DensityGraph.Proofs.Declaration.Products
import DensityGraph.Proofs.Declaration.Range
import DensityGraph.Proofs.Workspace.Overflow
import DensityGraph.Proofs.Declaration.Lexemes
import DensityGraph.Proofs.Formula.Evaluation
import DensityGraph.Proofs.Declaration.SelfReference
import DensityGraph.Proofs.Declaration.Form
import DensityGraph.Proofs.Declaration.Culprit
import DensityGraph.Proofs.Formula.Culprit
import DensityGraph.Proofs.Composition.Reachability
import DensityGraph.Proofs.Workspace.Views
import DensityGraph.Proofs.Declaration.ValidNames
import DensityGraph.Proofs.Job.Run
