import PodSwap.Api.Form
import PodSwap.Api.Request
import PodSwap.Api.Response
import PodSwap.Api.Status
import PodSwap.Api.Target
import PodSwap.Cluster
import PodSwap.Digest
import PodSwap.Document
import PodSwap.Duration
import PodSwap.Engine
import PodSwap.Entries
import PodSwap.Error
import PodSwap.Fingerprint
import PodSwap.Image.Catalog
import PodSwap.Image.Expression
import PodSwap.Image.Name
import PodSwap.Json.Basic
import PodSwap.Json.Double
import PodSwap.Json.Merge
import PodSwap.Json.Patch
import PodSwap.Json.Pointer
import PodSwap.Json.Printer
import PodSwap.Json.Reader
import PodSwap.Json.Written
import PodSwap.Main
import PodSwap.Marker
import PodSwap.Object.Codec
import PodSwap.Object.Kubernetes
import PodSwap.Object.Metadata
import PodSwap.Object.Pod
import PodSwap.Object.Schema
import PodSwap.Object.Shape
import PodSwap.Object.Timestamp
import PodSwap.Object.Workload
import PodSwap.Ownership
import PodSwap.Power
import PodSwap.Proofs.Engine.Again
import PodSwap.Proofs.Engine.Awaiting
import PodSwap.Proofs.Engine.Calls
import PodSwap.Proofs.Engine.Cancellation
import PodSwap.Proofs.Engine.Choice
import PodSwap.Proofs.Engine.Creation
import PodSwap.Proofs.Engine.Deletions
import PodSwap.Proofs.Engine.Lookup
import PodSwap.Proofs.Engine.Parents
import PodSwap.Proofs.Engine.Protocol
import PodSwap.Proofs.Engine.Quiet
import PodSwap.Proofs.Engine.Replace
import PodSwap.Proofs.Engine.Requests
import PodSwap.Proofs.Engine.Resume
import PodSwap.Proofs.Engine.Revert
import PodSwap.Proofs.Engine.RollBack
import PodSwap.Proofs.Engine.RoundTrip
import PodSwap.Proofs.Engine.Slot
import PodSwap.Proofs.Engine.Stages
import PodSwap.Proofs.Engine.Staleness
import PodSwap.Proofs.Engine.Standing
import PodSwap.Proofs.Engine.Stranding
import PodSwap.Proofs.Engine.Unbuilt
import PodSwap.Proofs.Engine.Undertaking
import PodSwap.Proofs.Image.Expansion
import PodSwap.Proofs.Image.Grammar
import PodSwap.Proofs.Image.Levels
import PodSwap.Proofs.Image.Matching
import PodSwap.Proofs.Image.NormalForm
import PodSwap.Proofs.Image.Placeholders
import PodSwap.Proofs.Json.Canonical
import PodSwap.Proofs.Json.Diff
import PodSwap.Proofs.Json.Merging
import PodSwap.Proofs.Json.Path
import PodSwap.Proofs.Json.Reordering
import PodSwap.Proofs.Object.Dated
import PodSwap.Proofs.Object.Diff
import PodSwap.Proofs.Object.Fields
import PodSwap.Proofs.Object.Lawful
import PodSwap.Proofs.Object.ReadBack
import PodSwap.Proofs.Object.Reading
import PodSwap.Proofs.Object.Rereading
import PodSwap.Proofs.Object.Times
import PodSwap.Proofs.Object.Timestamp
import PodSwap.Proofs.Object.Told
import PodSwap.Proofs.Replacement.Chosen
import PodSwap.Proofs.Replacement.FoundAgain
import PodSwap.Proofs.Replacement.Marks
import PodSwap.Proofs.Replacement.Prints
import PodSwap.Proofs.Replacement.Sanitised
import PodSwap.Proofs.Replacement.Subdomain
import PodSwap.Proofs.Replacement.Substitution
import PodSwap.Proofs.Replacement.Truncation
import PodSwap.Proofs.Replacement.Unpatched
import PodSwap.Proofs.Run.Calls
import PodSwap.Proofs.Run.Ends
import PodSwap.Proofs.Run.History
import PodSwap.Proofs.Run.Interruption
import PodSwap.Proofs.Run.Polling
import PodSwap.Proofs.Scale.Clients
import PodSwap.Proofs.Scale.Fingerprint
import PodSwap.Proofs.Scale.Outdated
import PodSwap.Proofs.Scale.Phase
import PodSwap.Proofs.Scale.Quiesce
import PodSwap.Proofs.Scale.Record
import PodSwap.Proofs.Selection.Pick
import PodSwap.Proofs.Selection.Selector
import PodSwap.Proofs.Selection.Terms
import PodSwap.Proofs.Store.Basic
import PodSwap.Proofs.Store.Keeping
import PodSwap.Proofs.Store.Ledger
import PodSwap.Replacement.Build
import PodSwap.Replacement.Name
import PodSwap.Replacement.Substitute
import PodSwap.Run.Basic
import PodSwap.Run.Poll
import PodSwap.Scale
import PodSwap.Selection
import PodSwap.Settings
import PodSwap.Simulation.Cluster
import PodSwap.Simulation.Controllers
import PodSwap.Simulation.Edit
import PodSwap.Simulation.Session
import PodSwap.Simulation.Store
import PodSwap.Simulation.World
import PodSwap.Spec
import PodSwap.Termination
import PodSwap.Text.Blank
import PodSwap.Text.Bytes
import PodSwap.Text.Hexadecimal
import PodSwap.Text.Integer
import PodSwap.Text.Order
import PodSwap.Text.Printable
import PodSwap.Text.Quoted
import PodSwap.Text.Split
import PodSwap.Yaml.Lexer
import PodSwap.Yaml.Load
import PodSwap.Yaml.Node
import PodSwap.Yaml.ScalarText
import PodSwap.Yaml.TagText
import PodSwap.Yaml.Token
import PodSwap.Yaml.Value
