import TryConfirmCancel.Address.Coordinator
import TryConfirmCancel.Address.Fault
import TryConfirmCancel.Address.Join
import TryConfirmCancel.Address.Participant
import TryConfirmCancel.Address.Route
import TryConfirmCancel.Bytes.Base64
import TryConfirmCancel.Bytes.Hex
import TryConfirmCancel.Bytes.Utf8
import TryConfirmCancel.Callback.Dispatch
import TryConfirmCancel.Callback.Router
import TryConfirmCancel.CommandLine
import TryConfirmCancel.Config.Basic
import TryConfirmCancel.Config.Document
import TryConfirmCancel.Config.Environment
import TryConfirmCancel.Config.Mode
import TryConfirmCancel.Dict
import TryConfirmCancel.Failure
import TryConfirmCancel.Headers
import TryConfirmCancel.Hop.Admission
import TryConfirmCancel.Hop.Context
import TryConfirmCancel.Hop.Duration
import TryConfirmCancel.Hop.Identifier
import TryConfirmCancel.Hop.Propagation
import TryConfirmCancel.Hop.Record
import TryConfirmCancel.Hop.Step
import TryConfirmCancel.Json.Access
import TryConfirmCancel.Json.Datum
import TryConfirmCancel.Json.Format
import TryConfirmCancel.Json.Node
import TryConfirmCancel.Json.Reader
import TryConfirmCancel.Json.Token
import TryConfirmCancel.Json.Value
import TryConfirmCancel.Link.Basic
import TryConfirmCancel.Link.Entry
import TryConfirmCancel.Link.OverHttp
import TryConfirmCancel.Link.Report
import TryConfirmCancel.Main
import TryConfirmCancel.Number.Binary64
import TryConfirmCancel.Number.Bounds
import TryConfirmCancel.Number.Shortest
import TryConfirmCancel.Phase
import TryConfirmCancel.Proofs.Address.Coordinators
import TryConfirmCancel.Proofs.Address.Participants
import TryConfirmCancel.Proofs.Address.Slashes
import TryConfirmCancel.Proofs.Bytes.Characters
import TryConfirmCancel.Proofs.Bytes.Order
import TryConfirmCancel.Proofs.Callback.Endpoints
import TryConfirmCancel.Proofs.Callback.Occurrences
import TryConfirmCancel.Proofs.Callback.Replay
import TryConfirmCancel.Proofs.Callback.Upshot
import TryConfirmCancel.Proofs.Config.Environment
import TryConfirmCancel.Proofs.Config.Files
import TryConfirmCancel.Proofs.Config.Settings
import TryConfirmCancel.Proofs.Hop.Carriage
import TryConfirmCancel.Proofs.Hop.Crossing
import TryConfirmCancel.Proofs.Hop.Granting
import TryConfirmCancel.Proofs.Hop.Portable
import TryConfirmCancel.Proofs.Hop.Snapshots
import TryConfirmCancel.Proofs.Hop.Spending
import TryConfirmCancel.Proofs.Json.Grammar
import TryConfirmCancel.Proofs.Json.NumberTokens
import TryConfirmCancel.Proofs.Json.Reading
import TryConfirmCancel.Proofs.Json.StringTokens
import TryConfirmCancel.Proofs.Json.Tree
import TryConfirmCancel.Proofs.Link.Advertising
import TryConfirmCancel.Proofs.Link.Errand
import TryConfirmCancel.Proofs.Link.Gateway
import TryConfirmCancel.Proofs.Link.Handing
import TryConfirmCancel.Proofs.Link.Reserve
import TryConfirmCancel.Proofs.Link.Telling
import TryConfirmCancel.Proofs.Rpc.Attempts
import TryConfirmCancel.Proofs.Rpc.Fields
import TryConfirmCancel.Proofs.Rpc.Network
import TryConfirmCancel.Proofs.Rpc.Posted
import TryConfirmCancel.Proofs.Service.Arguments
import TryConfirmCancel.Proofs.Service.Entries
import TryConfirmCancel.Proofs.Service.Registrations
import TryConfirmCancel.Proofs.Text.Numerals
import TryConfirmCancel.Proofs.Text.Trimming
import TryConfirmCancel.Proofs.Transaction.Bounds
import TryConfirmCancel.Proofs.Transaction.Chain
import TryConfirmCancel.Proofs.Transaction.Completeness
import TryConfirmCancel.Proofs.Transaction.Course
import TryConfirmCancel.Proofs.Transaction.Delivery
import TryConfirmCancel.Proofs.Transaction.Journal
import TryConfirmCancel.Proofs.Transaction.Ledger
import TryConfirmCancel.Proofs.Transaction.Limits
import TryConfirmCancel.Proofs.Transaction.Lineage
import TryConfirmCancel.Proofs.Transaction.Occasions
import TryConfirmCancel.Proofs.Transaction.Projection
import TryConfirmCancel.Proofs.Transaction.Rejection
import TryConfirmCancel.Proofs.Transaction.SecondStage
import TryConfirmCancel.Proofs.Transaction.Sequence
import TryConfirmCancel.Proofs.Transaction.Settlement
import TryConfirmCancel.Proofs.Transaction.Verdict
import TryConfirmCancel.Proofs.Wire.Fitting
import TryConfirmCancel.Proofs.Wire.Framing
import TryConfirmCancel.Proofs.Wire.Messages
import TryConfirmCancel.Proofs.Wire.Opening
import TryConfirmCancel.Rehearsal.Peer
import TryConfirmCancel.Rehearsal.Script
import TryConfirmCancel.Rpc.Failure
import TryConfirmCancel.Rpc.Http.Client
import TryConfirmCancel.Rpc.Http.Host
import TryConfirmCancel.Rpc.Http.Post
import TryConfirmCancel.Rpc.Http.Url
import TryConfirmCancel.Rpc.Mesh
import TryConfirmCancel.Rpc.Request
import TryConfirmCancel.Service.Compensable
import TryConfirmCancel.Service.Descriptor
import TryConfirmCancel.Service.Flags
import TryConfirmCancel.Service.Parameters
import TryConfirmCancel.Service.Registry
import TryConfirmCancel.Text.Ascii
import TryConfirmCancel.Text.Blank
import TryConfirmCancel.Text.CodePoint
import TryConfirmCancel.Text.Fields
import TryConfirmCancel.Text.Numeral
import TryConfirmCancel.Text.Quoted
import TryConfirmCancel.Text.Unshown
import TryConfirmCancel.Toml.Document
import TryConfirmCancel.Toml.Scalar
import TryConfirmCancel.Transaction.Execution
import TryConfirmCancel.Transaction.Role
import TryConfirmCancel.Wire.Envelope
import TryConfirmCancel.Wire.Message
import TryConfirmCancel.Yaml.Node
import TryConfirmCancel.Yaml.Reader
import TryConfirmCancel.Yaml.Scalar
import TryConfirmCancel.Yaml.Spot
import TryConfirmCancel.Yaml.Token
