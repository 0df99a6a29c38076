import Connectivity.Config.Basic
import Connectivity.Config.File
import Connectivity.Decomposition.Basic
import Connectivity.Decomposition.Coverage
import Connectivity.Document.Basic
import Connectivity.Driver.Activity
import Connectivity.Driver.Basic
import Connectivity.Driver.CallLog
import Connectivity.Driver.Recording
import Connectivity.Driver.Registry
import Connectivity.Driver.Scripted
import Connectivity.Driver.Target
import Connectivity.Error
import Connectivity.Graph.Basic
import Connectivity.Graph.Search
import Connectivity.Json.Basic
import Connectivity.Json.Parser
import Connectivity.Json.Printer
import Connectivity.Proofs.Collections
import Connectivity.Proofs.Decomposition.Checks
import Connectivity.Proofs.Decomposition.Grouping
import Connectivity.Proofs.Decomposition.Ordering
import Connectivity.Proofs.Decomposition.Outcome
import Connectivity.Proofs.Graph.SearchInvariant
import Connectivity.Proofs.Graph.ShortestPath
import Connectivity.Proofs.Graph.Walk
import Connectivity.Proofs.Graph.WellFormed
import Connectivity.Request.Attributes
import Connectivity.Request.Basic
import Connectivity.Request.Document
import Connectivity.Service.Basic
import Connectivity.Service.Document
import Connectivity.Service.Manager
import Connectivity.Service.Routine
import Connectivity.Service.StoreFile
import Connectivity.Service.Validation
import Connectivity.Text.Characters
import Connectivity.Text.Quoted
import Connectivity.Time.Instant
import Connectivity.Time.Notation
import Connectivity.Toml.Basic
import Connectivity.Toml.Parser
import Connectivity.Toml.Printer
import Connectivity.Toml.Scalar
import Connectivity.Toml.Table
import Connectivity.Topology.Basic
import Connectivity.Topology.Document
import Connectivity.Topology.Sample
import Connectivity.Transaction
import Connectivity.Proofs.Decomposition.Placement
import Connectivity.Proofs.Driver.Calls
import Connectivity.Proofs.Transaction.Order
import Connectivity.Proofs.Transaction.Course
import Connectivity.Proofs.Service.Drive
import Connectivity.Proofs.Service.Atomicity
import Connectivity.Proofs.Graph.Resolution
import Connectivity.Proofs.Graph.Edges
import Connectivity.Proofs.Service.Effect
import Connectivity.Proofs.Service.Run
import Connectivity.Proofs.Service.UpdatedEdgePoint
import Connectivity.Proofs.Service.History
import Connectivity.Proofs.Service.Consistency
import Connectivity.Proofs.Service.Release
import Connectivity.Proofs.Service.Addressed
import Connectivity.Proofs.Decomposition.Directions
import Connectivity.Proofs.Service.Directions
import Connectivity.Proofs.Transaction.Conduct
import Connectivity.Proofs.Driver.Life
import Connectivity.Proofs.Service.Engagement
import Connectivity.Proofs.Service.Session
import Connectivity.Proofs.Json.Documents
import Connectivity.Proofs.Config.File
import Connectivity.Proofs.Graph.LeastRoute
import Connectivity.Proofs.Graph.EdgeSet
import Connectivity.Proofs.Service.Ledger
import Connectivity.Proofs.Service.Revision
import Connectivity.Proofs.Service.Overlap
import Connectivity.Proofs.Driver.Target
import Connectivity.Proofs.Graph.Crossing
import Connectivity.Proofs.Decomposition.MoreLinks
import Connectivity.Proofs.Decomposition.Partition
import Connectivity.Proofs.Graph.Reversal
import Connectivity.Proofs.Decomposition.TwoEndpoints
import Connectivity.Proofs.Decomposition.RequestedSet
import Connectivity.Proofs.Graph.Duality
import Connectivity.Proofs.Decomposition.Duality
import Connectivity.Proofs.Driver.History
import Connectivity.Proofs.Decomposition.Families
import Connectivity.Proofs.Decomposition.Coverage
import Connectivity.Proofs.Driver.CallLog
import Connectivity.Proofs.Transaction.Log
import Connectivity.Proofs.Service.Admission
import Connectivity.Proofs.Service.VersionedMap
import Connectivity.Proofs.Graph.Tables
import Connectivity.Proofs.Graph.SearchRounds
import Connectivity.Proofs.Json.Notations
import Connectivity.Proofs.Config.Partial
import Connectivity.Proofs.Service.ReplacementLaws
