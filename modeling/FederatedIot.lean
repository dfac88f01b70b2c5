import FederatedIot.Foundation.Outcome
import FederatedIot.Foundation.Relation
import FederatedIot.Foundation.Transition
import FederatedIot.Foundation.Json
import FederatedIot.Foundation.JsonEncoding
import FederatedIot.Queue.Schema
import FederatedIot.Queue.Store
import FederatedIot.Queue.Lifecycle
import FederatedIot.Queue.Statement
import FederatedIot.Queue.WorkerRepository
import FederatedIot.Queue.Snapshot
import FederatedIot.Queue.Admission
import FederatedIot.Queue.Refinement
import FederatedIot.Queue.Effects
import FederatedIot.Queue.System
import FederatedIot.Queue.Invariant
import FederatedIot.Queue.Cancellation
import FederatedIot.Queue.Fencing
import FederatedIot.Foundation.JsonInjective
import FederatedIot.Queue.CanonicalRequest
import FederatedIot.Queue.Idempotency
import FederatedIot.Foundation.Locking
import FederatedIot.Queue.RowLocks
import FederatedIot.Queue.Deadlock
import FederatedIot.Queue.LockOrder
import FederatedIot.Queue.Capacity
import FederatedIot.Queue.Fifo
import FederatedIot.Queue.Announcements
import FederatedIot.Live.EventLog
import FederatedIot.Live.EventStream
import FederatedIot.Live.Completeness
import FederatedIot.Frontend.SimulationStore
import FederatedIot.Frontend.Subscriptions
import FederatedIot.Live.Framing
import FederatedIot.Queue.Testimony
import FederatedIot.Frontend.Delivery
import FederatedIot.Frontend.Projection
import FederatedIot.Frontend.Coverage
import FederatedIot.Frontend.AppliedEvents
import FederatedIot.Dataset.Timestamps
import FederatedIot.Worker.Aggregation
import FederatedIot.Foundation.Binary64
import FederatedIot.Foundation.NumberText
import FederatedIot.Foundation.Keyset
import FederatedIot.Results.Paging
import FederatedIot.Queue.Service
import FederatedIot.Queue.SimulationList
import FederatedIot.Queue.Listing
import FederatedIot.Queue.Material
import FederatedIot.Queue.Rerun
import FederatedIot.Foundation.Decoding
import FederatedIot.Frontend.ParameterView
import FederatedIot.Worker.Parameters
import FederatedIot.Worker.EffectiveParameters
import FederatedIot.Foundation.PythonText
import FederatedIot.Worker.AgentTrees
import FederatedIot.Worker.Preprocessing
import FederatedIot.Foundation.Ranks
import FederatedIot.Worker.SegmentOrder
import FederatedIot.Results.AlarmTimes
import FederatedIot.Foundation.Paths
import FederatedIot.Worker.SafePaths
import FederatedIot.Worker.Features
import FederatedIot.Worker.FeatureLayout
import FederatedIot.Worker.PartitionCover
import FederatedIot.Foundation.MovingAverage
import FederatedIot.Worker.ZeroPhase
import FederatedIot.Foundation.Doubles
import FederatedIot.Foundation.Utf8
import FederatedIot.Foundation.JsonValue
import FederatedIot.Foundation.Splitting
import FederatedIot.Live.Wire
import FederatedIot.Live.RoundTrip
import FederatedIot.Foundation.JsonOrder
import FederatedIot.Foundation.Windows
import FederatedIot.Worker.Fusion
import FederatedIot.Worker.FusionRun
import FederatedIot.Queue.EventBoundary
import FederatedIot.Foundation.Clusters
import FederatedIot.Foundation.JsonCoding
import FederatedIot.Foundation.Jsonb
import FederatedIot.Foundation.Lines
import FederatedIot.Foundation.Positions
import FederatedIot.Profiles.Constraints
import FederatedIot.Profiles.Repository
import FederatedIot.Worker.ClusterCost
import FederatedIot.Worker.Despiking
import FederatedIot.Worker.ProductOfExperts
import FederatedIot.Worker.RowConservation
import FederatedIot.Dataset.Import
import FederatedIot.Dataset.ImportAtomic
import FederatedIot.Frontend.DatasetPoller
import FederatedIot.Frontend.QueueCount
import FederatedIot.Profiles.CompleteObjects
import FederatedIot.Profiles.Deduplication
import FederatedIot.Profiles.DeduplicationRun
import FederatedIot.Queue.LiteralSearch
import FederatedIot.Results.Sampling
import FederatedIot.Foundation.Feedback
import FederatedIot.Foundation.MersenneTwister
import FederatedIot.Foundation.Triangular
import FederatedIot.Worker.Cholesky
import FederatedIot.Worker.RateLimit
import FederatedIot.Worker.RealCholesky
import FederatedIot.Worker.ReferenceTwister
import FederatedIot.Foundation.Work
import FederatedIot.Worker.ArtifactCommit
import FederatedIot.Worker.ArtifactSessions
import FederatedIot.Foundation.Covering
import FederatedIot.Foundation.JsonSame
import FederatedIot.Foundation.Kernels
import FederatedIot.Profiles.Exchange
import FederatedIot.Profiles.Identity
import FederatedIot.Worker.Anchors
import FederatedIot.Worker.Causality
import FederatedIot.Worker.Stages
import FederatedIot.Foundation.Interference
import FederatedIot.Queue.Acceptance
import FederatedIot.Queue.Attendance
import FederatedIot.Worker.Attempt
import FederatedIot.Worker.AttemptEnds
import FederatedIot.Queue.Recovery
import FederatedIot.Queue.Columns
import FederatedIot.Queue.Handover
