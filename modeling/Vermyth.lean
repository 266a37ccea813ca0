import Vermyth.Adapters.ConcurrentTasks
import Vermyth.Adapters.DivinationGate
import Vermyth.Adapters.Gateway
import Vermyth.Adapters.Http
import Vermyth.Adapters.HttpScopes
import Vermyth.Adapters.Principal
import Vermyth.Adapters.Scope
import Vermyth.Adapters.Security
import Vermyth.Adapters.SignMaterial
import Vermyth.Adapters.ToolScope
import Vermyth.Adapters.WardBinding
import Vermyth.Arcane.Banishment
import Vermyth.Arcane.BundleCache
import Vermyth.Arcane.Bundles
import Vermyth.Arcane.Recommend
import Vermyth.Arcane.Recommended
import Vermyth.Arcane.Telemetry
import Vermyth.Arcane.Ward
import Vermyth.Arcane.WardDocuments
import Vermyth.Casting.Backfill
import Vermyth.Casting.BasisMismatch
import Vermyth.Casting.CastAtomicity
import Vermyth.Casting.CastQueries
import Vermyth.Casting.CastRoundTrip
import Vermyth.Casting.CastRows
import Vermyth.Casting.ChannelHistory
import Vermyth.Casting.ChannelRecovery
import Vermyth.Casting.Channels
import Vermyth.Casting.ConcurrentTools
import Vermyth.Casting.Crystallization
import Vermyth.Casting.DecideDispatch
import Vermyth.Casting.DecisionRecords
import Vermyth.Casting.DriftBranches
import Vermyth.Casting.DriftReports
import Vermyth.Casting.DriftViews
import Vermyth.Casting.EdgeFilters
import Vermyth.Casting.Fallback
import Vermyth.Casting.GenesisProposals
import Vermyth.Casting.InferredEdges
import Vermyth.Casting.Interpolation
import Vermyth.Casting.Lineage
import Vermyth.Casting.Narrative
import Vermyth.Casting.NoDrift
import Vermyth.Casting.Predictive
import Vermyth.Casting.ProgramDocuments
import Vermyth.Casting.ProgramRows
import Vermyth.Casting.Programs
import Vermyth.Casting.Quiet
import Vermyth.Casting.SemanticSearch
import Vermyth.Casting.SharedModel
import Vermyth.Casting.SharedReceipts
import Vermyth.Casting.Store
import Vermyth.Casting.SwarmDoubles
import Vermyth.Casting.SwarmJoins
import Vermyth.Casting.SwarmLaws
import Vermyth.Casting.Tools
import Vermyth.Casting.Traversal
import Vermyth.Engine.AutoChain
import Vermyth.Engine.BasisExtension
import Vermyth.Engine.BasisMismatch
import Vermyth.Engine.BasisVerdict
import Vermyth.Engine.CanonicalOrder
import Vermyth.Engine.Causal
import Vermyth.Engine.CausalInference
import Vermyth.Engine.Compile
import Vermyth.Engine.Composition
import Vermyth.Engine.Containment
import Vermyth.Engine.DivergenceLaws
import Vermyth.Engine.DriftCeiling
import Vermyth.Engine.Entry
import Vermyth.Engine.Execute
import Vermyth.Engine.ExecutionResults
import Vermyth.Engine.FluidCasting
import Vermyth.Engine.GateRemoval
import Vermyth.Engine.Interpolation
import Vermyth.Engine.NameRoom
import Vermyth.Engine.Outcome
import Vermyth.Engine.Policy
import Vermyth.Engine.PolicyWeights
import Vermyth.Engine.Progress
import Vermyth.Engine.Projection
import Vermyth.Engine.ProposeGenesis
import Vermyth.Engine.ReceiptSigning
import Vermyth.Engine.Receipts
import Vermyth.Engine.Reexpression
import Vermyth.Engine.Resonance
import Vermyth.Engine.RiskOrder
import Vermyth.Engine.Run
import Vermyth.Engine.Scaling
import Vermyth.Engine.ScoringLaws
import Vermyth.Engine.SeedStatistic
import Vermyth.Engine.Seeds
import Vermyth.Engine.Totality
import Vermyth.Engine.Vectors
import Vermyth.Foundation.Agreeing
import Vermyth.Foundation.Base64
import Vermyth.Foundation.Batches
import Vermyth.Foundation.Cosine
import Vermyth.Foundation.Counter
import Vermyth.Foundation.Delimited
import Vermyth.Foundation.Grouping
import Vermyth.Foundation.Heapq
import Vermyth.Foundation.Interleaving
import Vermyth.Foundation.Latest
import Vermyth.Foundation.LeastOrder
import Vermyth.Foundation.Loop
import Vermyth.Foundation.Lru
import Vermyth.Foundation.Memo
import Vermyth.Foundation.Raises
import Vermyth.Foundation.RunningMean
import Vermyth.Foundation.Strongest
import Vermyth.Foundation.Table
import Vermyth.Foundation.Transition
import Vermyth.Foundation.Window
import Vermyth.Grimoire.Casting
import Vermyth.Grimoire.Crystallized
import Vermyth.Grimoire.Genesis
import Vermyth.Grimoire.GossipProof
import Vermyth.Grimoire.GossipSync
import Vermyth.Grimoire.HalfRegistered
import Vermyth.Grimoire.Lifecycle
import Vermyth.Grimoire.Migrations
import Vermyth.Grimoire.Opening
import Vermyth.Grimoire.PatternLookup
import Vermyth.Grimoire.ReceiptRows
import Vermyth.Grimoire.Registration
import Vermyth.Grimoire.Replay
import Vermyth.Grimoire.Restart
import Vermyth.Grimoire.SeedInvariant
import Vermyth.Grimoire.SeedLedger
import Vermyth.Grimoire.Seeds
import Vermyth.Grimoire.Store
import Vermyth.Grimoire.Swarm
import Vermyth.Mcp.BinaryServer
import Vermyth.Mcp.BinaryTransport
import Vermyth.Mcp.EventBus
import Vermyth.Mcp.FrameStream
import Vermyth.Mcp.GeometricPackets
import Vermyth.Mcp.JsonRpc
import Vermyth.Mcp.Server
import Vermyth.Protocol.CanonicalJson
import Vermyth.Protocol.JsonRoundTrip
import Vermyth.Protocol.JsonScan
import Vermyth.Protocol.JsonText
import Vermyth.Protocol.KeyOrder
import Vermyth.Protocol.SessionCodec
import Vermyth.Schema.Aspect
import Vermyth.Schema.Casting
import Vermyth.Schema.Datetime
import Vermyth.Schema.DatetimeOrder
import Vermyth.Schema.PolicyDocuments
import Vermyth.Schema.ReceiptDocuments
import Vermyth.Schema.Sigil
import Vermyth.Schema.Swarm
import Vermyth.Session.AtMostOnce
import Vermyth.Session.Binding
import Vermyth.Session.Fork
import Vermyth.Session.HalfApplied
import Vermyth.Session.Policy
import Vermyth.Session.Run
import Vermyth.Session.Store
import Vermyth.Session.Tools
import Vermyth.Typescript.CastAgreement
import Vermyth.Typescript.CastRoundTrip
import Vermyth.Typescript.CastRows
import Vermyth.Typescript.Casting
import Vermyth.Typescript.EngineAgreement
import Vermyth.Typescript.Lineage
import Vermyth.Typescript.Resonance
import Vermyth.Typescript.RowAgreement
import Vermyth.Typescript.Schema
import Vermyth.Typescript.VerdictAgreement
