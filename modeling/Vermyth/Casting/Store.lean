import Vermyth.Engine.Causal
import Vermyth.Grimoire.Casting
import Vermyth.Grimoire.Decisions

set_option autoImplicit false

namespace Vermyth

open Foundation

def SwarmMember.key (member : SwarmMember) : String × String := (member.swarmId, member.sessionId)

structure CastProcess where
  env : SeedEnv
  math : VectorMath
  backend : Option ProjectionBackend := none
  activeThresholds : DivergenceThresholds := {}
  policyModel : PolicyModel := {}
  seeds : SeedStore
  casts : Table CastRecord.castId := Table.empty
  channels : Table ChannelState.branchId := Table.empty
  divergenceReports : Table DivergenceReport.castId := Table.empty
  causalEdges : Table CausalEdge.edgeId := Table.empty
  swarms : Table SwarmState.swarmId := Table.empty
  swarmMembers : Table SwarmMember.key := Table.empty
  decisions : Table DecisionRow.decisionId := Table.empty
  storedThresholds : Option DivergenceThresholds := none

namespace CastProcess

def registry (process : CastProcess) : AspectRegistry := process.env.registry

def engine (process : CastProcess) : ResonanceEngine where
  math := process.math
  backend := process.backend
  composition := process.env.engine
  registry := process.env.registry
  order := process.env.order

end CastProcess

def SemanticVector.stored (vector : SemanticVector) : SemanticVector :=
  { vector with basisVersion := some vector.normalizedBasisVersion }

def SemanticVector.restored (registry : AspectRegistry) (vector : SemanticVector) : SemanticVector :=
  storedVector registry vector.components vector.normalizedBasisVersion

def IntentVector.restored (registry : AspectRegistry) (intent : IntentVector) : IntentVector :=
  { intent with
    vector := intent.vector.restored registry
    constraintComponent := intent.constraintComponent.restored registry
    semanticComponent := intent.semanticComponent.map fun vector => vector.restored registry }

-- _deserialize_cast_result, with the aspects that the names resolve to.
def restoredCast (registry : AspectRegistry) (aspects : AspectSet) (record : CastRecord) : CastRecord :=
  { record with
    sigil := { record.sigil with aspects := aspects, semanticVector := record.sigil.semanticVector.stored }
    verdict := { record.verdict with intentVector := record.verdict.intentVector.restored registry } }

namespace CastProcess

variable (process : CastProcess)

def writeCast (record : CastRecord) : Except PyError CastProcess :=
  match process.casts.insert? record with
  | none => .error (.valueError ("CastResult with cast_id '" ++ record.castId ++ "' already exists"))
  | some casts => do
      let _ ← sqlInteger record.sigil.semanticVector.normalizedBasisVersion
      return { process with casts := casts }

theorem write_cast_only (record : CastRecord) (written : CastProcess) (wrote : process.writeCast record = .ok written) :
    ∃ casts, written = { process with casts := casts } := by
  rw [writeCast] at wrote
  cases inserted : process.casts.insert? record with
  | none =>
      rw [inserted] at wrote
      contradiction
  | some casts =>
      rw [inserted] at wrote
      obtain ⟨_, -, wrote⟩ := (bind_ok _ _ _).mp wrote
      exact ⟨casts, (Except.ok.inj wrote).symm⟩

-- _deserialize_cast_result of the row of a cast.
def deserializeCast (record : CastRecord) : Except PyError CastRecord := do
  let resolved ← resolveNames process.registry record.sigil.aspects.names
  return restoredCast process.registry (.build process.env.order (resolved.map Aspect.name)) record

def readCast (castId : String) : Except PyError CastRecord :=
  match process.casts.find? castId with
  | none => .error (.keyError castId)
  | some record => process.deserializeCast record

theorem read_cast_found (castId : String) (record : CastRecord) (found : process.casts.find? castId = some record) :
    process.readCast castId = process.deserializeCast record := by
  rw [readCast, found]

theorem read_cast_restored (castId : String) (read : CastRecord) (reads : process.readCast castId = .ok read) :
    ∃ row aspects, process.casts.find? castId = some row ∧ row.castId = castId ∧
      read = restoredCast process.registry aspects row := by
  rw [readCast] at reads
  cases found : process.casts.find? castId with
  | none =>
      rw [found] at reads
      contradiction
  | some row =>
      rw [found] at reads
      obtain ⟨resolved, -, reads⟩ := (bind_ok _ _ _).mp reads
      obtain rfl := Except.ok.inj reads
      exact ⟨row, _, rfl, Table.find_key process.casts castId row found, rfl⟩

def writeChannelState (state : ChannelState) : Except PyError CastProcess := do
  let _ ← sqlInteger state.castCount
  let _ ← sqlInteger state.coherenceStreak
  let basis := (state.constraintVector.map SemanticVector.normalizedBasisVersion).getD process.registry.basisVersion
  let _ ← sqlInteger basis
  return { process with channels := process.channels.upsert state }

-- None where the read raises a KeyError.
def channelState? (branchId : String) : Option ChannelState :=
  (process.channels.find? branchId).map fun state =>
    { state with constraintVector := state.constraintVector.map SemanticVector.stored }

def writeDivergenceReport (report : DivergenceReport) : CastProcess :=
  { process with divergenceReports := process.divergenceReports.put report }

def divergenceThresholds : DivergenceThresholds := process.storedThresholds.getD {}

def writeCausalEdge (edge : CausalEdge) : CastProcess :=
  { process with causalEdges := process.causalEdges.upsert edge }

-- ORDER BY created_at DESC LIMIT 1000
def queryCausalEdges (castId : String) (minWeight : ℚ) : List CausalEdge :=
  ((process.causalEdges.rows.filter fun edge =>
      minWeight ≤ edge.weight && (edge.sourceCastId = castId || edge.targetCastId = castId)).insertionSort
    fun a b => String.ofList b.createdAt.isoformat ≤ String.ofList a.createdAt.isoformat).take 1000

def readSwarmState (swarmId : String) : Except PyError SwarmState :=
  match process.swarms.find? swarmId with
  | none => .error (.keyError swarmId)
  | some state => .ok state

def writeSwarmState (state : SwarmState) : CastProcess := { process with swarms := process.swarms.upsert state }

-- ORDER BY session_id ASC
def querySwarmMembers (swarmId : String) : List SwarmMember :=
  (process.swarmMembers.rows.filter fun member => member.swarmId = swarmId).insertionSort
    fun a b => a.sessionId ≤ b.sessionId

def upsertSwarmMember (member : SwarmMember) : Except PyError CastProcess := do
  let _ ← sqlInteger member.coherenceStreak
  return { process with swarmMembers := process.swarmMembers.upsert member }

def writePolicyDecision (decision : PolicyDecision) : Except PyError CastProcess :=
  if process.casts.Has decision.castId then .ok { process with decisions := process.decisions.put decision.row }
  else .error (.runtimeError "FOREIGN KEY constraint failed")

def readPolicyDecision (decisionId : String) : Except PyError PolicyDecision :=
  match process.decisions.find? decisionId with
  | none => .error (.keyError decisionId)
  | some row => row.decision

-- ORDER BY created_at DESC LIMIT <limit>, where a negative limit is none.
def queryPolicyDecisions (action : Option PolicyAction) (since : Option Datetime) (limit : Int) :
    Except PyError (List PolicyDecision) := do
  let limit ← sqlInteger limit
  let selected := process.decisions.rows.filter fun row =>
    (action.all fun action => row.action = action.value) &&
      since.all fun since => String.ofList since.isoformat ≤ String.ofList row.createdAt.isoformat
  let ordered := selected.insertionSort
    fun a b => String.ofList b.createdAt.isoformat ≤ String.ofList a.createdAt.isoformat
  (if limit < 0 then ordered else ordered.take limit.toNat).mapM fun row => process.readPolicyDecision row.decisionId

end CastProcess

structure Visited where
  nodes : List String
  edges : Table CausalEdge.edgeId := Table.empty

def CausalQuery.Follows (query : CausalQuery) (nodeId : String) (edge : CausalEdge) : Bool :=
  (query.edgeTypes.all fun types => types = [] ∨ edge.edgeType ∈ types) && match query.direction with
    | .forward => edge.sourceCastId = nodeId
    | .backward => edge.targetCastId = nodeId
    | .both => true

def joinNode (nodeId : String) (visited : Visited × List String) : Visited × List String :=
  if nodeId ∈ visited.1.nodes then visited
  else ({ visited.1 with nodes := visited.1.nodes ++ [nodeId] }, visited.2 ++ [nodeId])

def visitEdge (visited : Visited × List String) (edge : CausalEdge) : Visited × List String :=
  joinNode edge.targetCastId (joinNode edge.sourceCastId
    ({ visited.1 with edges := visited.1.edges.upsert edge }, visited.2))

def visitNeighbors (process : CastProcess) (query : CausalQuery) (visited : Visited × List String) (nodeId : String) :
    Visited × List String :=
  ((process.queryCausalEdges nodeId query.minWeight).filter (query.Follows nodeId)).foldl visitEdge visited

def explore (process : CastProcess) (query : CausalQuery) : Nat → List String → Visited → Visited
  | 0, _, visited => visited
  | depths + 1, frontier, visited =>
      let (visited, next) := frontier.foldl (visitNeighbors process query) (visited, [])
      explore process query depths next visited

def causalSubgraph (process : CastProcess) (query : CausalQuery) : CausalSubgraph :=
  let visited := explore process query query.maxDepth [query.rootCastId] { nodes := [query.rootCastId] }
  let edges := visited.edges.rows
  { rootCastId := query.rootCastId
    nodes := visited.nodes.insertionSort (· ≤ ·)
    edges := edges
    narrativeCoherence := clampUnit (if edges = [] then 0 else (edges.map CausalEdge.weight).sum / edges.length)
    coherenceRange := clamp_in_unit _ }

end Vermyth
