import Vermyth.Casting.Store

set_option autoImplicit false

namespace Vermyth

open Foundation

structure CallDraws where
  casts : ChainStamps
  channel : ChannelStamp
  lineageBranch : String
  now : Datetime
  seed : Nat → SeedDraw
  edge : Nat → EdgeStamp
  decisionId : String

def CallDraws.stamp (draws : CallDraws) : CastStamp := draws.casts.cast 0

-- What a call returns or raises, and what it leaves.
abbrev CallOutcome (α : Type) := Except PyError α × CastProcess

-- raise RuntimeError(f"<tool> failed: {exc}"), but for ValueError and KeyError.
def wrapRaised (tool : String) : PyError → PyError
  | .valueError text => .valueError text
  | .keyError key => .keyError key
  | raised => .runtimeError (tool ++ " failed: " ++ raised.text)

def wrapped {α : Type} (tool : String) (outcome : CallOutcome α) : CallOutcome α :=
  (outcome.1.mapError (wrapRaised tool), outcome.2)

def CastRecord.seedCast (record : CastRecord) : SeedCast where
  aspects := record.sigil.aspects
  effectClass := record.sigil.effectClass
  verdict := record.verdict.verdict

namespace CastProcess

variable (process : CastProcess)

def reportOn (result parent : CastRecord) (draws : CallDraws) : Except PyError DivergenceReport :=
  classify process.math result.castId parent.castId parent.sigil.semanticVector result.sigil.semanticVector
    process.activeThresholds draws.now

def attachParent (result : CastRecord) (parentCastId branchId : Option String) (draws : CallDraws) :
    Except PyError (CastRecord × CastProcess) :=
  match parentCastId with
  | none => .ok (result, process)
  | some parentCastId => do
      let parent ← process.readCast parentCastId
      let branch := branchId.getD ((parent.lineage.map Lineage.branchId).getD draws.lineageBranch)
      let child := result.withLineage parent branch
      let report ← process.reportOn child parent draws
      return (child, process.writeDivergenceReport report)

def growSeed (asked : AspectSet) (result : CastRecord) (draw : SeedDraw) : CallOutcome Unit :=
  let grown := accumulateSeed process.env asked result.seedCast draw process.seeds
  (grown.1, { process with seeds := grown.2 })

def keepCast (asked : AspectSet) (result : CastRecord) (draw : SeedDraw) : CallOutcome CastRecord :=
  match process.growSeed asked result draw with
  | (.error raised, grown) => (.error raised, grown)
  | (.ok _, grown) =>
      match grown.writeCast result with
      | .error raised => (.error raised, grown)
      | .ok written => (.ok result, written)

def baseCast (asked : AspectSet) (intent : Intent) (stamp : CastStamp) : Except PyError CastRecord := do
  let crystal ← crystallizedForAspects process.registry process.env.order asked process.seeds.grimoire.crystallized
  match crystal with
  | some crystal => return { castId := stamp.castId, timestamp := stamp.timestamp, intent := intent,
                             sigil := crystal.sigil, verdict := process.engine.evaluate crystal.sigil intent }
  | none => process.engine.cast asked intent stamp

def chainedResult (asked : AspectSet) (intent : Intent) (branchId : Option String) (force : Bool)
    (draws : CallDraws) : Except PyError (CastRecord × CastProcess) := do
  let channel := branchId.bind process.channelState?
  let (result, state) ← process.engine.chainedCast asked intent channel force draws.stamp draws.channel
  let state := if channel.isNone then { state with branchId := branchId.getD state.branchId } else state
  let written ← process.writeChannelState state
  return (result, written)

structure CastArguments where
  aspects : List String
  intent : Except PyError Intent
  parentCastId : Option String := none
  branchId : Option String := none
  chained : Bool := false
  force : Bool := false

def beginCast (arguments : CastArguments) (draws : CallDraws) :
    Except PyError (AspectSet × CastRecord × CastProcess) := do
  let asked ← askedSet process.env arguments.aspects
  let intent ← arguments.intent
  if arguments.chained then
    let (result, written) ← process.chainedResult asked intent arguments.branchId arguments.force draws
    return (asked, result, written)
  else
    let result ← process.baseCast asked intent draws.stamp
    return (asked, result, process)

def castSteps (arguments : CastArguments) (draws : CallDraws) : CallOutcome CastRecord :=
  match process.beginCast arguments draws with
  | .error raised => (.error raised, process)
  | .ok (asked, result, begun) =>
      match begun.attachParent result arguments.parentCastId arguments.branchId draws with
      | .error raised => (.error raised, begun)
      | .ok (child, attached) => attached.keepCast asked child (draws.seed 0)

def toolCast (arguments : CastArguments) (draws : CallDraws) : CallOutcome CastRecord :=
  wrapped "cast" (process.castSteps arguments draws)

def requestVector (components : List ℚ) : Except PyError SemanticVector :=
  if atLeastSix : 6 ≤ components.length then
    if (components.take 6).all fun x => -1 ≤ x && x ≤ 1 then
      .ok { components := components, atLeastSix := atLeastSix }
    else .error (.valueError "vector components must be between -1.0 and 1.0")
  else .error (.valueError "vector must contain at least 6 floats")

def requestFluid (components : List ℚ) (intent : Except PyError Intent) : Except PyError (SemanticVector × Intent) := do
  let vector ← requestVector components
  let intent ← intent
  return (vector, intent)

def beginFluid (components : List ℚ) (intent : Except PyError Intent) (draws : CallDraws) :
    Except PyError CastRecord := do
  let (vector, intent) ← requestFluid components intent
  process.engine.fluidCast vector intent draws.stamp

def toolFluidCast (components : List ℚ) (intent : Except PyError Intent) (parentCastId branchId : Option String)
    (draws : CallDraws) : CallOutcome CastRecord :=
  wrapped "fluid_cast" <|
    match process.beginFluid components intent draws with
    | .error raised => (.error raised, process)
    | .ok result =>
        match process.attachParent result parentCastId branchId draws with
        | .error raised => (.error raised, process)
        | .ok (child, attached) => attached.keepCast child.sigil.aspects child (draws.seed 0)

def writeFluidReport (result : CastRecord) (draws : CallDraws) : Except PyError CastProcess :=
  match result.lineage with
  | none => .ok process
  | some lineage => do
      let parent ← process.readCast lineage.parentCastId
      let report ← process.reportOn result parent draws
      return process.writeDivergenceReport report

-- _write_fluid_result_to_grimoire
def writeFluidResult (result : CastRecord) (draws : CallDraws) (draw : SeedDraw) : CallOutcome CastRecord :=
  match process.writeFluidReport result draws with
  | .error raised => (.error raised, process)
  | .ok reported => reported.keepCast result.sigil.aspects result draw

def writeResults (draws : CallDraws) : List CastRecord → Nat → CastProcess → CallOutcome Unit
  | [], _, process => (.ok (), process)
  | result :: rest, place, process =>
      match process.writeFluidResult result draws (draws.seed place) with
      | (.error raised, left) => (.error raised, left)
      | (.ok _, written) => writeResults draws rest (place + 1) written

structure AutoArguments where
  components : List ℚ
  intent : Except PyError Intent
  maxDepth : Int := 5
  targetResonance : ℚ := 75 / 100
  blendAlpha : ℚ := 35 / 100

def beginAuto (arguments : AutoArguments) (draws : CallDraws) : Except PyError (CastRecord × List CastRecord) := do
  let (vector, intent) ← requestFluid arguments.components arguments.intent
  process.engine.autoCast vector intent arguments.maxDepth arguments.targetResonance arguments.blendAlpha draws.casts

def toolAutoCast (arguments : AutoArguments) (draws : CallDraws) : CallOutcome CastRecord :=
  match process.beginAuto arguments draws with
  | .error raised => (.error raised, process)
  | .ok (final, chain) =>
      let written := writeResults draws chain 0 process
      (written.1.map fun _ => final, written.2)

structure GeometricPacket where
  payload : List ℚ
  longEnough : 15 ≤ payload.length

def GeometricPacket.make (payload : List ℚ) (version : Int) : Except PyError GeometricPacket :=
  if version < 1 then .error (invalid "GeometricPacket" "version")
  else if version ≠ 1 then .error (.valueError "unsupported geometric packet version")
  else if longEnough : 15 ≤ payload.length then .ok { payload, longEnough }
  else .error (.valueError "payload too short for geometric packet v1")

def GeometricPacket.aspectVector (packet : GeometricPacket) : SemanticVector where
  components := packet.payload.take 6
  atLeastSix := by
    have long := packet.longEnough
    rw [List.length_take]
    omega

def GeometricPacket.Proved (packet : GeometricPacket) : Prop :=
  let expected := ((List.range 4).map fun i => coeff packet.payload i * coeff packet.payload (6 + i)).sum
  |expected - packet.payload.getLast?.getD 0| ≤ 1 / 10000

instance (packet : GeometricPacket) : Decidable packet.Proved := inferInstanceAs (Decidable (_ ≤ _))

def GeometricPacket.intent (packet : GeometricPacket) : Intent where
  objective := "geometric_packet"
  scope := "geometric_packet"
  reversibility :=
    let i0 := coeff packet.payload 6
    if i0 ≤ -1 / 2 then .reversible else if 1 / 2 ≤ i0 then .irreversible else .partially
  sideEffectTolerance :=
    let i1 := coeff packet.payload 7
    if i1 ≤ 20 / 100 then .none else if i1 ≤ 50 / 100 then .low else if i1 ≤ 85 / 100 then .medium else .high

def blendChannel (math : VectorMath) (vector : SemanticVector) (channel : Option ChannelState) : SemanticVector :=
  match channel.bind ChannelState.constraintVector with
  | none => vector
  | some constraint =>
      let blended := mixedComponents (20 / 100) vector.components constraint.components
      { components := if 0 < l2Norm math blended then blended.map fun c => c / l2Norm math blended else blended
        atLeastSix := by
          have six := mixed_six (20 / 100) vector constraint.components
          split
          · rwa [List.length_map]
          · exact six }

structure GeometricArguments where
  payload : List ℚ
  version : Int := 1
  branchId : Option String := none
  force : Bool := false

def geometricRequest (arguments : GeometricArguments) : Except PyError (SemanticVector × Intent) := do
  let packet ← GeometricPacket.make arguments.payload arguments.version
  if packet.Proved then
    let channel := arguments.branchId.bind process.channelState?
    match channel.filter fun state => state.status = .decoherent && !arguments.force with
    | some _ => throw (.valueError "channel is DECOHERENT; sync required")
    | none => return (blendChannel process.math packet.aspectVector channel, packet.intent)
  else throw (.valueError "invalid geometric packet proof")

def beginGeometric (arguments : GeometricArguments) (draws : CallDraws) : Except PyError CastRecord := do
  let (vector, intent) ← process.geometricRequest arguments
  process.engine.fluidCast vector intent draws.stamp

def geometricChannel (arguments : GeometricArguments) (result : CastRecord) (draws : CallDraws) :
    Except PyError CastProcess :=
  match arguments.branchId with
  | none => .ok process
  | some branchId => do
      let state ← ResonanceEngine.channelAfter (process.channelState? branchId) result
        { draws.channel with branchId := branchId }
      process.writeChannelState state

-- The cast is written before its channel.
def toolGeometricCast (arguments : GeometricArguments) (draws : CallDraws) : CallOutcome CastRecord :=
  match process.beginGeometric arguments draws with
  | .error raised => (.error raised, process)
  | .ok result =>
      match process.writeCast result with
      | .error raised => (.error raised, process)
      | .ok written =>
          match written.geometricChannel arguments result draws with
          | .error raised => (.error raised, written)
          | .ok channelled => (.ok result, channelled)

structure SwarmArguments where
  swarmId : String
  sessionId : String
  components : List ℚ
  intent : Except PyError Intent
  consensusThreshold : Option ℚ := none

def swarmInputs (arguments : SwarmArguments) (vector : SemanticVector) : List SwarmMember :=
  let raw := process.querySwarmMembers arguments.swarmId
  let joined := if raw.any fun member => member.sessionId = arguments.sessionId then
      raw.map fun member => if member.sessionId = arguments.sessionId then { member with vector := vector } else member
    else raw ++ [{ swarmId := arguments.swarmId, sessionId := arguments.sessionId, vector := vector,
                   coherenceStreak := 0 }]
  joined.insertionSort fun a b => a.sessionId ≤ b.sessionId

def memberWeight (member : SwarmMember) : ℚ := 1 + 1 / 100 * min 100 member.coherenceStreak

def aggregateVector (engine : ResonanceEngine) (members : List SwarmMember) : SemanticVector :=
  let weights := (members.map memberWeight).sum
  normalizeUnit engine.math engine.registry ((List.range engine.registry.dimensionality).map fun i =>
      (members.map fun member => memberWeight member * coeff member.vector.components i).sum /
        if weights ≤ 0 then 1 else weights)
    (by
      rw [List.length_map, List.length_range]
      exact engine.registry.dimensionality_six)

def swarmStatus (verdict : EvaluatedVerdict) (threshold : ℚ) : SwarmStatus :=
  if verdict.Reaches threshold then .coherent
  else if verdict.verdictType = .incoherent then .decoherent else .strained

def streakAfter (status : SwarmStatus) (member : SwarmMember) : SwarmMember :=
  match status with
  | .coherent => { member with coherenceStreak := member.coherenceStreak + 1 }
  | .decoherent => { member with coherenceStreak := 0 }
  | .strained => member

structure SwarmCast where
  members : List SwarmMember
  aggregated : SemanticVector
  status : SwarmStatus
  threshold : ℚ
  result : CastRecord

def beginSwarm (arguments : SwarmArguments) (draws : CallDraws) : Except PyError SwarmCast :=
  if atLeastSix : 6 ≤ arguments.components.length then do
    let vector : SemanticVector := { components := arguments.components, atLeastSix := atLeastSix }
    let intent ← arguments.intent
    let state ← process.readSwarmState arguments.swarmId
    let threshold := arguments.consensusThreshold.getD state.consensusThreshold
    let members := process.swarmInputs arguments vector
    let aggregated := aggregateVector process.engine members
    let result ← process.engine.fluidCast aggregated intent draws.stamp
    return { members, aggregated, status := swarmStatus result.verdict threshold, threshold, result }
  else .error (.valueError "vector must contain at least 6 floats")

def upsertMembers : List SwarmMember → CastProcess → CallOutcome Unit
  | [], process => (.ok (), process)
  | member :: rest, process =>
      match process.upsertSwarmMember member with
      | .error raised => (.error raised, process)
      | .ok written => upsertMembers rest written

def toolSwarmCast (arguments : SwarmArguments) (draws : CallDraws) : CallOutcome CastRecord :=
  match process.beginSwarm arguments draws with
  | .error raised => (.error raised, process)
  | .ok cast =>
      match upsertMembers (cast.members.map (streakAfter cast.status)) process with
      | (.error raised, left) => (.error raised, left)
      | (.ok _, joined) =>
          match SwarmState.make arguments.swarmId cast.threshold cast.status cast.aggregated (some cast.result.castId)
            draws.now with
          | .error raised => (.error raised, joined)
          | .ok state =>
              match (joined.writeSwarmState state).writeCast cast.result with
              | .error raised => (.error raised, joined.writeSwarmState state)
              | .ok written => (.ok cast.result, written)

-- What pydantic and the table of policy models make of the other arguments.
structure DecideSettings where
  thresholds : PolicyThresholds := {}
  effects : List Effect := []
  policyModel : Option PolicyModel := none

structure DecideArguments where
  intent : Except PyError Intent
  aspects : Option (List String) := none
  vector : Option (List ℚ) := none
  parentCastId : Option String := none
  causalRootCastId : Option String := none
  settings : Except PyError DecideSettings := .ok {}
  requireCausalRoot : Bool := false

structure DecideRequest where
  intent : Intent
  aspects : Option AspectSet
  vector : Option SemanticVector
  settings : DecideSettings

def decideRequest (arguments : DecideArguments) : Except PyError DecideRequest :=
  if arguments.requireCausalRoot ∧ arguments.causalRootCastId.getD "" = "" then
    .error (.valueError
      "divination gate: causal_root_cast_id required when ritual/bundle requires causal context")
  else do
    let intent ← arguments.intent
    let aspects ← arguments.aspects.mapM (askedSet process.env)
    let vector ← arguments.vector.mapM fun components => SemanticVector.make components none
    let settings ← arguments.settings
    return { intent, aspects, vector, settings }

def decideCast (request : DecideRequest) (draws : CallDraws) : Except PyError CastRecord :=
  match request.aspects, request.vector with
  | some _, some _ => .error (.valueError "pass either aspects or vector, not both")
  | some aspects, none => process.engine.cast aspects request.intent draws.stamp
  | none, some vector => process.engine.fluidCast vector request.intent draws.stamp
  | none, none =>
      (process.engine.autoCast (process.engine.intentVector request.intent).vector request.intent 5 (75 / 100)
        (35 / 100) draws.casts).map Prod.fst

def decideStatus (arguments : DecideArguments) (result : CastRecord) (draws : CallDraws) :
    Except PyError (Option DivergenceStatus) :=
  match arguments.parentCastId with
  | none => .ok none
  | some parentCastId => do
      let parent ← process.readCast parentCastId
      let report ← classify process.math result.castId parentCastId parent.sigil.semanticVector
        result.sigil.semanticVector process.divergenceThresholds draws.now
      return some report.status

def narrativeOf (arguments : DecideArguments) : Option ℚ :=
  arguments.causalRootCastId.map fun root => evaluateNarrative (causalSubgraph process { rootCastId := root }).edges

theorem narrative_of_unit (arguments : DecideArguments) :
    ∀ coherence ∈ process.narrativeOf arguments, InUnit coherence := by
  intro coherence given
  obtain ⟨root, -, rfl⟩ := Option.map_eq_some_iff.mp given
  exact narrative_in_unit _

def beginDecide (arguments : DecideArguments) (draws : CallDraws) : Except PyError (PolicyDecision × CastRecord) := do
  let request ← process.decideRequest arguments
  let result ← process.decideCast request draws
  let status ← process.decideStatus arguments result draws
  let input : DecisionInput :=
    { verdict := result.verdict.verdict, divergenceStatus := status,
      narrativeCoherence := process.narrativeOf arguments, effects := request.settings.effects,
      coherenceInRange := process.narrative_of_unit arguments }
  let decision ← policyDecision (request.settings.policyModel.getD process.policyModel) request.settings.thresholds
    input result.castId request.intent arguments.parentCastId { decisionId := draws.decisionId, timestamp := draws.now }
  return (decision, result)

-- Of a chain only the last cast is written.
def toolDecide (arguments : DecideArguments) (draws : CallDraws) : CallOutcome CastRecord :=
  match process.beginDecide arguments draws with
  | .error raised => (.error raised, process)
  | .ok (decision, result) =>
      match process.writeCast result with
      | .error raised => (.error raised, process)
      | .ok written =>
          match written.writePolicyDecision decision with
          | .error raised => (.error raised, written)
          | .ok after => (.ok result, after)

def leaves (graph : CausalSubgraph) : List String :=
  graph.nodes.filter fun nodeId => graph.edges.all fun edge => edge.sourceCastId ≠ nodeId

-- A leaf that cannot be read is passed over. Every edge is kept as a cause.
def linkLeaves (result : CastRecord) (draws : CallDraws) : List String → Nat → CastProcess → CallOutcome Unit
  | [], _, process => (.ok (), process)
  | leafId :: rest, place, process =>
      match process.readCast leafId with
      | .error _ => linkLeaves result draws rest (place + 1) process
      | .ok leaf =>
          match inferCausalEdge process.math leaf result (draws.edge place) with
          | .error raised => (.error raised, process)
          | .ok none => linkLeaves result draws rest (place + 1) process
          | .ok (some inferred) =>
              linkLeaves result draws rest (place + 1) (process.writeCausalEdge { inferred with edgeType := .causes })

-- cast_result_to_dict(result), where it takes the tools too.
def missingArgument : PyError :=
  .typeError "cast_result_to_dict() missing 1 required positional argument: 'result'"

def beginPredictive (rootCastId : String) (intent : Except PyError Intent) (draws : CallDraws) :
    Except PyError (CausalSubgraph × CastRecord) := do
  let graph := causalSubgraph process { rootCastId := rootCastId }
  let intent ← intent
  let result ← process.engine.predictiveCast graph intent draws.casts
  return (graph, result)

def toolPredictiveCast (rootCastId : String) (intent : Except PyError Intent) (draws : CallDraws) :
    CallOutcome CastRecord :=
  match process.beginPredictive rootCastId intent draws with
  | .error raised => (.error raised, process)
  | .ok (graph, result) =>
      match process.writeCast result with
      | .error raised => (.error raised, process)
      | .ok written =>
          match linkLeaves result draws (leaves graph) 0 written with
          | (.error raised, linked) => (.error raised, linked)
          | (.ok _, linked) => (.error missingArgument, linked)

end CastProcess

inductive CastCall where
  | cast (arguments : CastProcess.CastArguments)
  | fluidCast (components : List ℚ) (intent : Except PyError Intent) (parentCastId branchId : Option String)
  | autoCast (arguments : CastProcess.AutoArguments)
  | geometricCast (arguments : CastProcess.GeometricArguments)
  | swarmCast (arguments : CastProcess.SwarmArguments)
  | decide (arguments : CastProcess.DecideArguments)
  | predictiveCast (rootCastId : String) (intent : Except PyError Intent)

def castCall (process : CastProcess) (draws : CallDraws) : CastCall → CallOutcome CastRecord
  | .cast arguments => process.toolCast arguments draws
  | .fluidCast components intent parentCastId branchId =>
      process.toolFluidCast components intent parentCastId branchId draws
  | .autoCast arguments => process.toolAutoCast arguments draws
  | .geometricCast arguments => process.toolGeometricCast arguments draws
  | .swarmCast arguments => process.toolSwarmCast arguments draws
  | .decide arguments => process.toolDecide arguments draws
  | .predictiveCast rootCastId intent => process.toolPredictiveCast rootCastId intent draws

end Vermyth
