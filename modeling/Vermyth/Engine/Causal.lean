import Vermyth.Engine.FluidCasting
import Vermyth.Schema.Casting

set_option autoImplicit false

namespace Vermyth

open Foundation

def divergenceStatus (value stableMax divergedMin : ℚ) : DivergenceStatus :=
  if value < stableMax then .stable else if divergedMin ≤ value then .diverged else .drifting

def clampDistance (distance : ℚ) : ℚ := if distance < 0 then 0 else if 2 < distance then 2 else distance

theorem clamp_distance_range (distance : ℚ) : 0 ≤ clampDistance distance ∧ clampDistance distance ≤ 2 := by
  have signs : (0 : ℚ) ≤ 2 := by decide +kernel
  rw [clampDistance]
  by_cases below : distance < 0
  · rw [if_pos below]
    exact ⟨le_rfl, signs⟩
  · by_cases above : 2 < distance
    · rw [if_neg below, if_pos above]
      exact ⟨signs, le_rfl⟩
    · rw [if_neg below, if_neg above]
      exact ⟨not_lt.mp below, not_lt.mp above⟩

theorem divergence_coeff (child parent : List ℚ) (i : Nat) :
    coeff (divergenceComponents child parent) i = coeff child i - coeff parent i := by
  rw [divergenceComponents, coeff_range]
  by_cases inside : i < max child.length parent.length
  · rw [if_pos inside]
    rfl
  · obtain ⟨pastChild, pastParent⟩ := max_le_iff.mp (not_lt.mp inside)
    rw [if_neg inside, coeff_past child i pastChild, coeff_past parent i pastParent, sub_zero]

def classify (math : VectorMath) (castId parentCastId : String) (parentVector childVector : SemanticVector)
    (thresholds : DivergenceThresholds) (computedAt : Datetime) : Except PyError DivergenceReport := do
  let (parent, child, _) := commonBasis parentVector childVector
  let l2 := l2Norm math (divergenceComponents child.components parent.components)
  let cosine ← cosineSimilarity math parent child
  let distance := clampDistance (1 - cosine)
  return {
    castId := castId
    parentCastId := parentCastId
    l2Magnitude := l2
    cosineDistance := distance
    status := max (divergenceStatus l2 thresholds.l2StableMax thresholds.l2DivergedMin)
      (divergenceStatus distance thresholds.cosineStableMax thresholds.cosineDivergedMin)
    computedAt := computedAt
    l2Range := math.sqrtNonneg _
    cosineRange := clamp_distance_range _ }

-- The seconds from the source to the target.
def elapsedSeconds (source target : CastRecord) : ℚ :=
  (target.timestamp.instant - source.timestamp.instant : Int) / 1000000

def edgeStrength (sim elapsed : ℚ) : ℚ := clampUnit ((sim + 1) / 2 * (1 / (1 + max 0 elapsed / 3600)))

def edgeType (source target : CastRecord) (sim : ℚ) : CausalEdgeType :=
  if 55 / 100 ≤ sim then .causes
  else if sim ≤ -25 / 100 then .inhibits
  else if source.verdict.verdictType = .coherent ∧ target.verdict.verdictType = .coherent then .enables
  else .requires

structure EdgeStamp where
  edgeId : String
  createdAt : Datetime

def inferCausalEdge (math : VectorMath) (source target : CastRecord) (stamp : EdgeStamp) :
    Except PyError (Option CausalEdge) :=
  if target.timestamp.instant ≤ source.timestamp.instant then .ok none
  else
    match cosineSimilarity math source.sigil.semanticVector target.sigil.semanticVector with
    | .error raised => .error raised
    | .ok sim =>
        if edgeStrength sim (elapsedSeconds source target) < 20 / 100 then .ok none
        else .ok (some
          { edgeId := stamp.edgeId, sourceCastId := source.castId, targetCastId := target.castId,
            edgeType := edgeType source target sim, weight := edgeStrength sim (elapsedSeconds source target),
            createdAt := stamp.createdAt, weightRange := clamp_in_unit _ })

def edgePairs (edges : List CausalEdge) : List (String × String) :=
  (edges.map fun edge => (edge.sourceCastId, edge.targetCastId)).dedup

def contradicted (edges : List CausalEdge) (pair : String × String) : Bool :=
  [CausalEdgeType.causes, .inhibits].all fun kind =>
    edges.any fun edge => edge.sourceCastId = pair.1 ∧ edge.targetCastId = pair.2 ∧ edge.edgeType = kind

def evaluateNarrative (edges : List CausalEdge) : ℚ :=
  if edges = [] then 0
  else
    let contradictions := ((edgePairs edges).filter (contradicted edges)).length
    let penalty : ℚ := min 1 (contradictions / max 1 (edgePairs edges).length)
    clampUnit ((edges.map CausalEdge.weight).sum / edges.length * (1 - 1 / 2 * penalty))

theorem narrative_in_unit (edges : List CausalEdge) : InUnit (evaluateNarrative edges) := by
  rw [evaluateNarrative]
  split
  · exact ⟨le_rfl, zero_le_one⟩
  · exact clamp_in_unit _

structure ChannelStamp where
  branchId : String
  updatedAt : Datetime

namespace ResonanceEngine

def predictiveCast (engine : ResonanceEngine) (graph : CausalSubgraph) (intent : Intent) (stamps : ChainStamps) :
    Except PyError CastRecord := do
  let seed := (engine.intentVector intent).vector
  let target ← engine.interpolate seed 3
  let blended := engine.blendToward seed target.semanticVector (1 / 10 + 4 / 10 * graph.narrativeCoherence)
  let (result, _) ← engine.autoCast blended intent 4 (max (65 / 100) graph.narrativeCoherence) (35 / 100) stamps
  return result

def chainedIntent (engine : ResonanceEngine) (intent : Intent) (channel : Option ChannelState) : IntentVector :=
  let iv := engine.intentVector intent
  match channel.bind ChannelState.constraintVector with
  | none => iv
  | some constraint =>
      { iv with
        vector := normalizeUnit engine.math engine.registry
          (mixedComponents (2 / 10) iv.vector.components constraint.components)
          (mixed_six _ iv.vector constraint.components) }

def channelAfter (channel : Option ChannelState) (result : CastRecord) (stamp : ChannelStamp) :
    Except PyError ChannelState :=
  let adjusted := result.verdict.resonance.adjusted
  let count := (channel.map ChannelState.castCount).getD 0 + 1
  let cumulative := (channel.map ChannelState.cumulativeResonance).getD 0 + adjusted
  let streak := if result.verdict.verdictType = .coherent then (channel.map ChannelState.coherenceStreak).getD 0 + 1
    else 0
  ChannelState.make ((channel.map ChannelState.branchId).getD stamp.branchId) count cumulative (cumulative / count)
    streak result.verdict.verdictType (channelStatus (cumulative / count)) result.castId
    (some result.sigil.semanticVector) stamp.updatedAt

def chainedCast (engine : ResonanceEngine) (aspects : AspectSet) (intent : Intent) (channel : Option ChannelState)
    (force : Bool) (stamp : CastStamp) (channelStamp : ChannelStamp) : Except PyError (CastRecord × ChannelState) :=
  match channel.filter fun state => state.status = .decoherent && !force with
  | some state => .error (.runtimeError ("channel " ++ state.branchId ++ " is DECOHERENT; sync required"))
  | none => do
      let sigil ← engine.composition.compose engine.registry engine.order aspects
      let verdict ← evaluateWithIntentVector engine.math sigil.face (engine.chainedIntent intent channel)
      let result : CastRecord :=
        { castId := stamp.castId, timestamp := stamp.timestamp, intent := intent, sigil := sigil, verdict := verdict }
      let updated ← channelAfter channel result channelStamp
      return (result, updated)

end ResonanceEngine

end Vermyth
