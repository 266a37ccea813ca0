import Mathlib.Algebra.Field.Rat
import Mathlib.Algebra.Order.Field.Rat
import Vermyth.Schema.Cast
import Vermyth.Schema.Datetime
import Vermyth.Schema.Policy

set_option autoImplicit false

namespace Vermyth

inductive ChannelStatus where
  | coherent
  | strained
  | decoherent
deriving DecidableEq, Repr

structure ChannelState where
  branchId : String
  castCount : Nat
  cumulativeResonance : ℚ
  meanResonance : ℚ
  coherenceStreak : Nat
  lastVerdictType : VerdictType
  status : ChannelStatus
  lastCastId : String
  constraintVector : Option SemanticVector
  updatedAt : Datetime
  cumulativeRange : 0 ≤ cumulativeResonance
  meanRange : InUnit meanResonance

structure DivergenceThresholds where
  l2StableMax : ℚ := 30 / 100
  l2DivergedMin : ℚ := 70 / 100
  cosineStableMax : ℚ := 20 / 100
  cosineDivergedMin : ℚ := 50 / 100

structure DivergenceReport where
  castId : String
  parentCastId : String
  l2Magnitude : ℚ
  cosineDistance : ℚ
  status : DivergenceStatus
  computedAt : Datetime
  l2Range : 0 ≤ l2Magnitude
  cosineRange : 0 ≤ cosineDistance ∧ cosineDistance ≤ 2

inductive CausalEdgeType where
  | causes
  | inhibits
  | enables
  | requires
deriving DecidableEq, Repr

structure CausalEdge where
  edgeId : String
  sourceCastId : String
  targetCastId : String
  edgeType : CausalEdgeType
  weight : ℚ
  createdAt : Datetime
  weightRange : InUnit weight

inductive CausalDirection where
  | forward
  | backward
  | both
deriving DecidableEq, Repr

theorem default_depth : 1 ≤ 5 ∧ 5 ≤ 100 := by decide

structure CausalQuery where
  rootCastId : String
  edgeTypes : Option (List CausalEdgeType) := none
  direction : CausalDirection := .both
  maxDepth : Nat := 5
  minWeight : ℚ := 0
  depthRange : 1 ≤ maxDepth ∧ maxDepth ≤ 100 := by first | exact default_depth | decide
  weightRange : InUnit minWeight := by first | exact zero_in_unit | decide +kernel

structure CausalSubgraph where
  rootCastId : String
  nodes : List String
  edges : List CausalEdge
  narrativeCoherence : ℚ
  coherenceRange : InUnit narrativeCoherence

inductive SwarmStatus where
  | coherent
  | strained
  | decoherent
deriving DecidableEq, Repr

structure SwarmState where
  swarmId : String
  consensusThreshold : ℚ
  status : SwarmStatus
  aggregatedVector : SemanticVector
  lastCastId : Option String
  updatedAt : Datetime
  thresholdRange : InUnit consensusThreshold

structure SwarmMember where
  swarmId : String
  sessionId : String
  vector : SemanticVector
  coherenceStreak : Int

def ChannelState.make (branchId : String) (castCount : Nat) (cumulativeResonance meanResonance : ℚ)
    (coherenceStreak : Nat) (lastVerdictType : VerdictType) (status : ChannelStatus) (lastCastId : String)
    (constraintVector : Option SemanticVector) (updatedAt : Datetime) : Except PyError ChannelState :=
  if cumulativeRange : 0 ≤ cumulativeResonance then
    if meanRange : InUnit meanResonance then
      .ok { branchId, castCount, cumulativeResonance, meanResonance, coherenceStreak, lastVerdictType, status,
            lastCastId, constraintVector, updatedAt, cumulativeRange, meanRange }
    else .error (invalid "ChannelState" "mean_resonance")
  else .error (invalid "ChannelState" "cumulative_resonance")

def SwarmState.make (swarmId : String) (consensusThreshold : ℚ) (status : SwarmStatus)
    (aggregatedVector : SemanticVector) (lastCastId : Option String) (updatedAt : Datetime) :
    Except PyError SwarmState :=
  if thresholdRange : InUnit consensusThreshold then
    .ok { swarmId, consensusThreshold, status, aggregatedVector, lastCastId, updatedAt, thresholdRange }
  else .error (invalid "SwarmState" "consensus_threshold")

def channelStatus (mean : ℚ) : ChannelStatus :=
  if 65 / 100 ≤ mean then .coherent else if 40 / 100 ≤ mean then .strained else .decoherent

def Datetime.instant (time : Datetime) : Int := time.clock - (time.offset.getD 0) * 1000000

end Vermyth
