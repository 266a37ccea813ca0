import Vermyth.Engine.Interpolation
import Vermyth.Schema.Datetime

set_option autoImplicit false

namespace Vermyth

open Foundation

-- schema.CastResult with its sigil and its verdict in full. The note of where it
-- comes from is left out.
structure CastRecord where
  castId : String
  timestamp : Datetime
  intent : Intent
  sigil : ResolvedSigil
  verdict : EvaluatedVerdict
  lineage : Option Lineage := none

def CastRecord.result (record : CastRecord) : CastResult where
  castId := record.castId
  intent := record.intent
  sigil := { semanticVector := record.sigil.semanticVector }
  verdict := record.verdict.verdict
  lineage := record.lineage

structure CastStamp where
  castId : String
  timestamp : Datetime

structure ChainStamps where
  cast : Nat → CastStamp
  branchId : String

def CastRecord.withLineage (base parent : CastRecord) (branchId : String) : CastRecord :=
  { base with lineage := (castResultWithLineage base.result parent.result branchId).lineage }

theorem with_lineage (base parent : CastRecord) (branchId : String) :
    ∃ lineage, (base.withLineage parent branchId).lineage = some lineage ∧ lineage.parentCastId = parent.castId ∧
      lineage.depth = lineageDepth parent.result := ⟨_, rfl, rfl, rfl⟩

def mixedComponents (share : ℚ) (current target : List ℚ) : List ℚ :=
  (List.range (max current.length target.length)).map fun i =>
    (1 - share) * coeff current i + share * coeff target i

@[simp] theorem mixed_components_length (share : ℚ) (current target : List ℚ) :
    (mixedComponents share current target).length = max current.length target.length := by
  rw [mixedComponents, List.length_map, List.length_range]

theorem mixed_six (share : ℚ) (current : SemanticVector) (target : List ℚ) :
    6 ≤ (mixedComponents share current.components target).length := by
  rw [mixed_components_length]
  exact le_trans current.atLeastSix (Nat.le_max_left _ _)

def EvaluatedVerdict.Reaches (verdict : EvaluatedVerdict) (targetResonance : ℚ) : Prop :=
  verdict.verdictType = .coherent ∧ targetResonance ≤ verdict.resonance.adjusted

instance (verdict : EvaluatedVerdict) (targetResonance : ℚ) : Decidable (verdict.Reaches targetResonance) :=
  inferInstanceAs (Decidable (_ ∧ _))

namespace ResonanceEngine

def cast (engine : ResonanceEngine) (aspects : AspectSet) (intent : Intent) (stamp : CastStamp) :
    Except PyError CastRecord := do
  let sigil ← engine.composition.compose engine.registry engine.order aspects
  return { castId := stamp.castId, timestamp := stamp.timestamp, intent := intent, sigil := sigil,
           verdict := engine.evaluate sigil intent }

def fluidCast (engine : ResonanceEngine) (vector : SemanticVector) (intent : Intent) (stamp : CastStamp) :
    Except PyError CastRecord := do
  let sigil ← engine.interpolate vector 3
  return { castId := stamp.castId, timestamp := stamp.timestamp, intent := intent, sigil := sigil.toResolvedSigil,
           verdict := engine.evaluate sigil.toResolvedSigil intent }

def blendToward (engine : ResonanceEngine) (current target : SemanticVector) (alpha : ℚ) : SemanticVector :=
  normalizeUnit engine.math engine.registry
    (mixedComponents (max 0 (min 1 alpha)) current.components target.components)
    (mixed_six _ current target.components)

def chainResult (base : CastRecord) (chain : List CastRecord) (branchId : String) : CastRecord :=
  match chain.getLast? with
  | none => base
  | some parent => base.withLineage parent branchId

-- The loop of auto_cast, with as many rounds to go as the first number says.
def autoRounds (engine : ResonanceEngine) (intent : Intent) (targetResonance blendAlpha : ℚ) (stamps : ChainStamps) :
    Nat → SemanticVector → List CastRecord → Except PyError (List CastRecord)
  | 0, _, chain => .ok chain
  | rounds + 1, current, chain => do
      let base ← engine.fluidCast current intent (stamps.cast chain.length)
      let result := chainResult base chain stamps.branchId
      if result.verdict.Reaches targetResonance then return chain ++ [result]
      else
        let fluid ← engine.interpolate current 3
        autoRounds engine intent targetResonance blendAlpha stamps rounds
          (engine.blendToward current fluid.semanticVector blendAlpha) (chain ++ [result])

def autoCast (engine : ResonanceEngine) (vector : SemanticVector) (intent : Intent) (maxDepth : Int)
    (targetResonance blendAlpha : ℚ) (stamps : ChainStamps) : Except PyError (CastRecord × List CastRecord) := do
  let chain ← autoRounds engine intent targetResonance blendAlpha stamps maxDepth.toNat vector []
  match chain.getLast? with
  | none => throw (.indexError "list index out of range")
  | some final => return (final, chain)

end ResonanceEngine

end Vermyth
