import Vermyth.Schema.Documents

set_option autoImplicit false

namespace Vermyth

def DivergenceStatus.all : List DivergenceStatus := [.stable, .drifting, .diverged]

def EffectType.all : List EffectType := [.read, .write, .network, .exec, .compute, .observe, .none]

-- min_length=1, max_length=most
def boundedText? (most : Nat) (value : Json) : Option String :=
  value.text?.filter fun text => text ≠ "" && text.length ≤ most

def access? (value : Json) : Option String := value.text?.filter fun text => text ∈ ["READ", "WRITE", "READ_WRITE"]

def ResourceRef.modelValidate : Json → Except PyError ResourceRef
  | .obj fields => do
      let model := "ResourceRef"
      forbidExtra ["kind", "uri", "scope", "access"] fields model
      let kind ← readField (boundedText? 64) none fields model "kind"
      let uri ← readField (boundedText? 500) none fields model "uri"
      let scope ← readField (boundedText? 200) none fields model "scope"
      let access ← readField access? (some "READ") fields model "access"
      return { kind, uri, scope, access }
  | _ => .error (invalid "ResourceRef" "")

namespace Coercions

variable (coerce : Coercions)

def cost? (value : Json) : Option ℚ := (coerce.float? value).filter fun cost => 0 ≤ cost

def inUnit? (value : Json) : Option { x : ℚ // InUnit x } :=
  (coerce.float? value).bind fun x => if range : InUnit x then some ⟨x, range⟩ else none

-- dict[str, float]
def weights? : Json → Option ScorerWeights
  | .obj fields =>
      (fields.mapM fun field => coerce.float? field.2).map fun _ name => (fields.lookup name).bind coerce.float?
  | _ => none

end Coercions

def Effect.modelValidate (coerce : Coercions) : Json → Except PyError Effect
  | .obj fields => do
      let model := "Effect"
      forbidExtra ["effect_type", "target", "reversible", "cost_hint"] fields model
      let effectType ← readField (enum? EffectType.all EffectType.value) none fields model "effect_type"
      let target ← match (fields.lookup "target").getD .null with
        | .null => .ok none
        | target => (ResourceRef.modelValidate target).map some
      let reversible ← readField coerce.bool? (some true) fields model "reversible"
      let costHint ← readField coerce.cost? (some 0) fields model "cost_hint"
      return { effectType, target, reversible, costHint }
  | _ => .error (invalid "Effect" "")

theorem mapped_in_unit (minimum : Option { x : ℚ // InUnit x }) : ∀ x ∈ minimum.map Subtype.val, InUnit x := by
  intro x held
  obtain ⟨own, -, rfl⟩ := Option.map_eq_some_iff.mp held
  exact own.2

def PolicyThresholds.modelValidate (coerce : Coercions) : Json → Except PyError PolicyThresholds
  | .obj fields => do
      let model := "PolicyThresholds"
      forbidExtra
        ["allow_min_resonance", "reshape_min_resonance", "max_drift_status", "scorer_weights", "effect_risk_min_score"]
        fields model
      let allow ← readField coerce.inUnit? (some ⟨3 / 4, default_allow⟩) fields model "allow_min_resonance"
      let reshape ← readField coerce.inUnit? (some ⟨9 / 20, default_reshape⟩) fields model "reshape_min_resonance"
      let drift ← readField (enum? DivergenceStatus.all DivergenceStatus.value) (some .drifting) fields model
        "max_drift_status"
      let weights ← readField coerce.weights? (some defaultWeights) fields model "scorer_weights"
      let minimum ← readField (nullable coerce.inUnit?) (some none) fields model "effect_risk_min_score"
      return { allowMinResonance := allow.1, reshapeMinResonance := reshape.1, maxDriftStatus := drift
               scorerWeights := weights, effectRiskMinScore := minimum.map Subtype.val, allowInRange := allow.2
               reshapeInRange := reshape.2, effectInRange := mapped_in_unit minimum }
  | _ => .error (invalid "PolicyThresholds" "")

end Vermyth
