import Mathlib.Order.Basic
import Vermyth.Schema.Datetime
import Vermyth.Schema.Program
import Vermyth.Schema.Session

set_option autoImplicit false

namespace Vermyth

inductive DivergenceStatus where
  | stable
  | drifting
  | diverged
deriving DecidableEq, Repr

def DivergenceStatus.value : DivergenceStatus → String
  | .stable => "STABLE"
  | .drifting => "DRIFTING"
  | .diverged => "DIVERGED"

def DivergenceStatus.level : DivergenceStatus → Nat
  | .stable => 0
  | .drifting => 1
  | .diverged => 2

theorem divergence_level_injective : Function.Injective DivergenceStatus.level := by
  intro a b same
  cases a <;> cases b <;> first | rfl | contradiction

instance : LinearOrder DivergenceStatus := LinearOrder.lift' DivergenceStatus.level divergence_level_injective

inductive PolicyAction where
  | deny
  | reshape
  | allow
deriving DecidableEq, Repr

def PolicyAction.value : PolicyAction → String
  | .deny => "DENY"
  | .reshape => "RESHAPE"
  | .allow => "ALLOW"

def PolicyAction.level : PolicyAction → Nat
  | .deny => 0
  | .reshape => 1
  | .allow => 2

theorem action_level_injective : Function.Injective PolicyAction.level := by
  intro a b same
  cases a <;> cases b <;> first | rfl | contradiction

instance : LinearOrder PolicyAction := LinearOrder.lift' PolicyAction.level action_level_injective

def InUnit (value : ℚ) : Prop := 0 ≤ value ∧ value ≤ 1

instance (value : ℚ) : Decidable (InUnit value) := inferInstanceAs (Decidable (_ ∧ _))

theorem zero_in_unit : InUnit 0 := by decide +kernel

theorem none_in_unit : ∀ value ∈ (none : Option ℚ), InUnit value := fun _ given => by cases given

theorem max_in_unit (a b : ℚ) (left : InUnit a) (right : InUnit b) : InUnit (max a b) :=
  ⟨le_trans left.1 (le_max_left a b), max_le left.2 right.2⟩

-- max(0.0, min(1.0, value))
def clampUnit (value : ℚ) : ℚ := max 0 (min 1 value)

theorem clamp_in_unit (value : ℚ) : InUnit (clampUnit value) :=
  ⟨le_max_left 0 _, max_le (zero_le_one' ℚ) (min_le_left 1 value)⟩

theorem clamp_mono (low high : ℚ) (below : low ≤ high) : clampUnit low ≤ clampUnit high :=
  max_le_max le_rfl (min_le_min le_rfl below)

theorem clamp_of_unit (value : ℚ) (range : InUnit value) : clampUnit value = value := by
  rw [clampUnit, min_eq_right range.2, max_eq_right range.1]

-- scorer_weights as it is looked up by name.
abbrev ScorerWeights := String → Option ℚ

def defaultWeights : ScorerWeights
  | "resonance" => some (1 / 2)
  | "divergence" => some (1 / 5)
  | "narrative" => some (1 / 10)
  | "effect_risk" => some (1 / 5)
  | _ => none

theorem default_allow : InUnit (3 / 4) := by decide +kernel

theorem default_reshape : InUnit (9 / 20) := by decide +kernel

structure PolicyThresholds where
  allowMinResonance : ℚ := 3 / 4
  reshapeMinResonance : ℚ := 9 / 20
  maxDriftStatus : DivergenceStatus := .drifting
  scorerWeights : ScorerWeights := defaultWeights
  effectRiskMinScore : Option ℚ := none
  allowInRange : InUnit allowMinResonance := by first | exact default_allow | decide +kernel
  reshapeInRange : InUnit reshapeMinResonance := by first | exact default_reshape | decide +kernel
  effectInRange : ∀ minimum ∈ effectRiskMinScore, InUnit minimum := by first | exact none_in_unit | decide +kernel

structure ScoreComponent where
  name : String
  value : ℚ
  weight : ℚ
  explanation : String
  valueInRange : InUnit value
  weightInRange : 0 ≤ weight ∧ weight ≤ 5
deriving DecidableEq, Repr

structure PolicyDecision where
  decisionId : String
  action : PolicyAction
  rationale : String
  castId : String
  suggestedIntent : Option Intent
  parentCastId : Option String
  divergenceStatus : Option DivergenceStatus
  narrativeCoherence : Option ℚ
  thresholds : PolicyThresholds
  scores : List ScoreComponent := []
  explanation : Option String := none
  modelName : String
  modelVersion : Option String
  timestamp : Datetime
  coherenceInRange : ∀ coherence ∈ narrativeCoherence, InUnit coherence

structure WardSpec where
  allowMinResonance : Option ℚ := none
  reshapeMinResonance : Option ℚ := none
  maxDriftStatus : Option DivergenceStatus := none
  effectRiskMinScore : Option ℚ := none
  scorerWeights : Option ScorerWeights := none
  allowInRange : ∀ minimum ∈ allowMinResonance, InUnit minimum := by first | exact none_in_unit | decide +kernel
  reshapeInRange : ∀ minimum ∈ reshapeMinResonance, InUnit minimum := by first | exact none_in_unit | decide +kernel
  effectInRange : ∀ minimum ∈ effectRiskMinScore, InUnit minimum := by first | exact none_in_unit | decide +kernel

structure DivinationSpec where
  requireCausalContext : Bool := false
  thresholds : Option WardSpec := none

def roundHalfEven (value : ℚ) : Int :=
  let below := value.floor
  let rest := value - below
  if rest < 1 / 2 then below
  else if 1 / 2 < rest then below + 1
  else if below % 2 = 0 then below else below + 1

-- Python's "{value:.<digits>f}".
def fixedPoint (digits : Nat) (value : ℚ) : String :=
  let scaled := (roundHalfEven (|value| * 10 ^ digits)).toNat
  let fraction := toString (scaled % 10 ^ digits)
  (if value < 0 then "-" else "") ++ toString (scaled / 10 ^ digits) ++ "." ++
    String.ofList (List.replicate (digits - fraction.length) '0') ++ fraction

end Vermyth
