import Vermyth.Foundation.WeightedMean
import Vermyth.Schema.Policy

set_option autoImplicit false

namespace Vermyth

open Foundation

inductive Scorer where
  | resonance
  | divergence
  | narrative
  | effectRisk
deriving DecidableEq, Repr

instance : Fintype Scorer where
  elems := {.resonance, .divergence, .narrative, .effectRisk}
  complete := by
    intro scorer
    cases scorer <;> decide

def Scorer.name : Scorer → String
  | .resonance => "resonance"
  | .divergence => "divergence"
  | .narrative => "narrative"
  | .effectRisk => "effect_risk"

-- What a decision is taken on, once the cast is made and its parent and its
-- causal root are read.
structure DecisionInput where
  verdict : Verdict
  divergenceStatus : Option DivergenceStatus := none
  narrativeCoherence : Option ℚ := none
  effects : List Effect := []
  coherenceInRange : ∀ coherence ∈ narrativeCoherence, InUnit coherence := by
    first | exact none_in_unit | decide +kernel

def DecisionInput.adjusted (input : DecisionInput) : ℚ := input.verdict.resonance.adjusted

-- float(context.get("weight", 1.0) or 1.0)
def weightOrDefault (weight : ℚ) : ℚ := if weight = 0 then 1 else weight

def scoreComponent (name : String) (value weight : ℚ) (explanation : String) : Except PyError ScoreComponent :=
  if valueInRange : InUnit value then
    if weightInRange : 0 ≤ max 0 (weightOrDefault weight) ∧ max 0 (weightOrDefault weight) ≤ 5 then
      .ok { name, value, weight := max 0 (weightOrDefault weight), explanation, valueInRange, weightInRange }
    else .error (invalid "ScoreComponent" "weight")
  else .error (invalid "ScoreComponent" "value")

def ResonanceScorer.score (adjustedResonance weight : ℚ) : Except PyError ScoreComponent :=
  scoreComponent "resonance" (clampUnit adjustedResonance) weight ("resonance=" ++ fixedPoint 3 adjustedResonance)

def DivergenceScorer.value : Option DivergenceStatus → ℚ
  | none => 1
  | some .stable => 1
  | some .drifting => 1 / 2
  | some .diverged => 0

def DivergenceScorer.score (divergenceStatus : Option DivergenceStatus) (weight : ℚ) :
    Except PyError ScoreComponent :=
  scoreComponent "divergence" (DivergenceScorer.value divergenceStatus) weight
    ("divergence=" ++ (divergenceStatus.map DivergenceStatus.value).getD "NONE")

def NarrativeScorer.value : Option ℚ → ℚ
  | none => 1 / 2
  | some coherence => clampUnit coherence

def NarrativeScorer.score (narrativeCoherence : Option ℚ) (weight : ℚ) : Except PyError ScoreComponent :=
  scoreComponent "narrative" (NarrativeScorer.value narrativeCoherence) weight
    (match narrativeCoherence with
      | none => "narrative=unknown"
      | some coherence => "narrative=" ++ fixedPoint 3 coherence)

def effectRiskOf (effect : Effect) : ℚ :=
  (match effect.effectType with
    | .write | .exec | .network => 7 / 20
    | .compute => 1 / 10
    | _ => 0) + if effect.reversible then 0 else 1 / 4

def EffectRiskScorer.risk (effects : List Effect) : ℚ := clampUnit (effects.map effectRiskOf).sum

def EffectRiskScorer.score (effects : List Effect) (weight : ℚ) : Except PyError ScoreComponent :=
  scoreComponent "effect_risk" (1 - EffectRiskScorer.risk effects) weight
    ("effect_risk=" ++ fixedPoint 3 (EffectRiskScorer.risk effects))

-- weights.get(name, 0.0)
def PolicyThresholds.weight (thresholds : PolicyThresholds) (scorer : Scorer) : ℚ :=
  (thresholds.scorerWeights scorer.name).getD 0

def scorers (thresholds : PolicyThresholds) (input : DecisionInput) : Except PyError (List ScoreComponent) := do
  let resonance ← ResonanceScorer.score input.adjusted (thresholds.weight .resonance)
  let divergence ← DivergenceScorer.score input.divergenceStatus (thresholds.weight .divergence)
  let narrative ← NarrativeScorer.score input.narrativeCoherence (thresholds.weight .narrative)
  let effectRisk ← EffectRiskScorer.score input.effects (thresholds.weight .effectRisk)
  return [resonance, divergence, narrative, effectRisk]

-- sum(s.weight for s in scorers) or 1.0
def totalWeight (scores : List ScoreComponent) : ℚ := weightOrDefault (scores.map ScoreComponent.weight).sum

def aggregateScore (scores : List ScoreComponent) : ℚ :=
  (scores.map fun score => score.value * score.weight).sum / totalWeight scores

def driftOk (status : Option DivergenceStatus) (thresholds : PolicyThresholds) : Bool :=
  status.all fun status => status = .stable ∨ status = thresholds.maxDriftStatus

def effectGate (scores : List ScoreComponent) (thresholds : PolicyThresholds) : Option (ℚ × ScoreComponent) :=
  match thresholds.effectRiskMinScore, scores.find? fun score => score.name = "effect_risk" with
  | some minimum, some score => if 0 < score.weight ∧ score.value < minimum then some (minimum, score) else none
  | _, _ => none

def DeniedOutright (input : DecisionInput) : Prop :=
  input.verdict.verdictType = .incoherent ∨ input.divergenceStatus = some .diverged

instance (input : DecisionInput) : Decidable (DeniedOutright input) := inferInstanceAs (Decidable (_ ∨ _))

def ruleAction (input : DecisionInput) (aggregate : ℚ) (thresholds : PolicyThresholds) : PolicyAction :=
  if DeniedOutright input then .deny
  else if input.verdict.verdictType = .coherent ∧ thresholds.allowMinResonance ≤ input.adjusted ∧
      driftOk input.divergenceStatus thresholds ∧ thresholds.allowMinResonance ≤ aggregate then .allow
  else .reshape

def scoreText (score : ScoreComponent) : String :=
  score.name ++ ":" ++ fixedPoint 3 score.value ++ "x" ++ fixedPoint 2 score.weight

def gateRationale (input : DecisionInput) (minimum : ℚ) (score : ScoreComponent) : String :=
  "verdict=" ++ input.verdict.verdictType.value ++ "; effect_risk=" ++ fixedPoint 3 score.value ++ " below min " ++
    fixedPoint 3 minimum ++ "; " ++ score.explanation

def ruleRationale (input : DecisionInput) (scores : List ScoreComponent) (aggregate : ℚ) (action : PolicyAction) :
    String :=
  "; ".intercalate <|
    ["verdict=" ++ input.verdict.verdictType.value, "resonance=" ++ fixedPoint 3 input.adjusted] ++
    (input.divergenceStatus.toList.map fun status => "drift=" ++ status.value) ++
    (input.narrativeCoherence.toList.map fun coherence => "narrative=" ++ fixedPoint 3 coherence) ++
    ["aggregate=" ++ fixedPoint 3 aggregate] ++ scores.map scoreText ++ ["decision=" ++ action.value]

def RuleBasedPolicyModel.decide (input : DecisionInput) (scores : List ScoreComponent) (aggregate : ℚ)
    (thresholds : PolicyThresholds) : PolicyAction × String :=
  match effectGate scores thresholds with
  | some (minimum, score) => (.deny, gateRationale input minimum score)
  | none =>
      let action := ruleAction input aggregate thresholds
      (action, ruleRationale input scores aggregate action)

-- rule_based, or threshold_tuned with the thresholds it has read.
structure PolicyModel where
  name : String := "rule_based"
  version : String := "1"
  thresholdsOverride : Option PolicyThresholds := none

def PolicyModel.active (model : PolicyModel) (thresholds : PolicyThresholds) : PolicyThresholds :=
  model.thresholdsOverride.getD thresholds

def PolicyModel.decide (model : PolicyModel) (input : DecisionInput) (scores : List ScoreComponent) (aggregate : ℚ)
    (thresholds : PolicyThresholds) : PolicyAction × String :=
  RuleBasedPolicyModel.decide input scores aggregate (model.active thresholds)

structure Ruling where
  scores : List ScoreComponent
  aggregate : ℚ
  action : PolicyAction
  rationale : String

def ruling (model : PolicyModel) (thresholds : PolicyThresholds) (input : DecisionInput) : Except PyError Ruling := do
  let scores ← scorers thresholds input
  let aggregate := aggregateScore scores
  let (action, rationale) := model.decide input scores aggregate thresholds
  return { scores, aggregate, action, rationale }

def explanationOf (ruling : Ruling) : String :=
  "aggregate=" ++ fixedPoint 3 ruling.aggregate ++ "; " ++
    ", ".intercalate (ruling.scores.map fun score => score.name ++ "=" ++ fixedPoint 3 score.value)

structure DecisionStamp where
  decisionId : String
  timestamp : Datetime

def policyDecision (model : PolicyModel) (thresholds : PolicyThresholds) (input : DecisionInput) (castId : String)
    (intent : Intent) (parentCastId : Option String) (stamp : DecisionStamp) : Except PyError PolicyDecision := do
  let ruling ← ruling model thresholds input
  return {
    decisionId := stamp.decisionId
    action := ruling.action
    rationale := ruling.rationale
    castId := castId
    suggestedIntent := if ruling.action = .reshape then some intent else none
    parentCastId := parentCastId
    divergenceStatus := input.divergenceStatus
    narrativeCoherence := input.narrativeCoherence
    thresholds := thresholds
    scores := ruling.scores
    explanation := some (explanationOf ruling)
    modelName := model.name
    modelVersion := some model.version
    timestamp := stamp.timestamp
    coherenceInRange := input.coherenceInRange }

def PolicyThresholds.scored (thresholds : PolicyThresholds) (scorer : Scorer) : ℚ :=
  max 0 (weightOrDefault (thresholds.weight scorer))

def Scorer.value (input : DecisionInput) : Scorer → ℚ
  | .resonance => clampUnit input.adjusted
  | .divergence => DivergenceScorer.value input.divergenceStatus
  | .narrative => NarrativeScorer.value input.narrativeCoherence
  | .effectRisk => 1 - EffectRiskScorer.risk input.effects

def PolicyThresholds.Accepted (thresholds : PolicyThresholds) : Prop := ∀ scorer, thresholds.scored scorer ≤ 5

instance (thresholds : PolicyThresholds) : Decidable thresholds.Accepted := inferInstanceAs (Decidable (∀ _, _))

def aggregateOf (thresholds : PolicyThresholds) (input : DecisionInput) : ℚ :=
  weightedMean thresholds.scored (Scorer.value input)

def EffectGated (weight value : ℚ) (minimum : Option ℚ) : Prop := 0 < weight ∧ minimum.any fun least => value < least

instance (weight value : ℚ) (minimum : Option ℚ) : Decidable (EffectGated weight value minimum) :=
  inferInstanceAs (Decidable (_ ∧ _))

-- The action on an input, where the thresholds are accepted.
def PolicyModel.action (model : PolicyModel) (thresholds : PolicyThresholds) (input : DecisionInput) : PolicyAction :=
  if EffectGated (thresholds.scored .effectRisk) (Scorer.value input .effectRisk)
      (model.active thresholds).effectRiskMinScore then .deny
  else ruleAction input (aggregateOf thresholds input) (model.active thresholds)

structure IsScore (thresholds : PolicyThresholds) (input : DecisionInput) (scorer : Scorer) (score : ScoreComponent) :
    Prop where
  name : score.name = scorer.name
  value : score.value = scorer.value input
  weight : score.weight = thresholds.scored scorer

def Scorer.all : List Scorer := [.resonance, .divergence, .narrative, .effectRisk]

theorem score_component_ok (name : String) (value weight : ℚ) (explanation : String) (score : ScoreComponent)
    (made : scoreComponent name value weight explanation = .ok score) :
    score.name = name ∧ score.value = value ∧ score.weight = max 0 (weightOrDefault weight) := by
  unfold scoreComponent at made
  by_cases valueInRange : InUnit value
  · rw [dif_pos valueInRange] at made
    by_cases weightInRange : 0 ≤ max 0 (weightOrDefault weight) ∧ max 0 (weightOrDefault weight) ≤ 5
    · rw [dif_pos weightInRange] at made
      cases made
      exact ⟨rfl, rfl, rfl⟩
    · rw [dif_neg weightInRange] at made
      contradiction
  · rw [dif_neg valueInRange] at made
    contradiction

theorem score_component_accepts (name : String) (value weight : ℚ) (explanation : String) (inRange : InUnit value) :
    (∃ score, scoreComponent name value weight explanation = .ok score) ↔ max 0 (weightOrDefault weight) ≤ 5 := by
  unfold scoreComponent
  rw [dif_pos inRange]
  by_cases light : max 0 (weightOrDefault weight) ≤ 5
  · rw [dif_pos ⟨le_max_left 0 _, light⟩]
    exact ⟨fun _ => light, fun _ => ⟨_, rfl⟩⟩
  · rw [dif_neg fun both => light both.2]
    exact ⟨fun ⟨_, made⟩ => by contradiction, fun given => absurd given light⟩

theorem scorer_value_in_unit (input : DecisionInput) (scorer : Scorer) : InUnit (scorer.value input) := by
  cases scorer with
  | resonance => exact clamp_in_unit _
  | divergence =>
      rcases same : input.divergenceStatus with _ | status
      · simp [Scorer.value, same, DivergenceScorer.value, InUnit]
      · cases status <;> simp only [Scorer.value, same, DivergenceScorer.value] <;> decide +kernel
  | narrative =>
      rcases same : input.narrativeCoherence with _ | coherence
      · simp only [Scorer.value, same, NarrativeScorer.value]
        decide +kernel
      · simpa only [Scorer.value, same, NarrativeScorer.value] using clamp_in_unit coherence
  | effectRisk =>
      obtain ⟨low, high⟩ := clamp_in_unit (input.effects.map effectRiskOf).sum
      exact ⟨sub_nonneg.mpr high, sub_le_self 1 low⟩

theorem scorers_scored (thresholds : PolicyThresholds) (input : DecisionInput) (scores : List ScoreComponent)
    (made : scorers thresholds input = .ok scores) :
    List.Forall₂ (IsScore thresholds input) Scorer.all scores := by
  obtain ⟨resonance, first, made⟩ := (bind_ok _ _ _).mp made
  obtain ⟨divergence, second, made⟩ := (bind_ok _ _ _).mp made
  obtain ⟨narrative, third, made⟩ := (bind_ok _ _ _).mp made
  obtain ⟨effectRisk, fourth, made⟩ := (bind_ok _ _ _).mp made
  cases made
  obtain ⟨name₁, value₁, weight₁⟩ := score_component_ok _ _ _ _ _ first
  obtain ⟨name₂, value₂, weight₂⟩ := score_component_ok _ _ _ _ _ second
  obtain ⟨name₃, value₃, weight₃⟩ := score_component_ok _ _ _ _ _ third
  obtain ⟨name₄, value₄, weight₄⟩ := score_component_ok _ _ _ _ _ fourth
  exact .cons ⟨name₁, value₁, weight₁⟩ (.cons ⟨name₂, value₂, weight₂⟩
    (.cons ⟨name₃, value₃, weight₃⟩ (.cons ⟨name₄, value₄, weight₄⟩ .nil)))

theorem scorers_accepts (thresholds : PolicyThresholds) (input : DecisionInput) :
    (∃ scores, scorers thresholds input = .ok scores) ↔ thresholds.Accepted := by
  have accepts : ∀ (scorer : Scorer) (explanation : String),
      (∃ score, scoreComponent scorer.name (scorer.value input) (thresholds.weight scorer) explanation = .ok score) ↔
        thresholds.scored scorer ≤ 5 :=
    fun scorer explanation => score_component_accepts _ _ _ _ (scorer_value_in_unit input scorer)
  constructor
  · rintro ⟨scores, made⟩ scorer
    obtain ⟨_, first, made⟩ := (bind_ok _ _ _).mp made
    obtain ⟨_, second, made⟩ := (bind_ok _ _ _).mp made
    obtain ⟨_, third, made⟩ := (bind_ok _ _ _).mp made
    obtain ⟨_, fourth, -⟩ := (bind_ok _ _ _).mp made
    cases scorer with
    | resonance => exact (accepts .resonance _).mp ⟨_, first⟩
    | divergence => exact (accepts .divergence _).mp ⟨_, second⟩
    | narrative => exact (accepts .narrative _).mp ⟨_, third⟩
    | effectRisk => exact (accepts .effectRisk _).mp ⟨_, fourth⟩
  · intro accepted
    obtain ⟨_, first⟩ := (accepts .resonance _).mpr (accepted .resonance)
    obtain ⟨_, second⟩ := (accepts .divergence _).mpr (accepted .divergence)
    obtain ⟨_, third⟩ := (accepts .narrative _).mpr (accepted .narrative)
    obtain ⟨_, fourth⟩ := (accepts .effectRisk _).mpr (accepted .effectRisk)
    exact ⟨_, (bind_ok _ _ _).mpr ⟨_, first, (bind_ok _ _ _).mpr ⟨_, second, (bind_ok _ _ _).mpr
      ⟨_, third, (bind_ok _ _ _).mpr ⟨_, fourth, rfl⟩⟩⟩⟩⟩

theorem scored_nonneg (thresholds : PolicyThresholds) (scorer : Scorer) : 0 ≤ thresholds.scored scorer :=
  le_max_left 0 _

theorem sum_scorers (f : Scorer → ℚ) : (Scorer.all.map f).sum = ∑ scorer, f scorer := rfl

theorem scores_weight (thresholds : PolicyThresholds) (input : DecisionInput) (kinds : List Scorer)
    (scores : List ScoreComponent) (scored : List.Forall₂ (IsScore thresholds input) kinds scores) :
    (scores.map ScoreComponent.weight).sum = (kinds.map thresholds.scored).sum := by
  induction scored with
  | nil => rfl
  | cons first _ ih => rw [List.map_cons, List.map_cons, List.sum_cons, List.sum_cons, first.weight, ih]

theorem scores_worth (thresholds : PolicyThresholds) (input : DecisionInput) (kinds : List Scorer)
    (scores : List ScoreComponent) (scored : List.Forall₂ (IsScore thresholds input) kinds scores) :
    (scores.map fun score => score.value * score.weight).sum =
      (kinds.map fun scorer => thresholds.scored scorer * scorer.value input).sum := by
  induction scored with
  | nil => rfl
  | cons first _ ih =>
      rw [List.map_cons, List.map_cons, List.sum_cons, List.sum_cons, first.value, first.weight, mul_comm, ih]

theorem aggregate_score (thresholds : PolicyThresholds) (input : DecisionInput) (scores : List ScoreComponent)
    (made : scorers thresholds input = .ok scores) : aggregateScore scores = aggregateOf thresholds input := by
  have scored := scorers_scored thresholds input scores made
  rw [aggregateScore, totalWeight, aggregateOf, weightedMean, scores_weight _ _ _ _ scored, scores_worth _ _ _ _ scored,
    sum_scorers, sum_scorers]
  by_cases none : ∑ scorer, thresholds.scored scorer = 0
  · have weightless := weightless_of_total thresholds.scored (scored_nonneg thresholds) none
    have worthless : ∑ scorer, thresholds.scored scorer * scorer.value input = 0 :=
      Finset.sum_eq_zero fun scorer _ => by rw [weightless scorer, zero_mul]
    rw [worthless, zero_div, zero_div]
  · rw [weightOrDefault, if_neg none]

theorem effect_gate (thresholds active : PolicyThresholds) (input : DecisionInput) (scores : List ScoreComponent)
    (made : scorers thresholds input = .ok scores) :
    (effectGate scores active).isSome ↔
      EffectGated (thresholds.scored .effectRisk) (Scorer.value input .effectRisk) active.effectRiskMinScore := by
  rcases scorers_scored thresholds input scores made with
    _ | ⟨resonance, _ | ⟨divergence, _ | ⟨narrative, _ | ⟨effectRisk, rest⟩⟩⟩⟩
  cases rest
  rw [effectGate]
  simp only [List.find?_cons, resonance.name, divergence.name, narrative.name, effectRisk.name, Scorer.name]
  rcases active.effectRiskMinScore with _ | minimum
  · simp [EffectGated]
  · simp [EffectGated, effectRisk.weight, effectRisk.value]

theorem ruling_ok (model : PolicyModel) (thresholds : PolicyThresholds) (input : DecisionInput) (given : Ruling)
    (made : ruling model thresholds input = .ok given) :
    scorers thresholds input = .ok given.scores ∧ given.aggregate = aggregateOf thresholds input ∧
      given.action = model.action thresholds input := by
  obtain ⟨scores, scored, rest⟩ := (bind_ok _ _ _).mp made
  cases rest
  refine ⟨scored, aggregate_score thresholds input scores scored, ?_⟩
  have gated := effect_gate thresholds (model.active thresholds) input scores scored
  rw [aggregate_score thresholds input scores scored]
  simp only [PolicyModel.action]
  rcases closed : effectGate scores (model.active thresholds) with _ | ⟨minimum, score⟩
  · rw [closed] at gated
    rw [if_neg fun shut => by simpa using gated.mpr shut]
  · rw [closed] at gated
    rw [if_pos (gated.mp rfl)]

theorem ruling_accepts (model : PolicyModel) (thresholds : PolicyThresholds) (input : DecisionInput) :
    (∃ given, ruling model thresholds input = .ok given) ↔ thresholds.Accepted := by
  rw [← scorers_accepts thresholds input]
  constructor
  · rintro ⟨given, made⟩
    exact ⟨given.scores, (ruling_ok model thresholds input given made).1⟩
  · rintro ⟨scores, made⟩
    exact ⟨_, (bind_ok _ _ _).mpr ⟨scores, made, rfl⟩⟩

def Gated (thresholds : PolicyThresholds) (input : DecisionInput) : Prop :=
  EffectGated (thresholds.scored .effectRisk) (Scorer.value input .effectRisk) thresholds.effectRiskMinScore

instance (thresholds : PolicyThresholds) (input : DecisionInput) : Decidable (Gated thresholds input) :=
  inferInstanceAs (Decidable (EffectGated _ _ _))

-- What ALLOW rests on besides the divergence of the cast.
structure Allowable (thresholds : PolicyThresholds) (input : DecisionInput) : Prop where
  coherent : input.verdict.verdictType = .coherent
  adjusted : thresholds.allowMinResonance ≤ input.adjusted
  aggregate : thresholds.allowMinResonance ≤ aggregateOf thresholds input
  ungated : ¬ Gated thresholds input

theorem rule_based_action (thresholds : PolicyThresholds) (input : DecisionInput) :
    PolicyModel.action {} thresholds input =
      if Gated thresholds input then .deny else ruleAction input (aggregateOf thresholds input) thresholds := rfl

theorem action_deny_iff (thresholds : PolicyThresholds) (input : DecisionInput) :
    PolicyModel.action {} thresholds input = .deny ↔ Gated thresholds input ∨ DeniedOutright input := by
  rw [rule_based_action]
  by_cases gated : Gated thresholds input
  · rw [if_pos gated]
    exact ⟨fun _ => Or.inl gated, fun _ => rfl⟩
  · rw [if_neg gated, ruleAction]
    by_cases outright : DeniedOutright input
    · rw [if_pos outright]
      exact ⟨fun _ => Or.inr outright, fun _ => rfl⟩
    · rw [if_neg outright]
      split <;> simp [gated, outright]

theorem action_allow_iff (thresholds : PolicyThresholds) (input : DecisionInput) :
    PolicyModel.action {} thresholds input = .allow ↔
      Allowable thresholds input ∧ driftOk input.divergenceStatus thresholds ∧ ¬ DeniedOutright input := by
  rw [rule_based_action]
  by_cases gated : Gated thresholds input
  · rw [if_pos gated]
    exact ⟨fun same => by contradiction, fun ⟨allowable, _⟩ => absurd gated allowable.ungated⟩
  · rw [if_neg gated, ruleAction]
    by_cases outright : DeniedOutright input
    · rw [if_pos outright]
      exact ⟨fun same => by contradiction, fun ⟨_, _, spared⟩ => absurd outright spared⟩
    · rw [if_neg outright]
      constructor
      · intro allowed
        split at allowed
        · rename_i met
          exact ⟨⟨met.1, met.2.1, met.2.2.2, gated⟩, met.2.2.1, outright⟩
        · contradiction
      · intro ⟨allowable, drift, _⟩
        rw [if_pos ⟨allowable.coherent, allowable.adjusted, drift, allowable.aggregate⟩]

theorem action_le_iff (action other : PolicyAction) :
    action ≤ other ↔ (action = .allow → other = .allow) ∧ (other = .deny → action = .deny) := by
  cases action <;> cases other <;> decide

end Vermyth
