import Vermyth.Engine.RiskOrder

set_option autoImplicit false

namespace Vermyth

-- The rules on what a decision records of itself and the verdict of its cast.
def replayed (verdict : Verdict) (decision : PolicyDecision) : PolicyAction :=
  (RuleBasedPolicyModel.decide
    { verdict := verdict, divergenceStatus := decision.divergenceStatus,
      narrativeCoherence := decision.narrativeCoherence, coherenceInRange := decision.coherenceInRange }
    decision.scores (aggregateScore decision.scores) decision.thresholds).1

def Lets (thresholds : PolicyThresholds) (input : DecisionInput) (aggregate : ℚ) : Prop :=
  thresholds.allowMinResonance ≤ input.adjusted ∧ thresholds.allowMinResonance ≤ aggregate ∧
    driftOk input.divergenceStatus thresholds

-- The thresholds in use and those on record treat an input alike: the same
-- effect gate and, where it is open, the same way through for what is coherent.
structure TreatedAlike (recorded active : PolicyThresholds) (input : DecisionInput) : Prop where
  gate : EffectGated (recorded.scored .effectRisk) (Scorer.value input .effectRisk) active.effectRiskMinScore ↔
    Gated recorded input
  admitted : ¬ Gated recorded input → input.verdict.verdictType = .coherent →
    (Lets active input (aggregateOf recorded input) ↔ Lets recorded input (aggregateOf recorded input))

theorem rule_action_eq (input : DecisionInput) (aggregate : ℚ) (thresholds : PolicyThresholds)
    (spared : ¬ DeniedOutright input) :
    ruleAction input aggregate thresholds = .allow ↔
      input.verdict.verdictType = .coherent ∧ Lets thresholds input aggregate := by
  rw [ruleAction, if_neg spared]
  constructor
  · intro allowed
    split at allowed
    · rename_i met
      exact ⟨met.1, met.2.1, met.2.2.2, met.2.2.1⟩
    · contradiction
  · rintro ⟨coherent, adjusted, aggregated, drift⟩
    rw [if_pos ⟨coherent, adjusted, drift, aggregated⟩]

theorem rule_action_spared (input : DecisionInput) (aggregate : ℚ) (thresholds : PolicyThresholds)
    (spared : ¬ DeniedOutright input) : ruleAction input aggregate thresholds ≠ .deny := by
  rw [ruleAction, if_neg spared]
  split <;> simp

theorem rule_action_alike (input : DecisionInput) (aggregate : ℚ) (active recorded : PolicyThresholds)
    (spared : ¬ DeniedOutright input) :
    ruleAction input aggregate active = ruleAction input aggregate recorded ↔
      (input.verdict.verdictType = .coherent → (Lets active input aggregate ↔ Lets recorded input aggregate)) := by
  have allowed := rule_action_eq input aggregate active spared
  have recordedAllowed := rule_action_eq input aggregate recorded spared
  constructor
  · intro same coherent
    rw [same, recordedAllowed] at allowed
    constructor
    · exact fun admits => (allowed.mpr ⟨coherent, admits⟩).2
    · exact fun admits => (allowed.mp ⟨coherent, admits⟩).2
  · intro alike
    have both : ruleAction input aggregate active = .allow ↔ ruleAction input aggregate recorded = .allow := by
      rw [allowed, recordedAllowed]
      exact ⟨fun ⟨coherent, admits⟩ => ⟨coherent, (alike coherent).mp admits⟩,
        fun ⟨coherent, admits⟩ => ⟨coherent, (alike coherent).mpr admits⟩⟩
    have kept := rule_action_spared input aggregate active spared
    have recordedKept := rule_action_spared input aggregate recorded spared
    cases isActive : ruleAction input aggregate active <;> cases isRecorded : ruleAction input aggregate recorded <;>
      simp_all

theorem replayed_action (model : PolicyModel) (thresholds : PolicyThresholds) (input : DecisionInput) (castId : String)
    (intent : Intent) (parentCastId : Option String) (stamp : DecisionStamp) (decision : PolicyDecision)
    (made : policyDecision model thresholds input castId intent parentCastId stamp = .ok decision) :
    decision.action = model.action thresholds input ∧
      replayed input.verdict decision = PolicyModel.action {} thresholds input := by
  obtain ⟨given, ruled, made⟩ := (bind_ok _ _ _).mp made
  cases made
  obtain ⟨scored, -, action⟩ := ruling_ok model thresholds input given ruled
  refine ⟨action, ?_⟩
  have again : ruling {} thresholds input = .ok
      { scores := given.scores, aggregate := aggregateScore given.scores,
        action := (RuleBasedPolicyModel.decide input given.scores (aggregateScore given.scores) thresholds).1,
        rationale := (RuleBasedPolicyModel.decide input given.scores (aggregateScore given.scores) thresholds).2 } :=
    (bind_ok _ _ _).mpr ⟨given.scores, scored, rfl⟩
  exact (ruling_ok {} thresholds input _ again).2.2

theorem tuned_action (thresholds active : PolicyThresholds) (input : DecisionInput) (model : PolicyModel)
    (tuned : model.active thresholds = active) :
    model.action thresholds input = PolicyModel.action {} thresholds input ↔
      DeniedOutright input ∨ TreatedAlike thresholds active input := by
  rw [rule_based_action, PolicyModel.action, tuned]
  by_cases outright : DeniedOutright input
  · rw [ruleAction, if_pos outright, ruleAction, if_pos outright, ite_self, ite_self]
    exact ⟨fun _ => Or.inl outright, fun _ => rfl⟩
  · rw [or_iff_right outright]
    by_cases shut : EffectGated (thresholds.scored .effectRisk) (Scorer.value input .effectRisk)
        active.effectRiskMinScore
    · rw [if_pos shut]
      by_cases gated : Gated thresholds input
      · rw [if_pos gated]
        exact ⟨fun _ => ⟨iff_of_true shut gated, fun open_ => absurd gated open_⟩, fun _ => rfl⟩
      · rw [if_neg gated]
        constructor
        · exact fun same => absurd same.symm (rule_action_spared input _ thresholds outright)
        · exact fun alike => absurd (alike.gate.mp shut) gated
    · rw [if_neg shut]
      by_cases gated : Gated thresholds input
      · rw [if_pos gated]
        constructor
        · exact fun same => absurd same (rule_action_spared input _ active outright)
        · exact fun alike => absurd (alike.gate.mpr gated) shut
      · rw [if_neg gated, rule_action_alike input _ active thresholds outright]
        exact ⟨fun alike => ⟨iff_of_false shut gated, fun _ => alike⟩, fun alike => alike.admitted gated⟩

theorem replayable_iff (model : PolicyModel) (thresholds : PolicyThresholds) (input : DecisionInput) (castId : String)
    (intent : Intent) (parentCastId : Option String) (stamp : DecisionStamp) (decision : PolicyDecision)
    (made : policyDecision model thresholds input castId intent parentCastId stamp = .ok decision) :
    replayed input.verdict decision = decision.action ↔
      ∀ tuned ∈ model.thresholdsOverride, DeniedOutright input ∨ TreatedAlike thresholds tuned input := by
  obtain ⟨action, replay⟩ := replayed_action model thresholds input castId intent parentCastId stamp decision made
  rw [action, replay, eq_comm]
  cases override : model.thresholdsOverride with
  | none =>
      have same : model.active thresholds = thresholds := by rw [PolicyModel.active, override, Option.getD_none]
      have plain : model.action thresholds input = PolicyModel.action {} thresholds input := by
        rw [PolicyModel.action, same]
        rfl
      exact iff_of_true plain fun tuned isTuned => by contradiction
  | some active =>
      have same : model.active thresholds = active := by rw [PolicyModel.active, override, Option.getD_some]
      rw [tuned_action thresholds active input model same]
      simp

def tunedAt (allowMinResonance : ℚ) (range : InUnit allowMinResonance) : PolicyModel where
  name := "threshold_tuned"
  thresholdsOverride := some { allowMinResonance := allowMinResonance, allowInRange := range }

def revealing : Intent where
  objective := "Reveal hidden structure"
  scope := "analysis"
  reversibility := .reversible
  sideEffectTolerance := .low

def firstStamp : DecisionStamp where
  decisionId := "first"
  timestamp := .newYear 2026 (Eq.refl true)

theorem decision_made (model : PolicyModel) (thresholds : PolicyThresholds) (input : DecisionInput)
    (accepted : thresholds.Accepted) : ∃ decision,
      policyDecision model thresholds input "cast" revealing none firstStamp = .ok decision ∧
        decision.action = model.action thresholds input := by
  obtain ⟨given, ruled⟩ := (ruling_accepts model thresholds input).mpr accepted
  exact ⟨_, (bind_ok _ _ _).mpr ⟨given, ruled, rfl⟩, (ruling_ok model thresholds input given ruled).2.2⟩

theorem alike_tuning_replays : ∃ decision,
    policyDecision (tunedAt (4 / 5) (by decide +kernel)) {} coherentInput "cast" revealing none firstStamp =
      .ok decision ∧ replayed coherentInput.verdict decision = decision.action := by
  obtain ⟨decision, made, -⟩ := decision_made (tunedAt (4 / 5) (by decide +kernel)) {} coherentInput (by decide +kernel)
  refine ⟨decision, made, (replayable_iff _ _ _ _ _ _ _ decision made).mpr ?_⟩
  intro tuned isTuned
  cases isTuned
  refine Or.inr ⟨iff_of_false (by decide +kernel) (by decide +kernel), fun _ _ => ?_⟩
  exact iff_of_true ⟨by decide +kernel, by decide +kernel, rfl⟩ ⟨by decide +kernel, by decide +kernel, rfl⟩

theorem tuning_unrecorded : ∃ decision,
    policyDecision (tunedAt (19 / 20) (by decide +kernel)) {} coherentInput "cast" revealing none firstStamp =
      .ok decision ∧ decision.action = .reshape ∧ replayed coherentInput.verdict decision = .allow := by
  obtain ⟨decision, made, action⟩ :=
    decision_made (tunedAt (19 / 20) (by decide +kernel)) {} coherentInput (by decide +kernel)
  obtain ⟨-, replay⟩ := replayed_action _ _ _ _ _ _ _ decision made
  refine ⟨decision, made, ?_, ?_⟩
  · rw [action]
    decide +kernel
  · rw [replay]
    decide +kernel

end Vermyth
