import Vermyth.Engine.DriftCeiling
import Mathlib.Logic.Relation

set_option autoImplicit false

namespace Vermyth

open Foundation

def divergenceLevel (status : Option DivergenceStatus) : Nat := status.elim 0 DivergenceStatus.level

inductive RaisesRisk : DecisionInput → DecisionInput → Prop where
  | inserted (input : DecisionInput) (before after : List Effect) (effect : Effect)
      (split : input.effects = before ++ after) :
      RaisesRisk input { input with effects := before ++ effect :: after }
  | irreversible (input : DecisionInput) (before after : List Effect) (effect : Effect)
      (split : input.effects = before ++ effect :: after) :
      RaisesRisk input { input with effects := before ++ { effect with reversible := false } :: after }
  | reordered (input : DecisionInput) (effects : List Effect) (same : input.effects.Perm effects) :
      RaisesRisk input { input with effects := effects }
  | diverged (input : DecisionInput) (status : Option DivergenceStatus)
      (worse : divergenceLevel input.divergenceStatus ≤ divergenceLevel status) :
      RaisesRisk input { input with divergenceStatus := status }
  | lowered (input : DecisionInput) (coherence lower : ℚ) (known : input.narrativeCoherence = some coherence)
      (below : lower ≤ coherence) (range : ∀ least ∈ some lower, InUnit least) :
      RaisesRisk input { input with narrativeCoherence := some lower, coherenceInRange := range }

def Riskier (safer riskier : DecisionInput) : Prop := Relation.ReflTransGen RaisesRisk safer riskier

structure AllowedSafely (thresholds : PolicyThresholds) (input : DecisionInput) (given : Ruling) : Prop where
  coherent : input.verdict.verdictType = .coherent
  adjusted : thresholds.allowMinResonance ≤ input.adjusted
  aggregate : thresholds.allowMinResonance ≤ given.aggregate
  undiverged : input.divergenceStatus ≠ some .diverged
  effects : ∀ minimum ∈ thresholds.effectRiskMinScore, ∀ score ∈ given.scores, score.name = "effect_risk" →
    0 < score.weight → minimum ≤ score.value

structure MonotoneInRisk (thresholds : PolicyThresholds) : Prop where
  decides : ∀ safer riskier, Riskier safer riskier →
    ((∃ given, ruling {} thresholds safer = .ok given) ↔ ∃ given, ruling {} thresholds riskier = .ok given)
  monotone : ∀ safer riskier, Riskier safer riskier → ∀ given taken : Ruling,
    ruling {} thresholds safer = .ok given → ruling {} thresholds riskier = .ok taken → taken.action ≤ given.action
  reordered : ∀ (input : DecisionInput) (effects : List Effect), input.effects.Perm effects →
    ∀ given taken : Ruling, ruling {} thresholds input = .ok given →
      ruling {} thresholds { input with effects := effects } = .ok taken → taken.action = given.action
  allowed : ∀ (input : DecisionInput) (given : Ruling), ruling {} thresholds input = .ok given →
    given.action = .allow → AllowedSafely thresholds input given

structure Outweighs (safer riskier : DecisionInput) : Prop where
  verdict : riskier.verdict = safer.verdict
  divergence : divergenceLevel safer.divergenceStatus ≤ divergenceLevel riskier.divergenceStatus
  values : ∀ scorer : Scorer, scorer.value riskier ≤ scorer.value safer

theorem outweighs_refl (input : DecisionInput) : Outweighs input input := ⟨rfl, le_rfl, fun _ => le_rfl⟩

theorem outweighs_trans (first second third : DecisionInput) (before : Outweighs first second)
    (after : Outweighs second third) : Outweighs first third :=
  ⟨after.verdict.trans before.verdict, before.divergence.trans after.divergence,
    fun scorer => (after.values scorer).trans (before.values scorer)⟩

theorem effect_risk_nonneg (effect : Effect) : 0 ≤ effectRiskOf effect := by
  unfold effectRiskOf
  cases effect.effectType <;> cases effect.reversible <;> decide +kernel

theorem irreversible_risk (effect : Effect) :
    effectRiskOf effect ≤ effectRiskOf { effect with reversible := false } := by
  unfold effectRiskOf
  refine add_le_add le_rfl ?_
  by_cases reversible : effect.reversible
  · rw [if_pos reversible, if_neg Bool.false_ne_true]
    decide +kernel
  · rw [if_neg reversible, if_neg Bool.false_ne_true]

theorem divergence_value_antitone (safer riskier : Option DivergenceStatus)
    (worse : divergenceLevel safer ≤ divergenceLevel riskier) :
    DivergenceScorer.value riskier ≤ DivergenceScorer.value safer := by
  rcases safer with _ | _ | _ | _ <;> rcases riskier with _ | _ | _ | _ <;>
    first | exact absurd worse (by decide) | decide +kernel

theorem effects_outweigh (input : DecisionInput) (effects : List Effect)
    (riskier : (input.effects.map effectRiskOf).sum ≤ (effects.map effectRiskOf).sum) :
    Outweighs input { input with effects := effects } := by
  refine ⟨rfl, le_rfl, ?_⟩
  intro scorer
  cases scorer with
  | resonance => exact le_rfl
  | divergence => exact le_rfl
  | narrative => exact le_rfl
  | effectRisk => exact sub_le_sub_left (clamp_mono _ _ riskier) 1

theorem raised_risk_outweighs (safer riskier : DecisionInput) (raised : RaisesRisk safer riskier) :
    Outweighs safer riskier := by
  cases raised with
  | inserted before after effect split =>
      apply effects_outweigh
      rw [split]
      simp only [List.map_append, List.map_cons, List.sum_append, List.sum_cons]
      exact add_le_add_right (le_add_of_nonneg_left (effect_risk_nonneg effect)) _
  | irreversible before after effect split =>
      apply effects_outweigh
      rw [split]
      simp only [List.map_append, List.map_cons, List.sum_append, List.sum_cons]
      exact add_le_add_right (add_le_add_left (irreversible_risk effect) _) _
  | reordered effects same =>
      apply effects_outweigh
      exact ((same.map effectRiskOf).sum_eq).le
  | diverged status worse =>
      refine ⟨rfl, worse, ?_⟩
      intro scorer
      cases scorer with
      | resonance => exact le_rfl
      | divergence => exact divergence_value_antitone _ _ worse
      | narrative => exact le_rfl
      | effectRisk => exact le_rfl
  | lowered coherence lower known below range =>
      refine ⟨rfl, le_rfl, ?_⟩
      intro scorer
      cases scorer with
      | resonance => exact le_rfl
      | divergence => exact le_rfl
      | narrative =>
          simp only [Scorer.value, NarrativeScorer.value, known]
          exact clamp_mono _ _ below
      | effectRisk => exact le_rfl

theorem riskier_outweighs (safer riskier : DecisionInput) (worse : Riskier safer riskier) :
    Outweighs safer riskier := by
  induction worse with
  | refl => exact outweighs_refl safer
  | tail _ raised ih => exact outweighs_trans _ _ _ ih (raised_risk_outweighs _ _ raised)

theorem outweighs_gated (thresholds : PolicyThresholds) (safer riskier : DecisionInput)
    (worse : Outweighs safer riskier) (gated : Gated thresholds safer) : Gated thresholds riskier := by
  obtain ⟨weighty, below⟩ := gated
  refine ⟨weighty, ?_⟩
  cases minimum : thresholds.effectRiskMinScore with
  | none =>
      rw [minimum] at below
      contradiction
  | some least =>
      rw [minimum] at below
      simp only [Option.any_some, decide_eq_true_eq] at below ⊢
      exact (worse.values .effectRisk).trans_lt below

theorem outweighs_denied (safer riskier : DecisionInput) (worse : Outweighs safer riskier)
    (outright : DeniedOutright safer) : DeniedOutright riskier := by
  rcases outright with incoherent | diverged
  · left
    rw [worse.verdict]
    exact incoherent
  · right
    have level := worse.divergence
    rw [diverged] at level
    rcases same : riskier.divergenceStatus with _ | _ | _ | _ <;> rw [same] at level <;>
      first | rfl | exact absurd level (by decide)

theorem outweighs_drift (thresholds : PolicyThresholds) (safer riskier : DecisionInput)
    (worse : Outweighs safer riskier) (spared : ¬ DeniedOutright riskier)
    (drift : driftOk riskier.divergenceStatus thresholds) : driftOk safer.divergenceStatus thresholds := by
  have level := worse.divergence
  cases isSafer : safer.divergenceStatus with
  | none => rfl
  | some status =>
      cases isRiskier : riskier.divergenceStatus with
      | none =>
          rw [isSafer, isRiskier] at level
          cases status <;> first | rfl | exact absurd level (by decide)
      | some other =>
          rw [isRiskier] at drift
          rw [isSafer, isRiskier] at level
          cases other with
          | diverged => exact absurd (Or.inr isRiskier) spared
          | stable => cases status <;> first | rfl | exact absurd level (by decide)
          | drifting =>
              cases status with
              | stable => rfl
              | drifting => exact drift
              | diverged => exact absurd level (by decide)

theorem outweighs_aggregate (thresholds : PolicyThresholds) (safer riskier : DecisionInput)
    (worse : Outweighs safer riskier) : aggregateOf thresholds riskier ≤ aggregateOf thresholds safer :=
  weighted_mean_mono thresholds.scored _ _ (scored_nonneg thresholds) worse.values

theorem outweighs_action (thresholds : PolicyThresholds) (safer riskier : DecisionInput)
    (worse : Outweighs safer riskier) :
    PolicyModel.action {} thresholds riskier ≤ PolicyModel.action {} thresholds safer := by
  rw [action_le_iff]
  constructor
  · intro allowed
    obtain ⟨⟨coherent, adjusted, aggregate, ungated⟩, drift, spared⟩ := (action_allow_iff _ _).mp allowed
    refine (action_allow_iff _ _).mpr ⟨⟨?_, ?_, ?_, ?_⟩, ?_, ?_⟩
    · rw [← worse.verdict]
      exact coherent
    · rw [DecisionInput.adjusted, ← worse.verdict]
      exact adjusted
    · exact aggregate.trans (outweighs_aggregate thresholds safer riskier worse)
    · exact fun gated => ungated (outweighs_gated thresholds safer riskier worse gated)
    · exact outweighs_drift thresholds safer riskier worse spared drift
    · exact fun outright => spared (outweighs_denied safer riskier worse outright)
  · intro denied
    rcases (action_deny_iff _ _).mp denied with gated | outright
    · exact (action_deny_iff _ _).mpr (Or.inl (outweighs_gated thresholds safer riskier worse gated))
    · exact (action_deny_iff _ _).mpr (Or.inr (outweighs_denied safer riskier worse outright))

theorem reordered_back (input : DecisionInput) (effects : List Effect) (same : input.effects.Perm effects) :
    Riskier { input with effects := effects } input :=
  .single (.reordered { input with effects := effects } input.effects same.symm)

theorem score_of_kind (thresholds : PolicyThresholds) (input : DecisionInput) (kinds : List Scorer)
    (scores : List ScoreComponent) (scored : List.Forall₂ (IsScore thresholds input) kinds scores)
    (score : ScoreComponent) (member : score ∈ scores) : ∃ kind, IsScore thresholds input kind score := by
  induction scored with
  | nil => contradiction
  | cons first _ ih =>
      rcases List.mem_cons.mp member with rfl | later
      · exact ⟨_, first⟩
      · exact ih later

theorem score_of_name (thresholds : PolicyThresholds) (input : DecisionInput) (scores : List ScoreComponent)
    (made : scorers thresholds input = .ok scores) (scorer : Scorer) (score : ScoreComponent)
    (member : score ∈ scores) (named : score.name = scorer.name) : IsScore thresholds input scorer score := by
  obtain ⟨kind, isScore⟩ := score_of_kind thresholds input Scorer.all scores
    (scorers_scored thresholds input scores made) score member
  have same : kind = scorer := by
    have names : kind.name = scorer.name := isScore.name.symm.trans named
    cases kind <;> cases scorer <;> first | rfl | contradiction
  rw [← same]
  exact isScore

theorem allowed_safely (thresholds : PolicyThresholds) (input : DecisionInput) (given : Ruling)
    (made : ruling {} thresholds input = .ok given) (allowed : given.action = .allow) :
    AllowedSafely thresholds input given := by
  obtain ⟨scored, aggregate, action⟩ := ruling_ok _ _ _ _ made
  rw [action, action_allow_iff] at allowed
  obtain ⟨allowable, -, spared⟩ := allowed
  refine ⟨allowable.coherent, allowable.adjusted, ?_, fun diverged => spared (Or.inr diverged), ?_⟩
  · rw [aggregate]
    exact allowable.aggregate
  · intro minimum isMinimum score member named weighty
    obtain ⟨-, value, weight⟩ := score_of_name thresholds input given.scores scored .effectRisk score member named
    by_contra below
    apply allowable.ungated
    refine ⟨weight ▸ weighty, ?_⟩
    rw [Option.mem_def.mp isMinimum, ← value]
    simpa using below

theorem decide_monotone_in_risk (thresholds : PolicyThresholds) : MonotoneInRisk thresholds := by
  refine ⟨?_, ?_, ?_, allowed_safely thresholds⟩
  · intro safer riskier _
    rw [ruling_accepts, ruling_accepts]
  · intro safer riskier worse given taken isGiven isTaken
    rw [(ruling_ok _ _ _ _ isGiven).2.2, (ruling_ok _ _ _ _ isTaken).2.2]
    exact outweighs_action thresholds safer riskier (riskier_outweighs safer riskier worse)
  · intro input effects same given taken isGiven isTaken
    rw [(ruling_ok _ _ _ _ isGiven).2.2, (ruling_ok _ _ _ _ isTaken).2.2]
    have there : Riskier input { input with effects := effects } := .single (.reordered input effects same)
    exact le_antisymm (outweighs_action _ _ _ (riskier_outweighs _ _ there))
      (outweighs_action _ _ _ (riskier_outweighs _ _ (reordered_back input effects same)))

end Vermyth
