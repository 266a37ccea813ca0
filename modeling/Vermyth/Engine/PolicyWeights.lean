import Vermyth.Engine.Policy

set_option autoImplicit false

namespace Vermyth

open Foundation

structure DecisionInput.AgreeBut (scorer : Scorer) (input other : DecisionInput) : Prop where
  verdictType : input.verdict.verdictType = other.verdict.verdictType
  adjusted : scorer ≠ .resonance → input.adjusted = other.adjusted
  divergenceStatus : scorer ≠ .divergence → input.divergenceStatus = other.divergenceStatus
  narrativeCoherence : scorer ≠ .narrative → input.narrativeCoherence = other.narrativeCoherence
  effects : scorer ≠ .effectRisk → input.effects = other.effects

structure UsesConfiguredWeights (model : PolicyModel) (thresholds : PolicyThresholds) : Prop where
  aggregate : ∀ (input : DecisionInput) (given : Ruling), ruling model thresholds input = .ok given →
    given.aggregate = weightedMean thresholds.weight (Scorer.value input)
  ignores : ∀ (scorer : Scorer) (input other : DecisionInput) (given too : Ruling), thresholds.weight scorer = 0 →
    input.AgreeBut scorer other → ruling model thresholds input = .ok given →
    ruling model thresholds other = .ok too → given.action = too.action
  ungated : thresholds.weight .effectRisk = 0 → ∀ (input : DecisionInput) (given : Ruling),
    ruling model thresholds input = .ok given → effectGate given.scores (model.active thresholds) = none

def PolicyThresholds.Nonneg (thresholds : PolicyThresholds) : Prop :=
  ∀ (name : String) (weight : ℚ), thresholds.scorerWeights name = some weight → 0 ≤ weight

theorem configured_nonneg (thresholds : PolicyThresholds) (nonneg : thresholds.Nonneg) (scorer : Scorer) :
    0 ≤ thresholds.weight scorer := by
  rcases found : thresholds.scorerWeights scorer.name with _ | weight
  · rw [PolicyThresholds.weight, found]
    exact le_rfl
  · rw [PolicyThresholds.weight, found]
    exact nonneg scorer.name weight found

theorem scored_weighty (thresholds : PolicyThresholds) (nonneg : thresholds.Nonneg) (scorer : Scorer)
    (weighty : thresholds.weight scorer ≠ 0) : thresholds.scored scorer = thresholds.weight scorer := by
  rw [PolicyThresholds.scored, weightOrDefault, if_neg weighty,
    max_eq_right (configured_nonneg thresholds nonneg scorer)]

theorem scored_weightless (thresholds : PolicyThresholds) (scorer : Scorer)
    (weightless : thresholds.weight scorer = 0) : thresholds.scored scorer = 1 := by
  rw [PolicyThresholds.scored, weightOrDefault, if_pos weightless]
  exact max_eq_right (zero_le_one' ℚ)

theorem value_agrees (scorer kept : Scorer) (input other : DecisionInput) (agree : input.AgreeBut scorer other)
    (different : kept ≠ scorer) : kept.value input = kept.value other := by
  cases kept with
  | resonance => rw [Scorer.value, Scorer.value, agree.adjusted different.symm]
  | divergence => rw [Scorer.value, Scorer.value, agree.divergenceStatus different.symm]
  | narrative => rw [Scorer.value, Scorer.value, agree.narrativeCoherence different.symm]
  | effectRisk => rw [Scorer.value, Scorer.value, agree.effects different.symm]

def coherentAt (adjusted : ℚ) (range : InUnit adjusted) : Verdict where
  verdictType := .coherent
  resonance := { adjusted := adjusted, inRange := range }

theorem coherent_in_unit : InUnit (9 / 10) := by decide +kernel

def coherentInput : DecisionInput where
  verdict := coherentAt (9 / 10) coherent_in_unit

theorem lesser_in_unit : InUnit (4 / 5) := by decide +kernel

theorem whole_in_unit : ∀ value ∈ some (1 : ℚ), InUnit value := by decide +kernel

def movedInput : Scorer → DecisionInput
  | .resonance => { coherentInput with verdict := coherentAt (4 / 5) lesser_in_unit }
  | .divergence => { coherentInput with divergenceStatus := some .drifting }
  | .narrative => { coherentInput with narrativeCoherence := some 1, coherenceInRange := whole_in_unit }
  | .effectRisk => { coherentInput with effects := [{ effectType := .write }] }

theorem moved_input_agrees (scorer : Scorer) : coherentInput.AgreeBut scorer (movedInput scorer) := by
  cases scorer <;> constructor <;> first | exact fun _ => rfl | exact fun same => absurd rfl same | rfl

theorem moved_input_moves (scorer : Scorer) : scorer.value coherentInput ≠ scorer.value (movedInput scorer) := by
  cases scorer <;> decide +kernel

theorem configured_ignores (thresholds : PolicyThresholds) (scorer : Scorer)
    (weightless : thresholds.weight scorer = 0) :
    weightedMean thresholds.weight (Scorer.value coherentInput) =
      weightedMean thresholds.weight (Scorer.value (movedInput scorer)) := by
  refine weighted_mean_ignores _ _ _ scorer ?_ weightless
  exact fun kept different => value_agrees scorer kept _ _ (moved_input_agrees scorer) different

theorem scored_heeds (thresholds : PolicyThresholds) (scorer : Scorer) (weightless : thresholds.weight scorer = 0) :
    aggregateOf thresholds coherentInput ≠ aggregateOf thresholds (movedInput scorer) := by
  have weighty : 0 < thresholds.scored scorer := by
    rw [scored_weightless thresholds scorer weightless]
    exact zero_lt_one
  have total := total_weight_pos thresholds.scored (scored_nonneg thresholds) scorer weighty
  refine weighted_mean_moves _ _ _ scorer ?_ weighty.ne' total.ne' (moved_input_moves scorer)
  exact fun kept different => value_agrees scorer kept _ _ (moved_input_agrees scorer) different

theorem uses_configured_weights_iff (model : PolicyModel) (thresholds : PolicyThresholds)
    (accepted : ∃ input given, ruling model thresholds input = .ok given) (nonneg : thresholds.Nonneg) :
    UsesConfiguredWeights model thresholds ↔ ∀ scorer, thresholds.weight scorer ≠ 0 := by
  obtain ⟨somewhere, given, made⟩ := accepted
  have light := (ruling_accepts model thresholds somewhere).mp ⟨given, made⟩
  constructor
  · intro uses scorer weightless
    obtain ⟨first, isFirst⟩ := (ruling_accepts model thresholds coherentInput).mpr light
    obtain ⟨second, isSecond⟩ := (ruling_accepts model thresholds (movedInput scorer)).mpr light
    have heeds := scored_heeds thresholds scorer weightless
    rw [← (ruling_ok _ _ _ _ isFirst).2.1, ← (ruling_ok _ _ _ _ isSecond).2.1, uses.aggregate _ _ isFirst,
      uses.aggregate _ _ isSecond] at heeds
    exact heeds (configured_ignores thresholds scorer weightless)
  · intro weighty
    have same : thresholds.scored = thresholds.weight :=
      funext fun scorer => scored_weighty thresholds nonneg scorer (weighty scorer)
    refine ⟨?_, fun scorer _ _ _ _ weightless => absurd weightless (weighty scorer),
      fun weightless => absurd weightless (weighty .effectRisk)⟩
    intro input given isGiven
    rw [(ruling_ok _ _ _ _ isGiven).2.1, aggregateOf, same]

theorem default_weights_used : UsesConfiguredWeights {} {} := by
  have light : PolicyThresholds.Accepted {} := by decide +kernel
  have nonneg : PolicyThresholds.Nonneg {} := by
    intro name weight found
    simp only [defaultWeights] at found
    split at found <;> cases found <;> decide +kernel
  exact (uses_configured_weights_iff {} {} ⟨coherentInput, (ruling_accepts {} {} coherentInput).mpr light⟩ nonneg).mpr
    (by decide +kernel)

def resonanceWeight : ScorerWeights
  | "resonance" => some 1
  | _ => none

def resonanceOnly : PolicyThresholds where
  scorerWeights := resonanceWeight
  effectRiskMinScore := some (1 / 2)

def destructiveInput : DecisionInput :=
  { coherentInput with effects := List.replicate 2 { effectType := .write, reversible := false } }

theorem absent_weights_counted :
    resonanceOnly.Nonneg ∧ resonanceOnly.weight .effectRisk = 0 ∧
      coherentInput.AgreeBut .effectRisk destructiveInput ∧
      (∃ given, ruling {} resonanceOnly coherentInput = .ok given ∧ given.action = .allow ∧
        given.aggregate ≠ weightedMean resonanceOnly.weight (Scorer.value coherentInput)) ∧
      ∃ given, ruling {} resonanceOnly destructiveInput = .ok given ∧ given.action = .deny ∧
        effectGate given.scores resonanceOnly ≠ none := by
  have light : resonanceOnly.Accepted := by decide +kernel
  obtain ⟨plain, isPlain⟩ := (ruling_accepts {} resonanceOnly coherentInput).mpr light
  obtain ⟨gated, isGated⟩ := (ruling_accepts {} resonanceOnly destructiveInput).mpr light
  obtain ⟨-, mean, allowed⟩ := ruling_ok _ _ _ _ isPlain
  obtain ⟨scored, -, denied⟩ := ruling_ok _ _ _ _ isGated
  have agree : coherentInput.AgreeBut .effectRisk destructiveInput :=
    ⟨rfl, fun _ => rfl, fun _ => rfl, fun _ => rfl, fun same => absurd rfl same⟩
  have nonneg : resonanceOnly.Nonneg := by
    intro name weight found
    simp only [resonanceOnly, resonanceWeight] at found
    split at found <;> cases found
    decide +kernel
  have shut : (effectGate gated.scores resonanceOnly).isSome :=
    (effect_gate resonanceOnly resonanceOnly destructiveInput gated.scores scored).mpr (by decide +kernel)
  refine ⟨nonneg, rfl, agree, ⟨plain, isPlain, ?_, ?_⟩, gated, isGated, ?_, ?_⟩
  · rw [allowed]
    decide +kernel
  · rw [mean]
    decide +kernel
  · rw [denied]
    decide +kernel
  · exact Option.isSome_iff_ne_none.mp shut

end Vermyth
