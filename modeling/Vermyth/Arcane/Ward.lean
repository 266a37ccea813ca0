import Vermyth.Engine.DriftCeiling

set_option autoImplicit false

namespace Vermyth

def raisedBy (minimum : ℚ) (overlay : Option ℚ) : ℚ := overlay.elim minimum (max minimum)

theorem raised_by_in_unit (minimum : ℚ) (overlay : Option ℚ) (range : InUnit minimum)
    (ranges : ∀ least ∈ overlay, InUnit least) : InUnit (raisedBy minimum overlay) := by
  cases overlay with
  | none => exact range
  | some least => exact max_in_unit minimum least range (ranges least rfl)

theorem le_raised_by (minimum : ℚ) (overlay : Option ℚ) : minimum ≤ raisedBy minimum overlay := by
  cases overlay with
  | none => exact le_rfl
  | some least => exact le_max_left minimum least

def raisedMinimum : Option ℚ → Option ℚ → Option ℚ
  | minimum, none => minimum
  | none, some least => some least
  | some minimum, some least => some (max minimum least)

theorem raised_minimum_in_unit (minimum overlay : Option ℚ) (range : ∀ least ∈ minimum, InUnit least)
    (ranges : ∀ least ∈ overlay, InUnit least) : ∀ least ∈ raisedMinimum minimum overlay, InUnit least := by
  intro least isLeast
  cases overlay with
  | none => exact range least (by simpa [raisedMinimum] using isLeast)
  | some above =>
      cases minimum with
      | none => exact ranges least isLeast
      | some below =>
          cases isLeast
          exact max_in_unit below above (range below rfl) (ranges above rfl)

-- dict.update
def ScorerWeights.update (weights : ScorerWeights) (overlay : Option ScorerWeights) : ScorerWeights :=
  overlay.elim weights fun given name => (given name).or (weights name)

def mergeWardIntoThresholds (base : PolicyThresholds) (ward : WardSpec) : PolicyThresholds where
  allowMinResonance := raisedBy base.allowMinResonance ward.allowMinResonance
  reshapeMinResonance := raisedBy base.reshapeMinResonance ward.reshapeMinResonance
  maxDriftStatus := ward.maxDriftStatus.getD base.maxDriftStatus
  scorerWeights := base.scorerWeights.update ward.scorerWeights
  effectRiskMinScore := raisedMinimum base.effectRiskMinScore ward.effectRiskMinScore
  allowInRange := raised_by_in_unit _ _ base.allowInRange ward.allowInRange
  reshapeInRange := raised_by_in_unit _ _ base.reshapeInRange ward.reshapeInRange
  effectInRange := raised_minimum_in_unit _ _ base.effectInRange ward.effectInRange

def applyDivinationThresholds (base : PolicyThresholds) (div : DivinationSpec) : PolicyThresholds :=
  match div.thresholds with
  | none => base
  | some ward => mergeWardIntoThresholds base ward

def mergeWards (base : PolicyThresholds) (wards : List WardSpec) : PolicyThresholds :=
  wards.foldl mergeWardIntoThresholds base

def WardSpec.andThen (first second : WardSpec) : WardSpec where
  allowMinResonance := raisedMinimum first.allowMinResonance second.allowMinResonance
  reshapeMinResonance := raisedMinimum first.reshapeMinResonance second.reshapeMinResonance
  maxDriftStatus := second.maxDriftStatus.or first.maxDriftStatus
  effectRiskMinScore := raisedMinimum first.effectRiskMinScore second.effectRiskMinScore
  scorerWeights :=
    match first.scorerWeights with
    | none => second.scorerWeights
    | some weights => some (weights.update second.scorerWeights)
  allowInRange := raised_minimum_in_unit _ _ first.allowInRange second.allowInRange
  reshapeInRange := raised_minimum_in_unit _ _ first.reshapeInRange second.reshapeInRange
  effectInRange := raised_minimum_in_unit _ _ first.effectInRange second.effectInRange

def combinedWard (wards : List WardSpec) : WardSpec := wards.foldl WardSpec.andThen {}

theorem raised_by_twice (minimum : ℚ) (first second : Option ℚ) :
    raisedBy (raisedBy minimum first) second = raisedBy minimum (raisedMinimum first second) := by
  cases first <;> cases second <;> simp [raisedBy, raisedMinimum, max_assoc]

theorem raised_minimum_twice (minimum first second : Option ℚ) :
    raisedMinimum (raisedMinimum minimum first) second = raisedMinimum minimum (raisedMinimum first second) := by
  cases minimum <;> cases first <;> cases second <;> simp [raisedMinimum, max_assoc]

theorem update_twice (weights : ScorerWeights) (first second : Option ScorerWeights) :
    (weights.update first).update second =
      weights.update (match first with | none => second | some given => some (given.update second)) := by
  cases first <;> cases second <;> simp [ScorerWeights.update, Option.or_assoc]

theorem merge_merge (base : PolicyThresholds) (first second : WardSpec) :
    mergeWardIntoThresholds (mergeWardIntoThresholds base first) second =
      mergeWardIntoThresholds base (first.andThen second) := by
  simp only [mergeWardIntoThresholds, WardSpec.andThen, PolicyThresholds.mk.injEq]
  refine ⟨raised_by_twice _ _ _, raised_by_twice _ _ _, ?_, update_twice _ _ _, raised_minimum_twice _ _ _⟩
  cases second.maxDriftStatus <;> rfl

@[simp] theorem merge_nothing (base : PolicyThresholds) : mergeWardIntoThresholds base {} = base := rfl

theorem merge_wards_from (base : PolicyThresholds) (first : WardSpec) (wards : List WardSpec) :
    mergeWards (mergeWardIntoThresholds base first) wards =
      mergeWardIntoThresholds base (wards.foldl WardSpec.andThen first) := by
  induction wards generalizing first with
  | nil => rfl
  | cons ward rest ih =>
      rw [mergeWards, List.foldl_cons, merge_merge, List.foldl_cons]
      exact ih (first.andThen ward)

theorem merge_wards_combined (base : PolicyThresholds) (wards : List WardSpec) :
    mergeWards base wards = mergeWardIntoThresholds base (combinedWard wards) := by
  conv_lhs => rw [← merge_nothing base]
  exact merge_wards_from base {} wards

def Tightens (base warded : PolicyThresholds) (input : DecisionInput) : Prop :=
  ∀ given tight : Ruling, ruling {} base input = .ok given → ruling {} warded input = .ok tight →
    tight.action ≤ given.action

inductive Opens (base : PolicyThresholds) (ward : WardSpec) (input : DecisionInput) : Prop where
  | gate (spared : ¬ DeniedOutright input) (gated : Gated base input)
      (negative : ∃ weights ∈ ward.scorerWeights, ∃ weight ∈ weights "effect_risk", weight < 0)
  | drift (ungated : ¬ Gated base input) (status : input.divergenceStatus = some .drifting)
      (ceiling : ward.maxDriftStatus = some .drifting) (strict : base.maxDriftStatus ≠ .drifting)
      (allowable : Allowable (mergeWardIntoThresholds base ward) input)
  | aggregate (ungated : ¬ Gated base input) (below : aggregateOf base input < base.allowMinResonance)
      (spared : ¬ DeniedOutright input) (drift : driftOk input.divergenceStatus (mergeWardIntoThresholds base ward))
      (allowable : Allowable (mergeWardIntoThresholds base ward) input)

structure Loosens (base : PolicyThresholds) (ward : WardSpec) (input : DecisionInput) : Prop where
  accepted : base.Accepted
  merged : (mergeWardIntoThresholds base ward).Accepted
  opened : Opens base ward input

theorem raised_minimum_any (value : ℚ) (minimum overlay : Option ℚ)
    (below : minimum.any fun least => value < least) :
    (raisedMinimum minimum overlay).any fun least => value < least := by
  cases minimum with
  | none => contradiction
  | some least =>
      have less : value < least := by simpa using below
      cases overlay with
      | none => exact below
      | some above => simpa [raisedMinimum] using Or.inl less

theorem merged_weight (base : PolicyThresholds) (ward : WardSpec) (scorer : Scorer) :
    (mergeWardIntoThresholds base ward).weight scorer =
      (ward.scorerWeights.bind fun weights => weights scorer.name).getD (base.weight scorer) := by
  simp only [PolicyThresholds.weight, mergeWardIntoThresholds, ScorerWeights.update]
  rcases ward.scorerWeights with _ | weights
  · rfl
  · rcases found : weights scorer.name with _ | weight <;> simp [found]

theorem scored_pos_iff (thresholds : PolicyThresholds) (scorer : Scorer) :
    0 < thresholds.scored scorer ↔ 0 ≤ thresholds.weight scorer := by
  rw [PolicyThresholds.scored, weightOrDefault]
  by_cases weightless : thresholds.weight scorer = 0
  · rw [if_pos weightless, weightless]
    decide +kernel
  · rw [if_neg weightless, lt_max_iff, or_iff_right (lt_irrefl 0)]
    exact ⟨le_of_lt, fun nonneg => lt_of_le_of_ne nonneg (Ne.symm weightless)⟩

theorem gate_lifted_iff (base : PolicyThresholds) (ward : WardSpec) (input : DecisionInput)
    (gated : Gated base input) :
    ¬ Gated (mergeWardIntoThresholds base ward) input ↔
      ∃ weights ∈ ward.scorerWeights, ∃ weight ∈ weights "effect_risk", weight < 0 := by
  obtain ⟨weighty, below⟩ := gated
  have still : (mergeWardIntoThresholds base ward).effectRiskMinScore.any fun least =>
      Scorer.value input .effectRisk < least := raised_minimum_any _ _ _ below
  rw [scored_pos_iff] at weighty
  simp only [Gated, EffectGated, still, and_true, scored_pos_iff, merged_weight, not_le]
  rcases ward.scorerWeights with _ | weights
  · simpa using weighty
  · rcases found : weights "effect_risk" with _ | weight
    · simpa [found, Scorer.name] using weighty
    · simp [found, Scorer.name]

theorem drift_opened (base : PolicyThresholds) (ward : WardSpec) (input : DecisionInput)
    (spared : ¬ DeniedOutright input) (drift : driftOk input.divergenceStatus (mergeWardIntoThresholds base ward))
    (refused : ¬ driftOk input.divergenceStatus base) :
    input.divergenceStatus = some .drifting ∧ ward.maxDriftStatus = some .drifting ∧
      base.maxDriftStatus ≠ .drifting := by
  rcases isStatus : input.divergenceStatus with _ | status
  · rw [isStatus] at refused
    exact absurd rfl refused
  · rw [isStatus, drift_ok_some] at drift refused
    cases status with
    | stable => exact absurd (Or.inl rfl) refused
    | diverged => exact absurd (Or.inr isStatus) spared
    | drifting =>
        rcases drift with stable | onCeiling
        · contradiction
        · simp only [mergeWardIntoThresholds] at onCeiling
          rcases isCeiling : ward.maxDriftStatus with _ | ceiling
          · rw [isCeiling] at onCeiling
            exact absurd (Or.inr onCeiling) refused
          · rw [isCeiling] at onCeiling
            exact ⟨rfl, congrArg some onCeiling.symm, fun same => refused (Or.inr same.symm)⟩

theorem opens_loosens (base : PolicyThresholds) (ward : WardSpec) (input : DecisionInput)
    (opened : Opens base ward input) :
    ¬ PolicyModel.action {} (mergeWardIntoThresholds base ward) input ≤ PolicyModel.action {} base input := by
  rw [action_le_iff]
  intro ⟨allows, denies⟩
  cases opened with
  | gate spared gated negative =>
      have denied := denies ((action_deny_iff base input).mpr (Or.inl gated))
      rcases (action_deny_iff _ input).mp denied with still | outright
      · exact (gate_lifted_iff base ward input gated).mpr negative still
      · exact spared outright
  | drift ungated status ceiling strict allowable =>
      have drift : driftOk input.divergenceStatus (mergeWardIntoThresholds base ward) := by
        rw [status, drift_ok_some]
        exact Or.inr (by simp [mergeWardIntoThresholds, ceiling])
      have spared : ¬ DeniedOutright input := by
        simp [DeniedOutright, status, allowable.coherent]
      have allowed := allows ((action_allow_iff _ input).mpr ⟨allowable, drift, spared⟩)
      have passed := ((action_allow_iff base input).mp allowed).2.1
      rw [status, drift_ok_some] at passed
      rcases passed with stable | onCeiling
      · contradiction
      · exact strict onCeiling.symm
  | aggregate ungated below spared drift allowable =>
      have allowed := allows ((action_allow_iff _ input).mpr ⟨allowable, drift, spared⟩)
      exact absurd ((action_allow_iff base input).mp allowed).1.aggregate (not_le.mpr below)

theorem tightens_unless_opened (base : PolicyThresholds) (ward : WardSpec) (input : DecisionInput)
    (shut : ¬ Opens base ward input) :
    PolicyModel.action {} (mergeWardIntoThresholds base ward) input ≤ PolicyModel.action {} base input := by
  rw [action_le_iff]
  have stays : ¬ DeniedOutright input → Gated base input → Gated (mergeWardIntoThresholds base ward) input := by
    intro spared gated
    by_contra lifted
    exact shut (.gate spared gated ((gate_lifted_iff base ward input gated).mp lifted))
  constructor
  · intro allowed
    obtain ⟨allowable, drift, spared⟩ := (action_allow_iff _ input).mp allowed
    have ungated : ¬ Gated base input := fun gated => allowable.ungated (stays spared gated)
    have adjusted : base.allowMinResonance ≤ input.adjusted :=
      le_trans (le_raised_by base.allowMinResonance ward.allowMinResonance) allowable.adjusted
    have aggregate : base.allowMinResonance ≤ aggregateOf base input := by
      by_contra below
      exact shut (.aggregate ungated (not_le.mp below) spared drift allowable)
    have passed : driftOk input.divergenceStatus base := by
      by_contra refused
      obtain ⟨status, ceiling, strict⟩ := drift_opened base ward input spared drift refused
      exact shut (.drift ungated status ceiling strict allowable)
    exact (action_allow_iff base input).mpr ⟨⟨allowable.coherent, adjusted, aggregate, ungated⟩, passed, spared⟩
  · intro denied
    apply (action_deny_iff _ input).mpr
    by_cases outright : DeniedOutright input
    · exact Or.inr outright
    · rcases (action_deny_iff base input).mp denied with gated | also
      · exact Or.inl (stays outright gated)
      · exact absurd also outright

theorem ward_tightens_iff (base : PolicyThresholds) (ward : WardSpec) (input : DecisionInput) :
    Tightens base (mergeWardIntoThresholds base ward) input ↔ ¬ Loosens base ward input := by
  constructor
  · intro tightens loosens
    obtain ⟨given, isGiven⟩ := (ruling_accepts {} base input).mpr loosens.accepted
    obtain ⟨tight, isTight⟩ := (ruling_accepts {} (mergeWardIntoThresholds base ward) input).mpr loosens.merged
    have less := tightens given tight isGiven isTight
    rw [(ruling_ok _ _ _ _ isGiven).2.2, (ruling_ok _ _ _ _ isTight).2.2] at less
    exact opens_loosens base ward input loosens.opened less
  · intro keeps given tight isGiven isTight
    have accepted := (ruling_accepts {} base input).mp ⟨given, isGiven⟩
    have merged := (ruling_accepts {} (mergeWardIntoThresholds base ward) input).mp ⟨tight, isTight⟩
    rw [(ruling_ok _ _ _ _ isGiven).2.2, (ruling_ok _ _ _ _ isTight).2.2]
    exact tightens_unless_opened base ward input fun opened => keeps ⟨accepted, merged, opened⟩

theorem wards_tighten_iff (base : PolicyThresholds) (ward : WardSpec) (div : DivinationSpec) (wards : List WardSpec)
    (input : DecisionInput) :
    (Tightens base (mergeWardIntoThresholds base ward) input ↔ ¬ Loosens base ward input) ∧
      (Tightens base (applyDivinationThresholds base div) input ↔ ¬ Loosens base (div.thresholds.getD {}) input) ∧
      (Tightens base (mergeWards base wards) input ↔ ¬ Loosens base (combinedWard wards) input) := by
  refine ⟨ward_tightens_iff base ward input, ?_, ?_⟩
  · rw [← ward_tightens_iff, applyDivinationThresholds]
    rcases div.thresholds with _ | ward <;> rfl
  · rw [← ward_tightens_iff, merge_wards_combined]

def strictBase : PolicyThresholds where
  maxDriftStatus := .stable

def driftWard : WardSpec where
  maxDriftStatus := some .drifting

theorem ward_raises_ceiling :
    (∃ given, ruling {} strictBase driftingInput = .ok given ∧ given.action = .reshape) ∧
      (∃ tight, ruling {} (mergeWardIntoThresholds strictBase driftWard) driftingInput = .ok tight ∧
        tight.action = .allow) ∧
      ¬ Tightens strictBase (mergeWardIntoThresholds strictBase driftWard) driftingInput := by
  have light : strictBase.Accepted := by decide +kernel
  have merged : (mergeWardIntoThresholds strictBase driftWard).Accepted := by decide +kernel
  obtain ⟨given, isGiven⟩ := (ruling_accepts {} strictBase driftingInput).mpr light
  obtain ⟨tight, isTight⟩ := (ruling_accepts {} (mergeWardIntoThresholds strictBase driftWard) driftingInput).mpr merged
  have reshaped : given.action = .reshape := by
    rw [(ruling_ok _ _ _ _ isGiven).2.2]
    decide +kernel
  have allowed : tight.action = .allow := by
    rw [(ruling_ok _ _ _ _ isTight).2.2]
    decide +kernel
  refine ⟨⟨given, isGiven, reshaped⟩, ⟨tight, isTight, allowed⟩, ?_⟩
  intro tightens
  have less := tightens given tight isGiven isTight
  rw [reshaped, allowed] at less
  exact absurd less (by decide)

def WardSpec.OnlyMinimums (ward : WardSpec) : Prop := ward.maxDriftStatus = none ∧ ward.scorerWeights = none

theorem combined_only_minimums (first : WardSpec) (wards : List WardSpec) (isFirst : first.OnlyMinimums)
    (each : ∀ ward ∈ wards, ward.OnlyMinimums) : (wards.foldl WardSpec.andThen first).OnlyMinimums := by
  induction wards generalizing first with
  | nil => exact isFirst
  | cons ward rest ih =>
      have isWard := each ward List.mem_cons_self
      refine ih (first.andThen ward) ?_ fun other later => each other (List.mem_cons_of_mem ward later)
      exact ⟨by simp [WardSpec.andThen, isFirst.1, isWard.1], by simp [WardSpec.andThen, isFirst.2, isWard.2]⟩

theorem minimums_tighten (base : PolicyThresholds) (wards : List WardSpec) (input : DecisionInput)
    (each : ∀ ward ∈ wards, ward.OnlyMinimums) : Tightens base (mergeWards base wards) input := by
  obtain ⟨ceiling, weights⟩ : (combinedWard wards).OnlyMinimums := combined_only_minimums {} wards ⟨rfl, rfl⟩ each
  rw [merge_wards_combined, ward_tightens_iff]
  rintro ⟨-, -, opened⟩
  cases opened with
  | gate spared gated negative => simp [weights] at negative
  | drift ungated status onCeiling strict allowable => simp [ceiling] at onCeiling
  | aggregate ungated below spared drift allowable =>
      have same : aggregateOf (mergeWardIntoThresholds base (combinedWard wards)) input = aggregateOf base input := by
        have scored : (mergeWardIntoThresholds base (combinedWard wards)).scored = base.scored := by
          funext scorer
          rw [PolicyThresholds.scored, merged_weight, weights]
          rfl
        rw [aggregateOf, scored, aggregateOf]
      have raised := le_trans (le_raised_by base.allowMinResonance (combinedWard wards).allowMinResonance)
        allowable.aggregate
      rw [same] at raised
      exact absurd raised (not_le.mpr below)

end Vermyth
