import Vermyth.Engine.PolicyWeights

set_option autoImplicit false

namespace Vermyth

def PolicyThresholds.withCeiling (thresholds : PolicyThresholds) (ceiling : DivergenceStatus) : PolicyThresholds :=
  { thresholds with maxDriftStatus := ceiling }

structure OrderedCeiling (thresholds : PolicyThresholds) (higher : DivergenceStatus) (input : DecisionInput) :
    Prop where
  monotone : ∀ given raised : Ruling, ruling {} thresholds input = .ok given →
    ruling {} (thresholds.withCeiling higher) input = .ok raised → given.action ≤ raised.action
  tolerates : ∀ raised : Ruling, ruling {} (thresholds.withCeiling higher) input = .ok raised →
    (∀ status ∈ input.divergenceStatus, status ≤ higher ∧ status ≠ .diverged) → Allowable thresholds input →
    raised.action = .allow

structure DriftMissed (thresholds : PolicyThresholds) (higher : DivergenceStatus) (input : DecisionInput) : Prop where
  ceiling : higher = .diverged
  status : input.divergenceStatus = some .drifting
  accepted : thresholds.Accepted
  allowable : Allowable thresholds input

theorem diverged_denied (thresholds : PolicyThresholds) (input : DecisionInput) (given : Ruling)
    (made : ruling {} thresholds input = .ok given) (diverged : input.divergenceStatus = some .diverged) :
    given.action = .deny := by
  rw [(ruling_ok _ _ _ _ made).2.2]
  exact (action_deny_iff thresholds input).mpr (Or.inr (Or.inr diverged))

theorem raised_allowable (thresholds : PolicyThresholds) (higher : DivergenceStatus) (input : DecisionInput) :
    Allowable (thresholds.withCeiling higher) input ↔ Allowable thresholds input :=
  ⟨fun ⟨coherent, adjusted, aggregate, ungated⟩ => ⟨coherent, adjusted, aggregate, ungated⟩,
    fun ⟨coherent, adjusted, aggregate, ungated⟩ => ⟨coherent, adjusted, aggregate, ungated⟩⟩

theorem drift_ok_some (status : DivergenceStatus) (thresholds : PolicyThresholds) :
    driftOk (some status) thresholds ↔ status = .stable ∨ status = thresholds.maxDriftStatus := by
  simp [driftOk]

theorem drift_raised (thresholds : PolicyThresholds) (higher status : DivergenceStatus)
    (ordered : thresholds.maxDriftStatus ≤ higher) (drift : driftOk (some status) thresholds)
    (undiverged : status ≠ .diverged) :
    driftOk (some status) (thresholds.withCeiling higher) ∨ (higher = .diverged ∧ status = .drifting) := by
  rw [drift_ok_some] at drift ⊢
  cases status with
  | stable => exact Or.inl (Or.inl rfl)
  | diverged => exact absurd rfl undiverged
  | drifting =>
      rcases drift with stable | onCeiling
      · contradiction
      · rw [← onCeiling] at ordered
        cases higher with
        | stable => exact absurd ordered (by decide)
        | drifting => exact Or.inl (Or.inr rfl)
        | diverged => exact Or.inr ⟨rfl, rfl⟩

theorem drift_tolerated (thresholds : PolicyThresholds) (higher status : DivergenceStatus)
    (below : status ≤ higher) (undiverged : status ≠ .diverged) :
    driftOk (some status) (thresholds.withCeiling higher) ∨ (higher = .diverged ∧ status = .drifting) := by
  rw [drift_ok_some]
  cases status with
  | stable => exact Or.inl (Or.inl rfl)
  | diverged => exact absurd rfl undiverged
  | drifting =>
      cases higher with
      | stable => exact absurd below (by decide)
      | drifting => exact Or.inl (Or.inr rfl)
      | diverged => exact Or.inr ⟨rfl, rfl⟩

theorem missed_refuses (thresholds : PolicyThresholds) (higher : DivergenceStatus) (input : DecisionInput)
    (missed : DriftMissed thresholds higher input) : ¬ OrderedCeiling thresholds higher input := by
  intro ordered
  obtain ⟨raised, made⟩ := (ruling_accepts {} (thresholds.withCeiling higher) input).mpr missed.accepted
  have allowed := ordered.tolerates raised made ?_ missed.allowable
  · rw [(ruling_ok _ _ _ _ made).2.2, action_allow_iff, missed.status, drift_ok_some, missed.ceiling] at allowed
    rcases allowed.2.1 with stable | onCeiling
    · contradiction
    · contradiction
  · intro status isStatus
    rw [missed.status] at isStatus
    cases isStatus
    rw [missed.ceiling]
    decide

theorem allowed_unless_missed (thresholds : PolicyThresholds) (higher : DivergenceStatus) (input : DecisionInput)
    (hit : ¬ DriftMissed thresholds higher input) (accepted : thresholds.Accepted)
    (allowable : Allowable thresholds input) (spared : ¬ DeniedOutright input)
    (passes : ∀ status ∈ input.divergenceStatus,
      driftOk (some status) (thresholds.withCeiling higher) ∨ (higher = .diverged ∧ status = .drifting)) :
    PolicyModel.action {} (thresholds.withCeiling higher) input = .allow := by
  refine (action_allow_iff _ _).mpr ⟨(raised_allowable thresholds higher input).mpr allowable, ?_, spared⟩
  rcases isStatus : input.divergenceStatus with _ | status
  · rfl
  · rcases passes status isStatus with passed | ⟨ceiling, drifting⟩
    · exact passed
    · rw [drifting] at isStatus
      exact absurd ⟨ceiling, isStatus, accepted, allowable⟩ hit

theorem ordered_ceiling_iff (thresholds : PolicyThresholds) (higher : DivergenceStatus) (input : DecisionInput)
    (ordered : thresholds.maxDriftStatus ≤ higher) :
    OrderedCeiling thresholds higher input ↔ ¬ DriftMissed thresholds higher input := by
  constructor
  · intro holds missed
    exact missed_refuses thresholds higher input missed holds
  · intro hit
    constructor
    · intro given raised isGiven isRaised
      have accepted : thresholds.Accepted := (ruling_accepts {} thresholds input).mp ⟨given, isGiven⟩
      rw [(ruling_ok _ _ _ _ isGiven).2.2, (ruling_ok _ _ _ _ isRaised).2.2, action_le_iff]
      constructor
      · intro allowed
        obtain ⟨allowable, drift, spared⟩ := (action_allow_iff _ _).mp allowed
        apply allowed_unless_missed thresholds higher input hit accepted allowable spared
        intro status isStatus
        rw [isStatus] at drift
        apply drift_raised thresholds higher status ordered drift
        rintro rfl
        exact spared (Or.inr isStatus)
      · intro denied
        exact (action_deny_iff thresholds input).mpr ((action_deny_iff (thresholds.withCeiling higher) input).mp denied)
    · intro raised isRaised below allowable
      have accepted : thresholds.Accepted :=
        (ruling_accepts {} (thresholds.withCeiling higher) input).mp ⟨raised, isRaised⟩
      rw [(ruling_ok _ _ _ _ isRaised).2.2]
      apply allowed_unless_missed thresholds higher input hit accepted allowable
      · rintro (incoherent | diverged)
        · rw [allowable.coherent] at incoherent
          contradiction
        · exact (below .diverged diverged).2 rfl
      · intro status isStatus
        exact drift_tolerated thresholds higher status (below status isStatus).1 (below status isStatus).2

def driftingInput : DecisionInput where
  verdict := coherentAt (9 / 10) coherent_in_unit
  divergenceStatus := some .drifting

theorem stable_ceiling_ordered : OrderedCeiling { maxDriftStatus := .stable } .drifting driftingInput :=
  (ordered_ceiling_iff { maxDriftStatus := .stable } .drifting driftingInput (by decide)).mpr
    fun missed => by cases missed.ceiling

theorem drifting_refused_higher :
    (∃ given, ruling {} {} driftingInput = .ok given ∧ given.action = .allow) ∧
      ∃ raised, ruling {} (PolicyThresholds.withCeiling {} .diverged) driftingInput = .ok raised ∧
        raised.action = .reshape := by
  have light : PolicyThresholds.Accepted {} := by decide +kernel
  obtain ⟨given, isGiven⟩ := (ruling_accepts {} {} driftingInput).mpr light
  obtain ⟨raised, isRaised⟩ := (ruling_accepts {} (PolicyThresholds.withCeiling {} .diverged) driftingInput).mpr light
  refine ⟨⟨given, isGiven, ?_⟩, raised, isRaised, ?_⟩
  · rw [(ruling_ok _ _ _ _ isGiven).2.2]
    decide +kernel
  · rw [(ruling_ok _ _ _ _ isRaised).2.2]
    decide +kernel

end Vermyth
