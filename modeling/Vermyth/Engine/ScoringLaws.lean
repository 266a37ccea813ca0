import Vermyth.Engine.BasisVerdict
import Vermyth.Engine.Interpolation
import Vermyth.Engine.Reexpression

set_option autoImplicit false

namespace Vermyth

open Foundation

def VerdictType.level : VerdictType → Nat
  | .incoherent => 0
  | .partially => 1
  | .coherent => 2

def SigilFace.scaledBy (scale : ℚ) (sigil : SigilFace) : SigilFace :=
  { sigil with semanticVector := sigil.semanticVector.scaledBy scale }

def IntentVector.scaledBy (scale : ℚ) (intentVector : IntentVector) : IntentVector :=
  { intentVector with vector := intentVector.vector.scaledBy scale }

theorem penalty_monotone (severity severer : ContradictionSeverity)
    (order : severityRank severity ≤ severityRank severer) :
    contradictionPenalty severity ≤ contradictionPenalty severer := by
  cases severity <;> cases severer <;> first
    | exact absurd order (by decide)
    | decide +kernel

theorem penalty_nonneg (severity : ContradictionSeverity) : 0 ≤ contradictionPenalty severity := by
  cases severity <;> decide +kernel

theorem penalized_monotone (severity severer : ContradictionSeverity)
    (order : severityRank severity ≤ severityRank severer) (cosine higher : ℚ) (less : cosine ≤ higher) :
    penalized severer cosine ≤ penalized severity higher := by
  have penalty := penalty_monotone severity severer order
  exact max_le_max le_rfl (by linarith)

theorem penalized_raw (severity : ContradictionSeverity) (cosine : ℚ) (least : -1 ≤ cosine) :
    penalized severity cosine ≤ (cosine + 1) / 2 := by
  have penalty := penalty_nonneg severity
  exact max_le (by linarith) (by linarith)

theorem applied_adjusted (ceiling penalized : ℚ) (applied : ceilingApplied ceiling penalized = true) :
    adjustedBy ceiling penalized = ceiling := by
  have less := of_decide_eq_true applied
  have below : adjustedBy ceiling penalized < penalized := less.trans_le (sub_le_self _ (by positivity))
  rw [adjustedBy] at below ⊢
  exact min_eq_right ((min_lt_iff.mp below).resolve_left (lt_irrefl _)).le

theorem score_made (raw adjusted : ℚ) (applied : Bool) (proof : String) (resonance : ScoredResonance)
    (made : ScoredResonance.make raw adjusted applied proof = .ok resonance) :
    resonance.raw = raw ∧ resonance.adjusted = adjusted ∧ resonance.ceilingApplied = applied := by
  rw [ScoredResonance.make] at made
  split_ifs at made
  rw [← Except.ok.inj made]
  exact ⟨rfl, rfl, rfl⟩

theorem resonance_cosine (math : VectorMath) (sigil : SigilFace) (intentVector : IntentVector) :
    computeResonance math sigil intentVector =
      let cos := cosine math sigil.semanticVector.components intentVector.vector.components
      let pen := penalized sigil.contradictionSeverity cos
      ScoredResonance.make ((cos + 1) / 2) (adjustedBy sigil.resonanceCeiling pen)
        (ceilingApplied sigil.resonanceCeiling pen)
        (proofText sigil cos (basisNote sigil.semanticVector intentVector.vector)) := by
  have shared := common_basis_cosine math sigil.semanticVector intentVector.vector
  simp only [computeResonance, shared, bind, Except.bind]
  rfl

theorem resonance_fields (math : VectorMath) (sigil : SigilFace) (intentVector : IntentVector)
    (resonance : ScoredResonance) (returns : computeResonance math sigil intentVector = .ok resonance) :
    let cos := cosine math sigil.semanticVector.components intentVector.vector.components
    let pen := penalized sigil.contradictionSeverity cos
    resonance.raw = (cos + 1) / 2 ∧ resonance.adjusted = adjustedBy sigil.resonanceCeiling pen ∧
      resonance.ceilingApplied = ceilingApplied sigil.resonanceCeiling pen := by
  rw [resonance_cosine] at returns
  exact score_made _ _ _ _ _ returns

theorem adjusted_range (math : VectorMath) (sigil : SigilFace) (intentVector : IntentVector)
    (resonance : ScoredResonance) (returns : computeResonance math sigil intentVector = .ok resonance) :
    0 ≤ resonance.adjusted ∧ resonance.adjusted ≤ min resonance.raw sigil.resonanceCeiling ∧
      min resonance.raw sigil.resonanceCeiling ≤ 1 := by
  obtain ⟨raw, adjusted, -⟩ := resonance_fields math sigil intentVector resonance returns
  have least := (cosine_range math sigil.semanticVector.components intentVector.vector.components).1
  refine ⟨resonance.adjustedInRange.1, ?_, (min_le_left _ _).trans resonance.rawInRange.2⟩
  rw [raw, adjusted]
  exact min_le_min (penalized_raw _ _ least) le_rfl

theorem adjusted_monotone (math : VectorMath) (sigil again : SigilFace) (intentVector more : IntentVector)
    (resonance other : ScoredResonance) (returns : computeResonance math sigil intentVector = .ok resonance)
    (returnsAgain : computeResonance math again more = .ok other)
    (severity : severityRank sigil.contradictionSeverity ≤ severityRank again.contradictionSeverity)
    (ceiling : again.resonanceCeiling ≤ sigil.resonanceCeiling)
    (cosines : paddedCosine math again.semanticVector more.vector ≤
      paddedCosine math sigil.semanticVector intentVector.vector) :
    other.adjusted ≤ resonance.adjusted := by
  obtain ⟨-, adjusted, -⟩ := resonance_fields math sigil intentVector resonance returns
  obtain ⟨-, adjustedAgain, -⟩ := resonance_fields math again more other returnsAgain
  rw [adjusted, adjustedAgain, padded_cosine, padded_cosine]
  exact min_le_min (penalized_monotone _ _ severity _ _ (clip_monotone cosines)) ceiling

theorem basis_note_same (sigil again intent more : SemanticVector)
    (left : again.normalizedBasisVersion = sigil.normalizedBasisVersion)
    (right : more.normalizedBasisVersion = intent.normalizedBasisVersion) :
    basisNote again more = basisNote sigil intent := by
  rw [basisNote, basisNote, commonBasis, commonBasis, left, right]
  by_cases same : sigil.normalizedBasisVersion = intent.normalizedBasisVersion
  · rw [if_pos same, if_pos same]
  · rw [if_neg same, if_neg same]

theorem resonance_scaled (math : VectorMath) (homogeneous : Homogeneous math.sqrt) (scale : ℚ) (positive : 0 < scale)
    (sigil : SigilFace) (intentVector : IntentVector) :
    computeResonance math (sigil.scaledBy scale) intentVector = computeResonance math sigil intentVector := by
  have cos : cosine math (sigil.scaledBy scale).semanticVector.components intentVector.vector.components =
      cosine math sigil.semanticVector.components intentVector.vector.components :=
    cosine_scaled math homogeneous scale positive _ _
  have note := basis_note_same sigil.semanticVector (sigil.scaledBy scale).semanticVector intentVector.vector
    intentVector.vector rfl rfl
  rw [resonance_cosine, resonance_cosine, cos, note]
  rfl

theorem resonance_scaled_intent (math : VectorMath) (homogeneous : Homogeneous math.sqrt) (scale : ℚ)
    (positive : 0 < scale) (sigil : SigilFace) (intentVector : IntentVector) :
    computeResonance math sigil (intentVector.scaledBy scale) = computeResonance math sigil intentVector := by
  have cos : cosine math sigil.semanticVector.components (intentVector.scaledBy scale).vector.components =
      cosine math sigil.semanticVector.components intentVector.vector.components :=
    cosine_scaled_right math homogeneous scale positive _ _
  have note := basis_note_same sigil.semanticVector sigil.semanticVector intentVector.vector
    (intentVector.scaledBy scale).vector rfl rfl
  rw [resonance_cosine, resonance_cosine, cos, note]

theorem verdict_type_monotone (adjusted higher : ℚ) (less : adjusted ≤ higher) :
    (verdictTypeOf adjusted).level ≤ (verdictTypeOf higher).level := by
  rw [verdictTypeOf, verdictTypeOf]
  by_cases coherent : 75 / 100 ≤ higher
  · rw [if_pos coherent]
    split_ifs <;> decide
  · have lower : ¬ 75 / 100 ≤ adjusted := fun high => coherent (high.trans less)
    rw [if_neg coherent, if_neg lower]
    by_cases partly : 45 / 100 ≤ adjusted
    · rw [if_pos partly, if_pos (partly.trans less)]
    · rw [if_neg partly]
      exact Nat.zero_le _

theorem coherent_adjusted (adjusted : ℚ) (coherent : verdictTypeOf adjusted = .coherent) : 75 / 100 ≤ adjusted := by
  rw [verdictTypeOf] at coherent
  split_ifs at coherent with high
  exact high

section Evaluated

variable (math : VectorMath) (backend : Option ProjectionBackend) (registry : AspectRegistry) (sigil : SigilFace)
  (intent : Intent)

theorem evaluate_band :
    (evaluate math backend registry sigil intent).verdictType =
      verdictTypeOf (evaluate math backend registry sigil intent).resonance.adjusted := by
  have fallback : VerdictType.incoherent = verdictTypeOf 0 := by decide +kernel
  rw [evaluate]
  cases evaluated : evaluateWithIntentVector math sigil (buildIntentVector math backend registry intent) with
  | error raised => exact fallback
  | ok verdict =>
      rw [evaluateWithIntentVector, bind_ok] at evaluated
      obtain ⟨resonance, -, evaluated⟩ := evaluated
      dsimp only at evaluated
      split_ifs at evaluated
      rw [← Except.ok.inj evaluated]

theorem evaluate_scored (coherent : (evaluate math backend registry sigil intent).verdictType = .coherent) :
    ∃ resonance, computeResonance math sigil (buildIntentVector math backend registry intent) = .ok resonance ∧
      75 / 100 ≤ resonance.adjusted := by
  rw [evaluate] at coherent
  cases evaluated : evaluateWithIntentVector math sigil (buildIntentVector math backend registry intent) with
  | error raised =>
      rw [evaluated] at coherent
      contradiction
  | ok verdict =>
      rw [evaluated] at coherent
      rw [evaluateWithIntentVector, bind_ok] at evaluated
      obtain ⟨resonance, returns, evaluated⟩ := evaluated
      dsimp only at evaluated
      split_ifs at evaluated
      refine ⟨resonance, returns, coherent_adjusted _ ?_⟩
      rwa [← Except.ok.inj evaluated] at coherent

theorem evaluate_never_coherent (limited : sigil.contradictionSeverity = .hard ∨ sigil.resonanceCeiling < 75 / 100) :
    (evaluate math backend registry sigil intent).verdictType ≠ .coherent := by
  intro coherent
  obtain ⟨resonance, returns, high⟩ := evaluate_scored math backend registry sigil intent coherent
  obtain ⟨raw, adjusted, -⟩ := resonance_fields math sigil _ resonance returns
  rcases limited with hard | low
  · have top := resonance.rawInRange.2
    have below : resonance.adjusted ≤ max 0 (resonance.raw - 40 / 100) := by
      rw [adjusted, raw, adjustedBy, penalized, hard]
      exact min_le_left _ _
    have most : max 0 (resonance.raw - 40 / 100) ≤ (60 / 100 : ℚ) :=
      max_le (by norm_num) (by linarith)
    linarith
  · have below : resonance.adjusted ≤ sigil.resonanceCeiling := by
      rw [adjusted]
      exact min_le_right _ _
    linarith

end Evaluated

structure ScoringLaws (math : VectorMath) : Prop where
  range : ∀ sigil intentVector resonance, computeResonance math sigil intentVector = .ok resonance →
    0 ≤ resonance.adjusted ∧ resonance.adjusted ≤ min resonance.raw sigil.resonanceCeiling ∧
      min resonance.raw sigil.resonanceCeiling ≤ 1
  applied : ∀ sigil intentVector resonance, computeResonance math sigil intentVector = .ok resonance →
    resonance.ceilingApplied = true → resonance.adjusted = sigil.resonanceCeiling
  ordered : ∀ sigil intentVector resonance, computeResonance math sigil intentVector = .ok resonance →
    ∀ again more other, computeResonance math again more = .ok other →
      severityRank sigil.contradictionSeverity ≤ severityRank again.contradictionSeverity →
        again.resonanceCeiling ≤ sigil.resonanceCeiling →
          paddedCosine math again.semanticVector more.vector ≤
            paddedCosine math sigil.semanticVector intentVector.vector → other.adjusted ≤ resonance.adjusted
  scaled : Homogeneous math.sqrt → ∀ scale, 0 < scale → ∀ sigil intentVector,
    computeResonance math (sigil.scaledBy scale) intentVector = computeResonance math sigil intentVector ∧
      computeResonance math sigil (intentVector.scaledBy scale) = computeResonance math sigil intentVector
  limited : ∀ backend registry sigil intent,
    sigil.contradictionSeverity = .hard ∨ sigil.resonanceCeiling < 75 / 100 →
      (evaluate math backend registry sigil intent).verdictType ≠ .coherent
  banded : ∀ backend registry sigil intent otherBackend otherRegistry again more,
    (evaluate math backend registry sigil intent).resonance.adjusted ≤
        (evaluate math otherBackend otherRegistry again more).resonance.adjusted →
      (evaluate math backend registry sigil intent).verdictType.level ≤
        (evaluate math otherBackend otherRegistry again more).verdictType.level

theorem scoring_laws (math : VectorMath) : ScoringLaws math where
  range := adjusted_range math
  applied := by
    intro sigil intentVector resonance returns applied
    obtain ⟨-, adjusted, own⟩ := resonance_fields math sigil intentVector resonance returns
    rw [adjusted]
    exact applied_adjusted _ _ (own.symm.trans applied)
  ordered := by
    intro sigil intentVector resonance returns again more other returnsAgain
    exact adjusted_monotone math sigil again intentVector more resonance other returns returnsAgain
  scaled := by
    intro homogeneous scale positive sigil intentVector
    exact ⟨resonance_scaled math homogeneous scale positive sigil intentVector,
      resonance_scaled_intent math homogeneous scale positive sigil intentVector⟩
  limited := evaluate_never_coherent math
  banded := by
    intro backend registry sigil intent otherBackend otherRegistry again more less
    rw [evaluate_band, evaluate_band]
    exact verdict_type_monotone _ _ less

def plainFace : SigilFace where
  name := "Hollow"
  contradictionSeverity := .none
  resonanceCeiling := 9 / 10
  semanticVector := firstAxis

def hardFace : SigilFace := { plainFace with contradictionSeverity := .hard }

def leaningIntent : IntentVector where
  vector := leaning
  projectionMethod := .partially
  constraintComponent := leaning
  semanticComponent := none
  confidence := 6 / 10

theorem scoring_laws_hollow : ∃ resonance other,
    computeResonance exactMath plainFace leaningIntent = .ok resonance ∧
      computeResonance exactMath hardFace leaningIntent = .ok other ∧ other.adjusted ≤ resonance.adjusted ∧
        computeResonance exactMath (plainFace.scaledBy 2) leaningIntent = .ok resonance := by
  obtain ⟨resonance, returns⟩ := is_ok (computeResonance exactMath plainFace leaningIntent) (by decide +kernel)
  obtain ⟨other, returnsHard⟩ := is_ok (computeResonance exactMath hardFace leaningIntent) (by decide +kernel)
  have laws := scoring_laws exactMath
  refine ⟨resonance, other, returns, returnsHard, ?_, ?_⟩
  · exact laws.ordered plainFace leaningIntent resonance returns hardFace leaningIntent other returnsHard (Nat.zero_le _)
      le_rfl le_rfl
  · exact (laws.scaled exact_root_homogeneous 2 two_pos plainFace leaningIntent).1.trans returns

end Vermyth
