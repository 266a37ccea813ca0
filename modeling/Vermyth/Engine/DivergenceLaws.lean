import Vermyth.Engine.BasisVerdict
import Vermyth.Engine.Causal
import Vermyth.Engine.Reexpression

set_option autoImplicit false

namespace Vermyth

open Foundation

structure DivergenceThresholds.Valid (thresholds : DivergenceThresholds) : Prop where
  l2Stable : 0 ≤ thresholds.l2StableMax
  l2Diverged : 0 ≤ thresholds.l2DivergedMin
  cosineStable : 0 ≤ thresholds.cosineStableMax ∧ thresholds.cosineStableMax ≤ 2
  cosineDiverged : 0 ≤ thresholds.cosineDivergedMin ∧ thresholds.cosineDivergedMin ≤ 2
  l2Ordered : thresholds.l2StableMax < thresholds.l2DivergedMin
  cosineOrdered : thresholds.cosineStableMax < thresholds.cosineDivergedMin

structure DivergenceThresholds.Raised (thresholds higher : DivergenceThresholds) : Prop where
  l2StableMax : thresholds.l2StableMax ≤ higher.l2StableMax
  l2DivergedMin : thresholds.l2DivergedMin ≤ higher.l2DivergedMin
  cosineStableMax : thresholds.cosineStableMax ≤ higher.cosineStableMax
  cosineDivergedMin : thresholds.cosineDivergedMin ≤ higher.cosineDivergedMin

def DivergenceReport.measures (report : DivergenceReport) : ℚ × ℚ := (report.l2Magnitude, report.cosineDistance)

def divergenceMeasures (math : VectorMath) (parent child : SemanticVector) : ℚ × ℚ :=
  (l2Norm math (divergenceComponents child.components parent.components),
    clampDistance (1 - cosine math parent.components child.components))

def worstStatus (thresholds : DivergenceThresholds) (measures : ℚ × ℚ) : DivergenceStatus :=
  max (divergenceStatus measures.1 thresholds.l2StableMax thresholds.l2DivergedMin)
    (divergenceStatus measures.2 thresholds.cosineStableMax thresholds.cosineDivergedMin)

theorem divergence_same (child again parent more : List ℚ) (left : SameCoeffs child again)
    (right : SameCoeffs parent more) :
    SameCoeffs (divergenceComponents child parent) (divergenceComponents again more) := by
  intro i
  rw [divergence_coeff, divergence_coeff, left i, right i]

theorem divergence_norm_comm (math : VectorMath) (child parent : List ℚ) :
    l2Norm math (divergenceComponents child parent) = l2Norm math (divergenceComponents parent child) := by
  have opposite : SameCoeffs (divergenceComponents child parent)
      (scaledBy (-1) (divergenceComponents parent child)) := by
    intro i
    rw [coeff_scaled, divergence_coeff, divergence_coeff, neg_one_mul, neg_sub]
  rw [norm_by, norm_by, normBy, normBy, squares_same _ _ opposite, squares_scaled, neg_one_mul, neg_neg, one_mul]

theorem measures_comm (math : VectorMath) (parent child : SemanticVector) :
    divergenceMeasures math child parent = divergenceMeasures math parent child := by
  rw [divergenceMeasures, divergenceMeasures, divergence_norm_comm, cosine_comm]

theorem measures_same (math : VectorMath) (parent child left right : SemanticVector)
    (ofParent : SameCoeffs left.components parent.components) (ofChild : SameCoeffs right.components child.components) :
    divergenceMeasures math left right = divergenceMeasures math parent child := by
  rw [divergenceMeasures, divergenceMeasures, same_norm math _ _ (divergence_same _ _ _ _ ofChild ofParent),
    same_cosine math _ _ _ _ ofParent ofChild]

theorem common_basis_same (parent child : SemanticVector) :
    SameCoeffs (commonBasis parent child).1.components parent.components ∧
      SameCoeffs (commonBasis parent child).2.1.components child.components := by
  rw [commonBasis]
  by_cases same : parent.normalizedBasisVersion = child.normalizedBasisVersion
  · rw [if_pos same]
    exact ⟨fun i => rfl, fun i => rfl⟩
  · rw [if_neg same]
    exact ⟨upsample_same parent _ _, upsample_same child _ _⟩

theorem classify_measures (math : VectorMath) (castId parentCastId : String) (parent child : SemanticVector)
    (thresholds : DivergenceThresholds) (computedAt : Datetime) :
    ∃ report, classify math castId parentCastId parent child thresholds computedAt = .ok report ∧
      report.measures = divergenceMeasures math parent child ∧
        report.status = worstStatus thresholds (divergenceMeasures math parent child) := by
  have shared := common_basis_cosine math parent child
  obtain ⟨left, right⟩ := common_basis_same parent child
  have norm := same_norm math _ _ (divergence_same _ _ _ _ right left)
  simp only [classify, shared, bind, Except.bind]
  refine ⟨_, rfl, ?_, ?_⟩
  · exact Prod.ext norm rfl
  · rw [worstStatus, divergenceMeasures, ← norm]

theorem divergence_stable_iff (value stableMax divergedMin : ℚ) :
    divergenceStatus value stableMax divergedMin = .stable ↔ value < stableMax := by
  rw [divergenceStatus]
  split_ifs with below <;> simp [below]

theorem divergence_diverged_iff (value stableMax divergedMin : ℚ) (ordered : stableMax < divergedMin) :
    divergenceStatus value stableMax divergedMin = .diverged ↔ divergedMin ≤ value := by
  rw [divergenceStatus]
  by_cases below : value < stableMax
  · rw [if_pos below]
    exact iff_of_false (by decide) (not_le.mpr (below.trans ordered))
  · rw [if_neg below]
    split_ifs with reached <;> simp [reached]

theorem divergence_status_antitone (value stableMax divergedMin stableHigher divergedHigher : ℚ)
    (stable : stableMax ≤ stableHigher) (diverged : divergedMin ≤ divergedHigher) :
    divergenceStatus value stableHigher divergedHigher ≤ divergenceStatus value stableMax divergedMin := by
  rw [divergenceStatus, divergenceStatus]
  by_cases below : value < stableMax
  · rw [if_pos below, if_pos (below.trans_le stable)]
  · rw [if_neg below]
    by_cases reached : divergedHigher ≤ value
    · rw [if_pos (diverged.trans reached)]
      split_ifs <;> decide
    · rw [if_neg reached]
      split_ifs <;> decide

theorem worst_stable_iff (first second : DivergenceStatus) :
    max first second = .stable ↔ first = .stable ∧ second = .stable := by
  cases first <;> cases second <;> decide

theorem worst_diverged_iff (first second : DivergenceStatus) :
    max first second = .diverged ↔ first = .diverged ∨ second = .diverged := by
  cases first <;> cases second <;> decide

structure DivergenceLaws (math : VectorMath) (parent child : SemanticVector) (thresholds : DivergenceThresholds)
    (report : DivergenceReport) : Prop where
  swapped : ∀ castId parentCastId computedAt, ∃ other,
    classify math castId parentCastId child parent thresholds computedAt = .ok other ∧
      other.measures = report.measures ∧ other.status = report.status
  reexpressed : ∀ left right, Reexpressed parent left → Reexpressed child right →
    ∀ castId parentCastId computedAt, ∃ other,
      classify math castId parentCastId left right thresholds computedAt = .ok other ∧
        other.measures = report.measures ∧ other.status = report.status
  stable : report.status = .stable ↔
    report.l2Magnitude < thresholds.l2StableMax ∧ report.cosineDistance < thresholds.cosineStableMax
  diverged : report.status = .diverged ↔
    thresholds.l2DivergedMin ≤ report.l2Magnitude ∨ thresholds.cosineDivergedMin ≤ report.cosineDistance
  raised : ∀ higher, thresholds.Raised higher → ∀ castId parentCastId computedAt, ∃ other,
    classify math castId parentCastId parent child higher computedAt = .ok other ∧ other.status ≤ report.status

theorem classify_laws (math : VectorMath) (castId parentCastId : String) (parent child : SemanticVector)
    (thresholds : DivergenceThresholds) (valid : thresholds.Valid) (computedAt : Datetime) :
    ∃ report, classify math castId parentCastId parent child thresholds computedAt = .ok report ∧
      DivergenceLaws math parent child thresholds report := by
  obtain ⟨report, classified, measures, status⟩ :=
    classify_measures math castId parentCastId parent child thresholds computedAt
  have own : report.status = worstStatus thresholds report.measures := by rw [status, measures]
  refine ⟨report, classified, ?_, ?_, ?_, ?_, ?_⟩
  · intro castId parentCastId computedAt
    obtain ⟨other, found, again, statusAgain⟩ :=
      classify_measures math castId parentCastId child parent thresholds computedAt
    rw [measures_comm, ← measures] at again statusAgain
    exact ⟨other, found, again, statusAgain.trans own.symm⟩
  · intro left right ofParent ofChild castId parentCastId computedAt
    obtain ⟨other, found, again, statusAgain⟩ :=
      classify_measures math castId parentCastId left right thresholds computedAt
    rw [measures_same math parent child left right (reexpressed_same parent left ofParent)
      (reexpressed_same child right ofChild), ← measures] at again statusAgain
    exact ⟨other, found, again, statusAgain.trans own.symm⟩
  · rw [own, worstStatus, worst_stable_iff, divergence_stable_iff, divergence_stable_iff]
    rfl
  · rw [own, worstStatus, worst_diverged_iff, divergence_diverged_iff _ _ _ valid.l2Ordered,
      divergence_diverged_iff _ _ _ valid.cosineOrdered]
    rfl
  · intro higher raised castId parentCastId computedAt
    obtain ⟨other, found, -, statusAgain⟩ := classify_measures math castId parentCastId parent child higher computedAt
    refine ⟨other, found, ?_⟩
    rw [statusAgain, status]
    exact max_le_max
      (divergence_status_antitone _ _ _ _ _ raised.l2StableMax raised.l2DivergedMin)
      (divergence_status_antitone _ _ _ _ _ raised.cosineStableMax raised.cosineDivergedMin)

theorem default_thresholds_valid : ({} : DivergenceThresholds).Valid := by
  constructor <;> decide +kernel

theorem classify_laws_leaning : firstAxis.normalizedBasisVersion ≠ leaning.normalizedBasisVersion ∧
    ∃ report, classify squareRoots "B" "A" firstAxis leaning {} (.newYear 2026 (Eq.refl true)) = .ok report ∧
      DivergenceLaws squareRoots firstAxis leaning {} report :=
  ⟨by decide, classify_laws squareRoots "B" "A" firstAxis leaning {} default_thresholds_valid _⟩

end Vermyth
