import Mathlib.Data.Rat.Sqrt
import Vermyth.Engine.Vectors
import Vermyth.Foundation.Cosine

set_option autoImplicit false

namespace Vermyth

open Foundation

def SemanticVector.scaledBy (scale : ℚ) (vector : SemanticVector) : SemanticVector where
  components := Foundation.scaledBy scale vector.components
  basisVersion := vector.basisVersion
  atLeastSix := by
    rw [scaled_by_length]
    exact vector.atLeastSix

theorem norm_by (math : VectorMath) (components : List ℚ) : l2Norm math components = normBy math.sqrt components := rfl

theorem cosine_clip (math : VectorMath) (a b : List ℚ) : cosine math a b = clipComponent (cosineBy math.sqrt a b) := by
  have zero : clipComponent 0 = 0 := by decide +kernel
  rw [cosine, cosineBy, ← norm_by, ← norm_by]
  by_cases none : l2Norm math a * l2Norm math b = 0
  · rw [if_pos (mul_eq_zero.mp none), none, div_zero, zero]
  · rw [if_neg fun either => none (mul_eq_zero.mpr either), if_neg none]

section Scale

variable (math : VectorMath) (homogeneous : Homogeneous math.sqrt) (scale : ℚ) (positive : 0 < scale)

include homogeneous positive

theorem cosine_scaled (a b : List ℚ) : cosine math (scaledBy scale a) b = cosine math a b := by
  rw [cosine_clip, cosine_clip, cosine_by_scaled homogeneous scale positive]

theorem cosine_scaled_right (a b : List ℚ) : cosine math a (scaledBy scale b) = cosine math a b := by
  rw [cosine_clip, cosine_clip, cosine_by_comm, cosine_by_scaled homogeneous scale positive, cosine_by_comm]

theorem unit_scaled (components : List ℚ) :
    unitComponents math (scaledBy scale components) = unitComponents math components := by
  have norm : l2Norm math (scaledBy scale components) = scale * l2Norm math components :=
    norm_scaled homogeneous scale positive.le components
  rw [unitComponents, unitComponents, norm]
  by_cases none : l2Norm math components = 0
  · rw [if_pos none, if_pos (by rw [none, mul_zero]), scaledBy, List.map_map]
    rfl
  · rw [if_neg none, if_neg (mul_ne_zero positive.ne' none), scaledBy, List.map_map]
    exact List.map_congr_left fun c _ => mul_div_mul_left c _ positive.ne'

end Scale

theorem unit_cosine (math : VectorMath) (homogeneous : Homogeneous math.sqrt) (a b : List ℚ) :
    cosine math a (unitComponents math b) = cosine math a b := by
  by_cases none : l2Norm math b = 0
  · have zeros : unitComponents math b = scaledBy 0 b := by
      rw [unitComponents, if_pos none, scaledBy]
      exact List.map_congr_left fun c _ => (zero_mul c).symm
    have norm : l2Norm math (scaledBy 0 b) = 0 := by
      rw [norm_by, norm_scaled homogeneous 0 le_rfl, zero_mul]
    rw [zeros, cosine, if_pos (Or.inr norm), cosine, if_pos (Or.inr none)]
  · have positive : 0 < l2Norm math b := lt_of_le_of_ne (math.sqrtNonneg _) (Ne.symm none)
    have scaled : unitComponents math b = scaledBy (l2Norm math b)⁻¹ b := by
      rw [unitComponents, if_neg none, scaledBy]
      exact List.map_congr_left fun c _ => div_eq_inv_mul c _
    rw [scaled, cosine_scaled_right math homogeneous _ (inv_pos.mpr positive)]

-- The root of the squares of rationals, and no root of other numbers.
def exactRoot (x : ℚ) : ℚ := if Rat.sqrt x * Rat.sqrt x = x then Rat.sqrt x else 0

theorem exact_root_square (x : ℚ) (nonneg : 0 ≤ x) : exactRoot (x * x) = x := by
  rw [exactRoot, Rat.sqrt_eq, abs_of_nonneg nonneg, if_pos rfl]

theorem exact_root_other (x : ℚ) (other : ¬ ∃ root, root * root = x) : exactRoot x = 0 :=
  if_neg fun square => other ⟨_, square⟩

theorem exact_root_homogeneous : Homogeneous exactRoot := by
  intro scale x nonneg
  by_cases square : ∃ root, root * root = x
  · obtain ⟨root, rfl⟩ := square
    have regroup : scale * scale * (root * root) = scale * |root| * (scale * |root|) := by
      rw [← abs_mul_abs_self root]
      ring
    rw [regroup, exact_root_square _ (mul_nonneg nonneg (abs_nonneg root)), ← abs_mul_abs_self root,
      exact_root_square _ (abs_nonneg root)]
  · rw [exact_root_other x square, mul_zero]
    by_cases none : scale = 0
    · have zero := exact_root_square 0 le_rfl
      rw [mul_zero] at zero
      rw [none, zero_mul, zero_mul, zero]
    · refine exact_root_other _ fun again => square ?_
      obtain ⟨root, own⟩ := again
      refine ⟨root / scale, ?_⟩
      rw [div_mul_div_comm, own, mul_div_cancel_left₀ _ (mul_ne_zero none none)]

def risingExp (x : ℚ) : ℚ := if 0 ≤ x then 1 + x else 1 / (1 - x)

theorem rising_exp_monotone : Monotone risingExp := by
  intro a b less
  rw [risingExp, risingExp]
  by_cases left : 0 ≤ a
  · rw [if_pos left, if_pos (left.trans less)]
    exact add_le_add_right less 1
  · have negative := not_le.mp left
    have least : 1 < 1 - a := by linarith
    rw [if_neg left]
    by_cases right : 0 ≤ b
    · rw [if_pos right]
      have below : 1 / (1 - a) ≤ 1 := (div_le_one (by linarith)).mpr least.le
      linarith
    · rw [if_neg right]
      have positive : 0 < 1 - b := by linarith
      exact one_div_le_one_div_of_le positive (by linarith)

def exactMath : VectorMath where
  sqrt := exactRoot
  exp := risingExp
  sqrtNonneg := by
    intro x
    rw [exactRoot]
    split_ifs
    · exact Rat.sqrt_nonneg x
    · exact le_rfl
  expPos := by
    intro x
    rw [risingExp]
    split_ifs with nonneg
    · linarith
    · exact one_div_pos.mpr (by linarith)

end Vermyth
