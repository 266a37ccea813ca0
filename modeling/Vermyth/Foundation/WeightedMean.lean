import Mathlib.Algebra.BigOperators.Field
import Mathlib.Data.Fintype.BigOperators
import Mathlib.Algebra.Order.BigOperators.Group.Finset
import Mathlib.Algebra.Order.Field.Basic

set_option autoImplicit false

namespace Foundation

variable {ι K : Type} [Fintype ι] [Field K]

def weightedMean (weights values : ι → K) : K := (∑ i, weights i * values i) / ∑ i, weights i

theorem weighted_mean_diff (weights values others : ι → K) (i : ι) (agree : ∀ j, j ≠ i → values j = others j) :
    weightedMean weights values - weightedMean weights others =
      weights i * (values i - others i) / ∑ j, weights j := by
  have terms : ∀ j, j ≠ i → weights j * values j - weights j * others j = 0 := by
    intro j other
    rw [agree j other, sub_self]
  rw [weightedMean, weightedMean, ← sub_div, ← Finset.sum_sub_distrib,
    Fintype.sum_eq_single i fun j other => terms j other, mul_sub]

theorem weighted_mean_ignores (weights values others : ι → K) (i : ι) (agree : ∀ j, j ≠ i → values j = others j)
    (weightless : weights i = 0) : weightedMean weights values = weightedMean weights others := by
  have difference := weighted_mean_diff weights values others i agree
  rw [weightless, zero_mul, zero_div] at difference
  exact sub_eq_zero.mp difference

theorem weighted_mean_moves (weights values others : ι → K) (i : ι) (agree : ∀ j, j ≠ i → values j = others j)
    (weighty : weights i ≠ 0) (total : ∑ j, weights j ≠ 0) (moved : values i ≠ others i) :
    weightedMean weights values ≠ weightedMean weights others := by
  intro same
  have difference := weighted_mean_diff weights values others i agree
  rw [same, sub_self] at difference
  have nonzero : weights i * (values i - others i) / ∑ j, weights j ≠ 0 :=
    div_ne_zero (mul_ne_zero weighty (sub_ne_zero.mpr moved)) total
  exact nonzero difference.symm

section Ordered

variable [LinearOrder K] [IsStrictOrderedRing K]

theorem total_weight_pos (weights : ι → K) (nonneg : ∀ i, 0 ≤ weights i) (i : ι) (positive : 0 < weights i) :
    0 < ∑ j, weights j :=
  lt_of_lt_of_le positive (Finset.single_le_sum (fun j _ => nonneg j) (Finset.mem_univ i))

theorem weightless_of_total (weights : ι → K) (nonneg : ∀ i, 0 ≤ weights i) (none : ∑ j, weights j = 0) (i : ι) :
    weights i = 0 :=
  (Finset.sum_eq_zero_iff_of_nonneg fun j _ => nonneg j).mp none i (Finset.mem_univ i)

theorem weighted_mean_mono (weights values others : ι → K) (nonneg : ∀ i, 0 ≤ weights i)
    (below : ∀ i, values i ≤ others i) : weightedMean weights values ≤ weightedMean weights others := by
  have terms : ∑ i, weights i * values i ≤ ∑ i, weights i * others i :=
    Finset.sum_le_sum fun i _ => mul_le_mul_of_nonneg_left (below i) (nonneg i)
  exact div_le_div_of_nonneg_right terms (Finset.sum_nonneg fun i _ => nonneg i)

end Ordered

end Foundation
