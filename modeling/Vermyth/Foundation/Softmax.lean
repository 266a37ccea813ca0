import Mathlib.Algebra.BigOperators.Field
import Mathlib.Algebra.BigOperators.Ring.List
import Mathlib.Algebra.Order.BigOperators.Group.List
import Mathlib.Algebra.Order.Field.Basic
import Mathlib.Data.List.MinMax

set_option autoImplicit false

namespace Foundation

theorem argmax_head {α K : Type} [LinearOrder K] (value : α → K) (head : α) (rest : List α)
    (largest : ∀ item ∈ rest, value item ≤ value head) : (head :: rest).argmax value = some head := by
  induction rest using List.reverseRecOn with
  | nil => exact List.argmax_singleton
  | append_singleton front last ih =>
      rw [← List.cons_append, List.argmax_concat, ih fun item member => largest item (List.mem_append_left _ member)]
      exact if_neg (not_lt.mpr (largest last (List.mem_append_right _ (List.mem_singleton_self last))))

variable {K : Type} [Field K] [LinearOrder K] [IsStrictOrderedRing K]

def shares (weights : List K) : List K := weights.map fun weight => weight / weights.sum

theorem weights_sum_pos (weights : List K) (some : weights ≠ []) (positive : ∀ weight ∈ weights, 0 < weight) :
    0 < weights.sum := List.sum_pos weights positive some

theorem shares_nonneg (weights : List K) (positive : ∀ weight ∈ weights, 0 < weight) :
    ∀ share ∈ shares weights, 0 ≤ share := by
  intro share member
  obtain ⟨weight, isWeight, rfl⟩ := List.mem_map.mp member
  exact div_nonneg (positive weight isWeight).le (List.sum_nonneg fun own isOwn => (positive own isOwn).le)

theorem shares_sum (weights : List K) (some : weights ≠ []) (positive : ∀ weight ∈ weights, 0 < weight) :
    (shares weights).sum = 1 := by
  have total := weights_sum_pos weights some positive
  simp only [shares, div_eq_mul_inv]
  rw [List.sum_map_mul_right, List.map_id', mul_inv_cancel₀ total.ne']

theorem mean_range (values weights : List K) (range : ∀ value ∈ values, 0 ≤ value ∧ value ≤ 1)
    (nonneg : ∀ weight ∈ weights, 0 ≤ weight) :
    0 ≤ (List.zipWith (· * ·) values weights).sum ∧ (List.zipWith (· * ·) values weights).sum ≤ weights.sum := by
  induction values generalizing weights with
  | nil => exact ⟨by simp, by simpa using List.sum_nonneg nonneg⟩
  | cons value rest ih =>
      cases weights with
      | nil => simp
      | cons weight more =>
          obtain ⟨least, most⟩ := range value List.mem_cons_self
          have positive := nonneg weight List.mem_cons_self
          obtain ⟨restLeast, restMost⟩ := ih more (fun own member => range own (List.mem_cons_of_mem _ member))
            (fun own member => nonneg own (List.mem_cons_of_mem _ member))
          rw [List.zipWith_cons_cons, List.sum_cons, List.sum_cons]
          exact ⟨add_nonneg (mul_nonneg least positive) restLeast,
            add_le_add (mul_le_of_le_one_left positive most) restMost⟩

theorem mean_least {α : Type} (items : List α) (value weight : α → K) (low : K)
    (above : ∀ item ∈ items, low ≤ value item) (nonneg : ∀ item ∈ items, 0 ≤ weight item)
    (total : (items.map weight).sum = 1) : low ≤ (items.map fun item => value item * weight item).sum := by
  calc
    low = low * (items.map weight).sum := by rw [total, mul_one]
    _ = (items.map fun item => low * weight item).sum := (List.sum_map_mul_left _ _ _).symm
    _ ≤ _ := List.sum_le_sum fun item member => mul_le_mul_of_nonneg_right (above item member) (nonneg item member)

theorem mean_most {α : Type} (items : List α) (value weight : α → K) (high : K)
    (below : ∀ item ∈ items, value item ≤ high) (nonneg : ∀ item ∈ items, 0 ≤ weight item)
    (total : (items.map weight).sum = 1) : (items.map fun item => value item * weight item).sum ≤ high := by
  calc
    _ ≤ (items.map fun item => high * weight item).sum :=
      List.sum_le_sum fun item member => mul_le_mul_of_nonneg_right (below item member) (nonneg item member)
    _ = high * (items.map weight).sum := List.sum_map_mul_left _ _ _
    _ = high := by rw [total, mul_one]

end Foundation
