import Mathlib.Algebra.Order.BigOperators.Group.List
import Mathlib.Algebra.Order.Field.Basic
import Mathlib.Data.Nat.Cast.Order.Ring

set_option autoImplicit false

namespace Foundation

section Field

variable {K : Type} [Field K]

def meanOf (items : List K) : K := items.sum / items.length

@[simp] theorem mean_nil : meanOf ([] : List K) = 0 := by
  rw [meanOf, List.sum_nil, zero_div]

@[simp] theorem mean_singleton (item : K) : meanOf [item] = item := by
  rw [meanOf, List.sum_singleton, List.length_singleton, Nat.cast_one, div_one]

theorem mean_indicator {α : Type} (items : List α) (holds : α → Bool) :
    meanOf (items.map fun item => if holds item then (1 : K) else 0) = items.countP holds / items.length := by
  have total : (items.map fun item => if holds item then (1 : K) else 0).sum = items.countP holds := by
    induction items with
    | nil => rw [List.map_nil, List.sum_nil, List.countP_nil, Nat.cast_zero]
    | cons item rest ih =>
        rw [List.map_cons, List.sum_cons, ih]
        by_cases own : holds item
        · rw [if_pos own, List.countP_cons_of_pos own, Nat.cast_succ, add_comm]
        · rw [if_neg own, List.countP_cons_of_neg own, zero_add]
  rw [meanOf, total, List.length_map]

variable [CharZero K]

theorem mean_total (items : List K) : meanOf items * items.length = items.sum := by
  cases items with
  | nil => rw [mean_nil, zero_mul, List.sum_nil]
  | cons first rest =>
      have some : ((first :: rest).length : K) ≠ 0 := Nat.cast_ne_zero.mpr (Nat.succ_ne_zero _)
      exact div_mul_cancel₀ _ some

theorem mean_snoc (items : List K) (item : K) :
    (meanOf items * items.length + item) / (items.length + 1 : Nat) = meanOf (items ++ [item]) := by
  rw [mean_total, meanOf, List.sum_append, List.sum_singleton, List.length_append, List.length_singleton]

end Field

variable {K : Type} [Field K] [LinearOrder K] [IsStrictOrderedRing K]

theorem mean_in_unit (items : List K) (range : ∀ item ∈ items, 0 ≤ item ∧ item ≤ 1) :
    0 ≤ meanOf items ∧ meanOf items ≤ 1 := by
  have count : (0 : K) ≤ items.length := Nat.cast_nonneg _
  constructor
  · exact div_nonneg (List.sum_nonneg fun item member => (range item member).1) count
  · refine div_le_one_of_le₀ ?_ count
    have most := List.sum_le_card_nsmul items 1 fun item member => (range item member).2
    rwa [nsmul_one] at most

end Foundation
