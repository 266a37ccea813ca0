import Mathlib.Algebra.BigOperators.Group.List.Basic
import Mathlib.Algebra.BigOperators.Intervals
import Mathlib.Algebra.Ring.Defs
import Mathlib.Data.List.GetD

set_option autoImplicit false

namespace Foundation

section Coefficients

variable {K M : Type} [Zero K] [AddCommMonoid M]

def coeff (items : List K) (i : Nat) : K := items.getD i 0

def SameCoeffs (items others : List K) : Prop := ∀ i, coeff items i = coeff others i

theorem coeff_past (items : List K) (i : Nat) (past : items.length ≤ i) : coeff items i = 0 :=
  List.getD_eq_default items 0 past

theorem coeff_zeros (items : List K) (count : Nat) : SameCoeffs (items ++ List.replicate count 0) items := by
  intro i
  by_cases inside : i < items.length
  · rw [coeff, coeff, List.getD_append _ _ _ _ inside]
  · rw [coeff, coeff, List.getD_append_right _ _ _ _ (Nat.le_of_not_lt inside),
      List.getD_eq_default items 0 (Nat.le_of_not_lt inside)]
    simp [List.getD_eq_getElem?_getD, List.getElem?_replicate]
    split <;> rfl

theorem coeff_map {L : Type} [Zero L] (f : K → L) (zero : f 0 = 0) (items : List K) (i : Nat) :
    coeff (items.map f) i = f (coeff items i) := by
  rw [coeff, ← zero, List.getD_map, coeff]

theorem coeff_range (f : Nat → K) (count i : Nat) :
    coeff ((List.range count).map f) i = if i < count then f i else 0 := by
  by_cases inside : i < count
  · rw [if_pos inside, coeff, List.getD_eq_getElem _ _ (by simpa using inside)]
    simp
  · rw [if_neg inside, coeff_past _ _ (by simpa using inside)]

theorem sum_coeff (f : K → M) (zero : f 0 = 0) (items : List K) (count : Nat) (covers : items.length ≤ count) :
    (items.map f).sum = ∑ i ∈ Finset.range count, f (coeff items i) := by
  induction items generalizing count with
  | nil =>
      simp [coeff, zero]
  | cons first rest ih =>
      obtain ⟨more, rfl⟩ : ∃ more, count = more + 1 := Nat.exists_eq_succ_of_ne_zero (by
        rw [List.length_cons] at covers
        omega)
      rw [List.map_cons, List.sum_cons, ih more (by simpa using covers), Finset.sum_range_succ', add_comm]
      rfl

theorem same_sum (f : K → M) (zero : f 0 = 0) (items others : List K) (same : SameCoeffs items others) :
    (items.map f).sum = (others.map f).sum := by
  rw [sum_coeff f zero items _ (Nat.le_max_left items.length others.length),
    sum_coeff f zero others _ (Nat.le_max_right items.length others.length)]
  exact Finset.sum_congr rfl fun i _ => by rw [same i]

theorem same_map {L : Type} [Zero L] (f : K → L) (zero : f 0 = 0) (items others : List K)
    (same : SameCoeffs items others) : SameCoeffs (items.map f) (others.map f) := by
  intro i
  rw [coeff_map f zero, coeff_map f zero, same i]

end Coefficients

section Products

variable {K : Type} [NonUnitalNonAssocSemiring K]

def dotProduct (items others : List K) : K :=
  ((List.range (max items.length others.length)).map fun i => coeff items i * coeff others i).sum

theorem dot_product_sum (items others : List K) (count : Nat) (covers : max items.length others.length ≤ count) :
    dotProduct items others = ∑ i ∈ Finset.range count, coeff items i * coeff others i := by
  have listed : dotProduct items others =
      ∑ i ∈ Finset.range (max items.length others.length), coeff items i * coeff others i := rfl
  rw [listed]
  apply Finset.sum_subset
  · exact Finset.range_subset_range.mpr covers
  · intro i _ outside
    rw [Finset.mem_range, not_lt] at outside
    rw [coeff_past items i (le_trans (Nat.le_max_left _ _) outside), zero_mul]

theorem same_dot_product (items again others more : List K) (left : SameCoeffs items again)
    (right : SameCoeffs others more) : dotProduct items others = dotProduct again more := by
  rw [dot_product_sum items others _ (Nat.le_max_left _ (max again.length more.length)),
    dot_product_sum again more _ (Nat.le_max_right (max items.length others.length) _)]
  exact Finset.sum_congr rfl fun i _ => by rw [left i, right i]

end Products

end Foundation
