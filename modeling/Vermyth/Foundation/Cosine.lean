import Mathlib.Algebra.BigOperators.Ring.List
import Mathlib.Algebra.Order.Field.Basic
import Mathlib.Analysis.Real.Sqrt
import Vermyth.Foundation.TrailingZeros

set_option autoImplicit false

-- Directions of vectors of any length, by a root that is given.
namespace Foundation

section Scaling

variable {K : Type} [Field K]

def scaledBy (scale : K) (items : List K) : List K := items.map (scale * ·)

def squares (items : List K) : K := (items.map fun x => x * x).sum

@[simp] theorem scaled_by_length (scale : K) (items : List K) : (scaledBy scale items).length = items.length :=
  List.length_map _

theorem coeff_scaled (scale : K) (items : List K) (i : Nat) : coeff (scaledBy scale items) i = scale * coeff items i :=
  coeff_map (scale * ·) (mul_zero scale) items i

theorem squares_scaled (scale : K) (items : List K) : squares (scaledBy scale items) = scale * scale * squares items := by
  have each : (fun x : K => scale * x * (scale * x)) = fun x => scale * scale * (x * x) := funext fun x => by ring
  rw [squares, scaledBy, List.map_map, squares, ← List.sum_map_mul_left]
  exact congrArg (fun f => (items.map f).sum) each

theorem squares_same (items others : List K) (same : SameCoeffs items others) : squares items = squares others :=
  same_sum (fun x => x * x) (mul_zero 0) items others same

theorem dot_scaled (scale : K) (items others : List K) :
    dotProduct (scaledBy scale items) others = scale * dotProduct items others := by
  have each : ∀ i, coeff (scaledBy scale items) i * coeff others i = scale * (coeff items i * coeff others i) :=
    fun i => by rw [coeff_scaled, mul_assoc]
  simp only [dotProduct, scaled_by_length, each]
  exact List.sum_map_mul_left _ _ _

theorem dot_comm (items others : List K) : dotProduct items others = dotProduct others items := by
  simp only [dotProduct, max_comm, mul_comm]

variable (root : K → K)

def normBy (items : List K) : K := root (squares items)

def cosineBy (items others : List K) : K := dotProduct items others / (normBy root items * normBy root others)

theorem cosine_by_comm (items others : List K) : cosineBy root items others = cosineBy root others items := by
  rw [cosineBy, cosineBy, dot_comm, mul_comm]

theorem cosine_by_same (items again others more : List K) (left : SameCoeffs items again)
    (right : SameCoeffs others more) : cosineBy root items others = cosineBy root again more := by
  rw [cosineBy, cosineBy, normBy, normBy, normBy, normBy, squares_same items again left, squares_same others more right,
    same_dot_product items again others more left right]

end Scaling

section Homogeneous

variable {K : Type} [Field K] [LinearOrder K]

def Homogeneous (root : K → K) : Prop := ∀ scale x, 0 ≤ scale → root (scale * scale * x) = scale * root x

variable {root : K → K}

theorem norm_scaled (homogeneous : Homogeneous root) (scale : K) (nonneg : 0 ≤ scale) (items : List K) :
    normBy root (scaledBy scale items) = scale * normBy root items := by
  rw [normBy, squares_scaled, homogeneous scale _ nonneg, normBy]

theorem cosine_by_scaled (homogeneous : Homogeneous root) (scale : K) (positive : 0 < scale) (items others : List K) :
    cosineBy root (scaledBy scale items) others = cosineBy root items others := by
  rw [cosineBy, cosineBy, norm_scaled homogeneous scale positive.le, dot_scaled, mul_assoc]
  exact mul_div_mul_left _ _ positive.ne'

variable [IsStrictOrderedRing K]

theorem squares_nonneg (items : List K) : 0 ≤ squares items :=
  List.sum_nonneg (by
    intro square member
    obtain ⟨x, -, rfl⟩ := List.mem_map.mp member
    exact mul_self_nonneg x)

theorem squares_zero_iff (items : List K) : squares items = 0 ↔ ∀ x ∈ items, x = 0 := by
  induction items with
  | nil => simp [squares]
  | cons first rest ih =>
      have split : squares (first :: rest) = first * first + squares rest := List.sum_cons
      rw [split, add_eq_zero_iff_of_nonneg (mul_self_nonneg first) (squares_nonneg rest), mul_self_eq_zero, ih,
        List.forall_mem_cons]

def SameDirection (items others : List K) : Prop := ∃ scale, 0 < scale ∧ ∀ i, coeff others i = scale * coeff items i

def Parallel (items others : List K) : Prop := ∃ scale, ∀ i, coeff others i = scale * coeff items i

theorem same_direction_refl (items : List K) : SameDirection items items :=
  ⟨1, one_pos, fun _ => (one_mul _).symm⟩

theorem same_direction_trans (items others more : List K) (first : SameDirection items others)
    (second : SameDirection others more) : SameDirection items more := by
  obtain ⟨scale, positive, each⟩ := first
  obtain ⟨again, alsoPositive, other⟩ := second
  exact ⟨again * scale, mul_pos alsoPositive positive, fun i => by rw [other, each, mul_assoc]⟩

omit [IsStrictOrderedRing K] in
theorem same_direction_cosine (homogeneous : Homogeneous root) (items others more : List K)
    (same : SameDirection items others) : cosineBy root others more = cosineBy root items more := by
  obtain ⟨scale, positive, each⟩ := same
  have scaled : SameCoeffs others (scaledBy scale items) := fun i => by rw [each, coeff_scaled]
  rw [cosine_by_same root others (scaledBy scale items) more more scaled fun _ => rfl,
    cosine_by_scaled homogeneous scale positive]

end Homogeneous

theorem sqrt_homogeneous : Homogeneous Real.sqrt := by
  intro scale x nonneg
  rw [Real.sqrt_mul (mul_self_nonneg scale), Real.sqrt_mul_self nonneg]

end Foundation
