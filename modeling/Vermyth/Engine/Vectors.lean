import Mathlib.Algebra.Field.Rat
import Vermyth.Foundation.TrailingZeros
import Vermyth.Schema.Aspect

set_option autoImplicit false

namespace Vermyth

open Foundation

-- math.sqrt and math.exp. What is proved of the vectors needs no more of them
-- than their signs.
structure VectorMath where
  sqrt : ℚ → ℚ
  exp : ℚ → ℚ
  sqrtNonneg : ∀ x, 0 ≤ sqrt x
  expPos : ∀ x, 0 < exp x

def clipComponent (x : ℚ) : ℚ := if 1 < x then 1 else if x < -1 then -1 else x

theorem clip_range (x : ℚ) : -1 ≤ clipComponent x ∧ clipComponent x ≤ 1 := by
  have signs : (-1 : ℚ) ≤ 1 := by decide +kernel
  rw [clipComponent]
  by_cases above : 1 < x
  · rw [if_pos above]
    exact ⟨signs, le_rfl⟩
  · by_cases below : x < -1
    · rw [if_neg above, if_pos below]
      exact ⟨le_rfl, signs⟩
    · rw [if_neg above, if_neg below]
      exact ⟨not_lt.mp below, not_lt.mp above⟩

def l2Norm (math : VectorMath) (components : List ℚ) : ℚ := math.sqrt (components.map fun c => c * c).sum

def unitComponents (math : VectorMath) (components : List ℚ) : List ℚ :=
  if l2Norm math components = 0 then components.map fun _ => 0 else components.map fun c => c / l2Norm math components

@[simp] theorem unit_components_length (math : VectorMath) (components : List ℚ) :
    (unitComponents math components).length = components.length := by
  rw [unitComponents]
  split <;> rw [List.length_map]

def cosine (math : VectorMath) (a b : List ℚ) : ℚ :=
  if l2Norm math a = 0 ∨ l2Norm math b = 0 then 0
  else if l2Norm math a * l2Norm math b = 0 then 0
  else clipComponent (dotProduct a b / (l2Norm math a * l2Norm math b))

theorem cosine_range (math : VectorMath) (a b : List ℚ) : -1 ≤ cosine math a b ∧ cosine math a b ≤ 1 := by
  have zero : (-1 : ℚ) ≤ 0 ∧ (0 : ℚ) ≤ 1 := by decide +kernel
  unfold cosine
  split
  · exact zero
  · split
    · exact zero
    · exact clip_range _

def basisMismatch (a b : SemanticVector) : PyError :=
  .valueError ("incompatible basis versions: left=v" ++ toString a.normalizedBasisVersion ++ " right=v" ++
    toString b.normalizedBasisVersion ++ "; upsample explicitly first")

def cosineSimilarity (math : VectorMath) (a b : SemanticVector) : Except PyError ℚ :=
  if a.normalizedBasisVersion = b.normalizedBasisVersion then .ok (cosine math a.components b.components)
  else .error (basisMismatch a b)

def upsampleTo (vector : SemanticVector) (targetVersion targetDim : Nat) : SemanticVector where
  components := vector.components ++ List.replicate (targetDim - vector.components.length) 0
  basisVersion := some targetVersion
  atLeastSix := by
    rw [List.length_append]
    exact le_trans vector.atLeastSix (Nat.le_add_right _ _)

-- The engine's vectors are of the basis of the registry, and those of the
-- composition engine of the basis of the vector they are made from.
def normalizeUnit (math : VectorMath) (registry : AspectRegistry) (components : List ℚ)
    (atLeastSix : 6 ≤ components.length) : SemanticVector where
  components := unitComponents math components
  basisVersion := some registry.basisVersion
  atLeastSix := by rwa [unit_components_length]

def CompositionEngine.normalizeUnit (math : VectorMath) (vector : SemanticVector) : SemanticVector where
  components := unitComponents math vector.components
  basisVersion := vector.basisVersion
  atLeastSix := by
    rw [unit_components_length]
    exact vector.atLeastSix

theorem same_norm (math : VectorMath) (a b : List ℚ) (same : SameCoeffs a b) : l2Norm math a = l2Norm math b := by
  rw [l2Norm, l2Norm, same_sum (fun c => c * c) (mul_zero 0) a b same]

theorem same_unit (math : VectorMath) (a b : List ℚ) (same : SameCoeffs a b) :
    SameCoeffs (unitComponents math a) (unitComponents math b) := by
  rw [unitComponents, unitComponents, same_norm math a b same]
  by_cases none : l2Norm math b = 0
  · rw [if_pos none, if_pos none]
    exact same_map _ rfl a b same
  · rw [if_neg none, if_neg none]
    exact same_map (fun c => c / l2Norm math b) (zero_div _) a b same

theorem same_cosine (math : VectorMath) (a again b more : List ℚ) (left : SameCoeffs a again)
    (right : SameCoeffs b more) : cosine math a b = cosine math again more := by
  rw [cosine, cosine, same_norm math a again left, same_norm math b more right,
    same_dot_product a again b more left right]

theorem upsample_same (vector : SemanticVector) (targetVersion targetDim : Nat) :
    SameCoeffs (upsampleTo vector targetVersion targetDim).components vector.components :=
  coeff_zeros vector.components _

end Vermyth
