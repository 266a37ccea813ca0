import Vermyth.Engine.Resonance
import Vermyth.Engine.Scaling

set_option autoImplicit false

namespace Vermyth

open Foundation

def SemanticVector.padded (count : Nat) (vector : SemanticVector) : SemanticVector where
  components := vector.components ++ List.replicate count 0
  basisVersion := vector.basisVersion
  atLeastSix := by
    rw [List.length_append]
    exact le_trans vector.atLeastSix (Nat.le_add_right _ _)

inductive Reexpressed (vector : SemanticVector) : SemanticVector → Prop where
  | same : Reexpressed vector vector
  | padded (later : SemanticVector) (count : Nat) : Reexpressed vector later → Reexpressed vector (later.padded count)
  | upsampled (later : SemanticVector) (targetVersion targetDim : Nat) : Reexpressed vector later →
      Reexpressed vector (upsampleTo later targetVersion targetDim)

def paddedCosine (math : VectorMath) (a b : SemanticVector) : ℚ :=
  let dim := max a.components.length b.components.length
  cosineBy math.sqrt (paddedTo dim a.components) (paddedTo dim b.components)

theorem reexpressed_same (vector later : SemanticVector) (reexpressed : Reexpressed vector later) :
    SameCoeffs later.components vector.components := by
  induction reexpressed with
  | same => exact fun i => rfl
  | padded later count _ ih => exact fun i => (coeff_zeros later.components count i).trans (ih i)
  | upsampled later targetVersion targetDim _ ih =>
      exact fun i => (upsample_same later targetVersion targetDim i).trans (ih i)

theorem padded_same (dim : Nat) (components : List ℚ) : SameCoeffs (paddedTo dim components) components :=
  coeff_zeros components _

theorem padded_cosine (math : VectorMath) (a b : SemanticVector) :
    cosine math a.components b.components = clipComponent (paddedCosine math a b) := by
  rw [paddedCosine, ← cosine_clip]
  exact (same_cosine math _ _ _ _ (padded_same _ _) (padded_same _ _)).symm

theorem clip_monotone : Monotone clipComponent := by
  intro a b less
  rw [clipComponent, clipComponent]
  split_ifs <;> linarith

theorem cosine_comm (math : VectorMath) (a b : List ℚ) : cosine math a b = cosine math b a := by
  rw [cosine_clip, cosine_clip, cosine_by_comm]

theorem reexpressed_cosine (math : VectorMath) (a b left right : SemanticVector) (ofLeft : Reexpressed a left)
    (ofRight : Reexpressed b right) :
    cosine math left.components right.components = cosine math a.components b.components :=
  same_cosine math _ _ _ _ (reexpressed_same a left ofLeft) (reexpressed_same b right ofRight)

def firstAxis : SemanticVector where
  components := [1, 0, 0, 0, 0, 0]
  atLeastSix := first_axis_six

theorem leaning_six : 6 ≤ [(3 / 5 : ℚ), 4 / 5, 0, 0, 0, 0, 0].length := by decide

def leaning : SemanticVector where
  components := [3 / 5, 4 / 5, 0, 0, 0, 0, 0]
  basisVersion := some 1
  atLeastSix := leaning_six

end Vermyth
