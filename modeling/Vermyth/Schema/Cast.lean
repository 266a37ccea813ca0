import Mathlib.Data.List.MinMax
import Vermyth.Schema.Value

set_option autoImplicit false

namespace Vermyth

inductive ReversibilityClass where
  | reversible
  | partially
  | irreversible
deriving DecidableEq, Repr

inductive SideEffectTolerance where
  | none
  | low
  | medium
  | high
deriving DecidableEq, Repr

structure Intent where
  objective : String
  scope : String
  reversibility : ReversibilityClass
  sideEffectTolerance : SideEffectTolerance
deriving DecidableEq, Repr

inductive VerdictType where
  | coherent
  | partially
  | incoherent
deriving DecidableEq, Repr

def VerdictType.value : VerdictType → String
  | .coherent => "COHERENT"
  | .partially => "PARTIAL"
  | .incoherent => "INCOHERENT"

structure SemanticVector where
  components : List ℚ
  basisVersion : Option Nat := none
  atLeastSix : 6 ≤ components.length := by decide
deriving DecidableEq, Repr

theorem first_axis_six : 6 ≤ ([1, 0, 0, 0, 0, 0] : List ℚ).length := by decide

structure ResonanceScore where
  adjusted : ℚ
  inRange : 0 ≤ adjusted ∧ adjusted ≤ 1
deriving DecidableEq, Repr

structure Verdict where
  verdictType : VerdictType
  resonance : ResonanceScore
deriving DecidableEq, Repr

structure Sigil where
  semanticVector : SemanticVector
deriving DecidableEq, Repr

structure Lineage where
  parentCastId : String
  depth : Nat
  branchId : String
  divergenceVector : Option SemanticVector
  depthPos : 1 ≤ depth
deriving DecidableEq, Repr

structure CastResult where
  castId : String
  intent : Intent
  sigil : Sigil
  verdict : Verdict
  lineage : Option Lineage := none
deriving DecidableEq, Repr

def CastResult.adjusted (result : CastResult) : ℚ := result.verdict.resonance.adjusted

def divergenceComponents (child parent : List ℚ) : List ℚ :=
  (List.range (max child.length parent.length)).map fun i => child.getD i 0 - parent.getD i 0

@[simp] theorem divergence_components_length (child parent : List ℚ) :
    (divergenceComponents child parent).length = max child.length parent.length := by
  simp [divergenceComponents]

def divergenceVector (child parent : SemanticVector) : SemanticVector where
  components := divergenceComponents child.components parent.components
  atLeastSix := by
    rw [divergence_components_length]
    exact Nat.le_trans child.atLeastSix (Nat.le_max_left _ _)

def lineageDepth (parent : CastResult) : Nat :=
  match parent.lineage with
  | some lineage => lineage.depth + 1
  | none => 1

theorem lineage_depth_pos (parent : CastResult) : 1 ≤ lineageDepth parent := by
  unfold lineageDepth
  split <;> omega

def castResultWithLineage (base parent : CastResult) (branchId : String) : CastResult :=
  { base with
    lineage := some {
      parentCastId := parent.castId
      depth := lineageDepth parent
      branchId := branchId
      divergenceVector := some (divergenceVector base.sigil.semanticVector parent.sigil.semanticVector)
      depthPos := lineage_depth_pos parent } }

-- max(results, key=adjusted): the first of the results with the largest score.
def bestResonance (results : List CastResult) : Option CastResult :=
  results.argmax CastResult.adjusted

theorem best_resonance_mem (results : List CastResult) (best : CastResult)
    (chosen : bestResonance results = some best) : best ∈ results :=
  List.argmax_mem chosen

theorem best_resonance_none (results : List CastResult) :
    bestResonance results = none ↔ results = [] :=
  List.argmax_eq_none

end Vermyth
