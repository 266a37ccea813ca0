import Mathlib.Data.List.MinMax
import Mathlib.Data.List.Sort
import Vermyth.Engine.Resonance
import Vermyth.Foundation.Softmax

set_option autoImplicit false

namespace Vermyth

open Foundation

structure Anchor where
  key : String
  raw : SigilEntry
  aspects : AspectSet

structure Scored where
  similarity : ℚ
  anchor : Anchor

structure Weighted where
  scored : Scored
  weight : ℚ

-- schema.FluidSigil. What stands in a sigil of the table too comes first.
structure FluidSigil extends ResolvedSigil where
  sourceVector : SemanticVector
  nearestCanonical : String

-- The resonance engine of a process, and what its process has.
structure ResonanceEngine where
  math : VectorMath
  backend : Option ProjectionBackend
  composition : CompositionEngine
  registry : AspectRegistry
  order : SetOrder

def anchorAspects (key : String) : Option (List AspectID) :=
  aspectCanonicalOrder.sublists.find? fun ids => ids ≠ [] ∧ "+".intercalate (ids.map AspectID.name) = key

def anchorOf (order : SetOrder) (slot : SigilSlot) : Option Anchor :=
  (anchorAspects slot.key).map fun ids =>
    { key := slot.key, raw := slot.entry, aspects := .build order (ids.map AspectID.name) }

def anchors (order : SetOrder) (composition : CompositionEngine) : List Anchor :=
  composition.table.rows.filterMap (anchorOf order)

def scoreAnchor (math : VectorMath) (registry : AspectRegistry) (vec : SemanticVector) (anchor : Anchor) :
    Except PyError Scored := do
  let sim ← cosineSimilarity math (fromAspects registry anchor.aspects) vec
  return { similarity := sim, anchor := anchor }

def nearest (k : Nat) (scored : List Scored) : List Scored :=
  (scored.insertionSort fun a b => b.similarity ≤ a.similarity).take k

def softmax (math : VectorMath) (sims : List ℚ) : List ℚ :=
  shares (sims.map fun sim => math.exp (sim - sims.max?.getD 0))

def weighNeighbors (math : VectorMath) (neighbors : List Scored) : List Weighted :=
  List.zipWith Weighted.mk neighbors (softmax math (neighbors.map Scored.similarity))

def severityRank : ContradictionSeverity → Nat
  | .none => 0
  | .soft => 1
  | .hard => 2

def worstSeverity (composition : CompositionEngine) (neighbors : List Weighted) : ContradictionSeverity :=
  neighbors.foldl (fun worst neighbor =>
    let severity := contradictionSeverityForKey composition.contradictions neighbor.scored.anchor.key
      neighbor.scored.anchor.raw
    if 1 / 10 < neighbor.weight ∧ severityRank worst < severityRank severity then severity else worst) .none

def unionAspects (order : SetOrder) (best : Weighted) (neighbors : List Weighted) : AspectSet :=
  let union := AspectSet.build order (neighbors.flatMap fun neighbor => neighbor.scored.anchor.aspects.names)
  if 3 < union.names.length then best.scored.anchor.aspects else union

def meanCeiling (neighbors : List Weighted) : ℚ :=
  (List.zipWith (· * ·) (neighbors.map fun neighbor => neighbor.scored.anchor.raw.resonanceCeiling)
    (neighbors.map Weighted.weight)).sum

-- The mean is exact. That of ceilings 1.0 in doubles can pass 1.0, which
-- le=1.0 refuses.
def FluidSigil.make (engine : ResonanceEngine) (vector vec : SemanticVector) (best : Weighted)
    (neighbors : List Weighted) : Except PyError FluidSigil :=
  let aspects := unionAspects engine.order best neighbors
  if 1 ≤ aspects.names.length then
    if 0 ≤ meanCeiling neighbors ∧ meanCeiling neighbors ≤ 1 then
      .ok { name := "Fluid:" ++ best.scored.anchor.raw.name, aspects := aspects.rebuild engine.order,
            effectClass := best.scored.anchor.raw.effectClass, resonanceCeiling := meanCeiling neighbors,
            contradictionSeverity := worstSeverity engine.composition neighbors, semanticVector := vec,
            sourceVector := vector, nearestCanonical := best.scored.anchor.raw.name }
    else .error (invalid "FluidSigil" "resonance_ceiling")
  else .error (invalid "FluidSigil" "aspects")

namespace ResonanceEngine

def interpolate (engine : ResonanceEngine) (vector : SemanticVector) (k : Nat) : Except PyError FluidSigil :=
  if k < 1 then .error (.valueError "k must be >= 1")
  else
    let vec := CompositionEngine.normalizeUnit engine.math vector
    match (anchors engine.order engine.composition).mapM (scoreAnchor engine.math engine.registry vec) with
    | .error raised => .error raised
    | .ok scored =>
        let neighbors := weighNeighbors engine.math (nearest k scored)
        match neighbors.argmax Weighted.weight with
        | none => .error (.valueError "no sigil anchors available for interpolation")
        | some best => FluidSigil.make engine vector vec best neighbors

def evaluate (engine : ResonanceEngine) (sigil : ResolvedSigil) (intent : Intent) : EvaluatedVerdict :=
  Vermyth.evaluate engine.math engine.backend engine.registry sigil.face intent

def intentVector (engine : ResonanceEngine) (intent : Intent) : IntentVector :=
  buildIntentVector engine.math engine.backend engine.registry intent

end ResonanceEngine

end Vermyth
