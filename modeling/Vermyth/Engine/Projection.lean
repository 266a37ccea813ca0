import Vermyth.Engine.BasisMismatch
import Vermyth.Foundation.Cosine

set_option autoImplicit false

namespace Vermyth

open Foundation

namespace ResonanceEngine

def scores (engine : ResonanceEngine) (vector : SemanticVector) : List Scored :=
  (anchors engine.order engine.composition).map
    (engine.score (CompositionEngine.normalizeUnit engine.math vector))

def neighbors (engine : ResonanceEngine) (vector : SemanticVector) (k : Nat) : List Weighted :=
  weighNeighbors engine.math (nearest k (engine.scores vector))

def best (engine : ResonanceEngine) (vector : SemanticVector) (k : Nat) : Option Weighted :=
  (engine.neighbors vector k).argmax Weighted.weight

end ResonanceEngine

theorem scored_anchor (engine : ResonanceEngine) (vec : SemanticVector) (anchor : Anchor) (scored : Scored)
    (made : scoreAnchor engine.math engine.registry vec anchor = .ok scored) :
    scored.anchor = anchor ∧ vec.normalizedBasisVersion = engine.registry.basisVersion := by
  by_cases same : vec.normalizedBasisVersion = engine.registry.basisVersion
  · rw [score_anchor_same engine vec anchor same] at made
    obtain rfl := Except.ok.inj made
    exact ⟨rfl, same⟩
  · rw [score_anchor_other engine vec anchor same] at made
    contradiction

theorem interpolate_same_basis (engine : ResonanceEngine) (vector : SemanticVector) (k : Nat) (enough : 1 ≤ k)
    (same : vector.normalizedBasisVersion = engine.registry.basisVersion) :
    engine.interpolate vector k = (engine.best vector k).elim
      (.error (.valueError "no sigil anchors available for interpolation")) fun best =>
        FluidSigil.make engine vector (CompositionEngine.normalizeUnit engine.math vector) best
          (engine.neighbors vector k) := by
  have each : (anchors engine.order engine.composition).mapM
      (scoreAnchor engine.math engine.registry (CompositionEngine.normalizeUnit engine.math vector)) =
        .ok (engine.scores vector) :=
    map_m_ok _ _ _ fun anchor _ => score_anchor_same engine _ anchor same
  simp only [ResonanceEngine.interpolate, if_neg (Nat.not_lt.mpr enough), each]
  rw [ResonanceEngine.best, ResonanceEngine.neighbors]
  cases (weighNeighbors engine.math (nearest k (engine.scores vector))).argmax Weighted.weight <;> rfl

theorem interpolate_found (engine : ResonanceEngine) (vector : SemanticVector) (k : Nat) (sigil : FluidSigil)
    (made : engine.interpolate vector k = .ok sigil) :
    1 ≤ k ∧ vector.normalizedBasisVersion = engine.registry.basisVersion ∧
      ∃ best, engine.best vector k = some best ∧ FluidSigil.make engine vector
        (CompositionEngine.normalizeUnit engine.math vector) best (engine.neighbors vector k) = .ok sigil := by
  by_cases few : k < 1
  · rw [ResonanceEngine.interpolate, if_pos few] at made
    contradiction
  · have enough := Nat.not_lt.mp few
    have basis : vector.normalizedBasisVersion = engine.registry.basisVersion := by
      simp only [ResonanceEngine.interpolate, if_neg few] at made
      cases scores : (anchors engine.order engine.composition).mapM
          (scoreAnchor engine.math engine.registry (CompositionEngine.normalizeUnit engine.math vector)) with
      | error raised =>
          simp only [scores] at made
          contradiction
      | ok scored =>
          simp only [scores] at made
          cases scored with
          | nil =>
              have none : nearest k [] = [] := List.take_nil
              rw [none] at made
              contradiction
          | cons first rest =>
              obtain ⟨anchor, -, own⟩ := map_m_mem _ _ _ scores first List.mem_cons_self
              exact (scored_anchor engine _ anchor first own).2
    rw [interpolate_same_basis engine vector k enough basis] at made
    cases chosen : engine.best vector k with
    | none =>
        rw [chosen] at made
        contradiction
    | some best =>
        rw [chosen] at made
        exact ⟨enough, basis, best, rfl, made⟩

theorem fluid_sigil_fields (engine : ResonanceEngine) (vector vec : SemanticVector) (best : Weighted)
    (neighbors : List Weighted) (sigil : FluidSigil) :
    FluidSigil.make engine vector vec best neighbors = .ok sigil ↔
      (1 ≤ (unionAspects engine.order best neighbors).names.length ∧ CeilingValid (meanCeiling neighbors)) ∧ sigil =
        { name := "Fluid:" ++ best.scored.anchor.raw.name,
          aspects := (unionAspects engine.order best neighbors).rebuild engine.order,
          effectClass := best.scored.anchor.raw.effectClass, resonanceCeiling := meanCeiling neighbors,
          contradictionSeverity := worstSeverity engine.composition neighbors, semanticVector := vec,
          sourceVector := vector, nearestCanonical := best.scored.anchor.raw.name } := by
  rw [FluidSigil.make, CeilingValid]
  split_ifs with union ceiling
  · simp [union, ceiling, eq_comm]
  · simp [ceiling]
  · simp [union]

theorem neighbor_anchor (engine : ResonanceEngine) (vector : SemanticVector) (k : Nat) (neighbor : Weighted)
    (member : neighbor ∈ engine.neighbors vector k) :
    neighbor.scored ∈ engine.scores vector ∧ neighbor.scored.anchor ∈ anchors engine.order engine.composition := by
  have isNear := List.mem_map_of_mem (f := Weighted.scored) member
  rw [ResonanceEngine.neighbors, neighbor_scored] at isNear
  have isScored := (List.mem_insertionSort _).mp (List.mem_of_mem_take isNear)
  refine ⟨isScored, ?_⟩
  obtain ⟨anchor, isAnchor, own⟩ := List.mem_map.mp isScored
  rw [← own]
  exact isAnchor

theorem interpolate_vector (engine : ResonanceEngine) (vector : SemanticVector) (k : Nat) (sigil : FluidSigil)
    (made : engine.interpolate vector k = .ok sigil) :
    sigil.semanticVector = CompositionEngine.normalizeUnit engine.math vector := by
  obtain ⟨-, -, best, -, made⟩ := interpolate_found engine vector k sigil made
  obtain ⟨-, rfl⟩ := (fluid_sigil_fields engine _ _ best _ sigil).mp made
  rfl

end Vermyth
