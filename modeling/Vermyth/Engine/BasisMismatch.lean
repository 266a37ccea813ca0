import Vermyth.Engine.FluidCasting
import Vermyth.Grimoire.Seeds

set_option autoImplicit false

namespace Vermyth

open Foundation

structure Anchored (engine : ResonanceEngine) : Prop where
  some : anchors engine.order engine.composition ≠ []
  ceilings : ∀ anchor ∈ anchors engine.order engine.composition, CeilingValid anchor.raw.resonanceCeiling

def ResonanceEngine.score (engine : ResonanceEngine) (vec : SemanticVector) (anchor : Anchor) : Scored where
  similarity := cosine engine.math (fromAspects engine.registry anchor.aspects).components vec.components
  anchor := anchor

theorem score_anchor_same (engine : ResonanceEngine) (vec : SemanticVector) (anchor : Anchor)
    (same : vec.normalizedBasisVersion = engine.registry.basisVersion) :
    scoreAnchor engine.math engine.registry vec anchor = .ok (engine.score vec anchor) := by
  have bases : (fromAspects engine.registry anchor.aspects).normalizedBasisVersion = vec.normalizedBasisVersion :=
    same.symm
  rw [scoreAnchor, cosineSimilarity, if_pos bases]
  rfl

theorem score_anchor_other (engine : ResonanceEngine) (vec : SemanticVector) (anchor : Anchor)
    (other : vec.normalizedBasisVersion ≠ engine.registry.basisVersion) :
    scoreAnchor engine.math engine.registry vec anchor =
      .error (basisMismatch (fromAspects engine.registry anchor.aspects) vec) := by
  have bases : (fromAspects engine.registry anchor.aspects).normalizedBasisVersion ≠ vec.normalizedBasisVersion :=
    fun same => other same.symm
  rw [scoreAnchor, cosineSimilarity, if_neg bases]
  rfl

theorem interpolate_other (engine : ResonanceEngine) (anchored : Anchored engine) (vector : SemanticVector)
    (other : vector.normalizedBasisVersion ≠ engine.registry.basisVersion) :
    ∃ a b, engine.interpolate vector 3 = .error (basisMismatch a b) := by
  cases listed : anchors engine.order engine.composition with
  | nil => exact absurd listed anchored.some
  | cons first rest =>
      have refused := score_anchor_other engine (CompositionEngine.normalizeUnit engine.math vector) first other
      refine ⟨fromAspects engine.registry first.aspects, CompositionEngine.normalizeUnit engine.math vector, ?_⟩
      simp only [ResonanceEngine.interpolate, listed, List.mapM_cons, refused, bind, Except.bind]
      rfl

theorem anchor_names (order : SetOrder) (composition : CompositionEngine) (anchor : Anchor)
    (member : anchor ∈ anchors order composition) : 1 ≤ anchor.aspects.names.length := by
  obtain ⟨slot, -, made⟩ := List.mem_filterMap.mp member
  obtain ⟨ids, found, rfl⟩ := Option.map_eq_some_iff.mp made
  rw [anchorAspects] at found
  have chosen := List.find?_some found
  have nonempty : ids ≠ [] := (of_decide_eq_true chosen).1
  obtain ⟨id, rest, rfl⟩ := List.exists_cons_of_ne_nil nonempty
  have walked := (order.permutes ((id :: rest).map AspectID.name)).mem_iff.mpr (List.mem_dedup.mpr List.mem_cons_self)
  exact List.length_pos_of_mem walked

theorem softmax_length (math : VectorMath) (neighbors : List Scored) :
    (softmax math (neighbors.map Scored.similarity)).length = neighbors.length := by
  simp [softmax, shares]

theorem neighbor_scored (math : VectorMath) (neighbors : List Scored) :
    (weighNeighbors math neighbors).map Weighted.scored = neighbors := by
  rw [weighNeighbors, List.map_zipWith]
  exact List.map_uncurry_zip_eq_zipWith ▸ List.map_fst_zip (softmax_length math neighbors).ge

theorem neighbor_weights (math : VectorMath) (neighbors : List Scored) :
    (weighNeighbors math neighbors).map Weighted.weight = softmax math (neighbors.map Scored.similarity) := by
  rw [weighNeighbors, List.map_zipWith]
  exact List.map_uncurry_zip_eq_zipWith ▸ List.map_snd_zip (softmax_length math neighbors).le

theorem union_names (order : SetOrder) (best : Weighted) (neighbors : List Weighted) (member : best ∈ neighbors)
    (names : 1 ≤ best.scored.anchor.aspects.names.length) :
    1 ≤ (unionAspects order best neighbors).names.length := by
  rw [unionAspects]
  by_cases many : 3 < (AspectSet.build order
      (neighbors.flatMap fun neighbor => neighbor.scored.anchor.aspects.names)).names.length
  · simpa only [if_pos many] using names
  · simp only [if_neg many]
    obtain ⟨name, isName⟩ := List.exists_mem_of_length_pos names
    have walked : name ∈ order.walk (neighbors.flatMap fun neighbor => neighbor.scored.anchor.aspects.names) := by
      rw [(order.permutes _).mem_iff, List.mem_dedup, List.mem_flatMap]
      exact ⟨best, member, isName⟩
    exact List.length_pos_of_mem walked

theorem mean_ceiling_valid (engine : ResonanceEngine) (neighbors : List Scored) (some : neighbors ≠ [])
    (ceilings : ∀ neighbor ∈ weighNeighbors engine.math neighbors,
      CeilingValid neighbor.scored.anchor.raw.resonanceCeiling) :
    CeilingValid (meanCeiling (weighNeighbors engine.math neighbors)) := by
  have positive : ∀ weight ∈ (neighbors.map Scored.similarity).map
      (fun sim => engine.math.exp (sim - (neighbors.map Scored.similarity).max?.getD 0)), 0 < weight := by
    intro weight member
    obtain ⟨sim, -, rfl⟩ := List.mem_map.mp member
    exact engine.math.expPos _
  have range := mean_range
    ((weighNeighbors engine.math neighbors).map fun neighbor => neighbor.scored.anchor.raw.resonanceCeiling)
    (softmax engine.math (neighbors.map Scored.similarity))
    (by
      intro value member
      obtain ⟨neighbor, isNeighbor, rfl⟩ := List.mem_map.mp member
      exact ceilings neighbor isNeighbor)
    (shares_nonneg _ positive)
  have total : (softmax engine.math (neighbors.map Scored.similarity)).sum = 1 :=
    shares_sum _ (by simpa using some) positive
  rw [meanCeiling, neighbor_weights]
  rw [total] at range
  exact range

theorem fluid_sigil_made (engine : ResonanceEngine) (vector vec : SemanticVector) (best : Weighted)
    (neighbors : List Weighted) (union : 1 ≤ (unionAspects engine.order best neighbors).names.length)
    (ceiling : CeilingValid (meanCeiling neighbors)) :
    ∃ sigil, FluidSigil.make engine vector vec best neighbors = .ok sigil := by
  have range : 0 ≤ meanCeiling neighbors ∧ meanCeiling neighbors ≤ 1 := ceiling
  exact ⟨_, (if_pos union).trans (if_pos range)⟩

theorem interpolate_same (engine : ResonanceEngine) (anchored : Anchored engine) (vector : SemanticVector)
    (same : vector.normalizedBasisVersion = engine.registry.basisVersion) :
    ∃ sigil, engine.interpolate vector 3 = .ok sigil := by
  let vec := CompositionEngine.normalizeUnit engine.math vector
  let scored := (anchors engine.order engine.composition).map (engine.score vec)
  have each : (anchors engine.order engine.composition).mapM (scoreAnchor engine.math engine.registry vec) =
      .ok scored := map_m_ok _ _ _ fun anchor _ => score_anchor_same engine vec anchor same
  have near : nearest 3 scored ≠ [] := by
    have some : 0 < (anchors engine.order engine.composition).length := List.length_pos_of_ne_nil anchored.some
    rw [← List.length_pos_iff_ne_nil, nearest, List.length_take, List.length_insertionSort, List.length_map]
    omega
  have known : ∀ neighbor ∈ weighNeighbors engine.math (nearest 3 scored),
      neighbor.scored.anchor ∈ anchors engine.order engine.composition := by
    intro neighbor member
    have isNear := List.mem_map_of_mem (f := Weighted.scored) member
    rw [neighbor_scored] at isNear
    obtain ⟨anchor, isAnchor, own⟩ := List.mem_map.mp ((List.mem_insertionSort _).mp (List.mem_of_mem_take isNear))
    rw [← own]
    exact isAnchor
  have ceiling := mean_ceiling_valid engine (nearest 3 scored) near fun neighbor member =>
    anchored.ceilings _ (known neighbor member)
  cases chosen : (weighNeighbors engine.math (nearest 3 scored)).argmax Weighted.weight with
  | none =>
      have noNeighbor := neighbor_scored engine.math (nearest 3 scored)
      rw [List.argmax_eq_none.mp chosen] at noNeighbor
      exact absurd noNeighbor.symm near
  | some best =>
      have isBest := List.argmax_mem chosen
      have names := anchor_names engine.order engine.composition _ (known best isBest)
      have union := union_names engine.order best _ isBest names
      obtain ⟨sigil, made⟩ := fluid_sigil_made engine vector vec best _ union ceiling
      refine ⟨sigil, ?_⟩
      have enough : ¬ 3 < 1 := by omega
      rw [ResonanceEngine.interpolate, if_neg enough]
      simp only [vec, scored] at each chosen made
      simp only [each, chosen, made]

theorem interpolate_ok_iff (engine : ResonanceEngine) (anchored : Anchored engine) (vector : SemanticVector) :
    (∃ sigil, engine.interpolate vector 3 = .ok sigil) ↔
      vector.normalizedBasisVersion = engine.registry.basisVersion := by
  constructor
  · rintro ⟨sigil, interpolated⟩
    by_contra other
    obtain ⟨a, b, refused⟩ := interpolate_other engine anchored vector other
    rw [interpolated] at refused
    contradiction
  · exact interpolate_same engine anchored vector

theorem fluid_cast_other (engine : ResonanceEngine) (anchored : Anchored engine) (vector : SemanticVector)
    (intent : Intent) (stamp : CastStamp) (other : vector.normalizedBasisVersion ≠ engine.registry.basisVersion) :
    ∃ a b, engine.fluidCast vector intent stamp = .error (basisMismatch a b) := by
  obtain ⟨a, b, refused⟩ := interpolate_other engine anchored vector other
  exact ⟨a, b, by rw [ResonanceEngine.fluidCast, refused]; rfl⟩

theorem fluid_cast_same (engine : ResonanceEngine) (anchored : Anchored engine) (vector : SemanticVector)
    (intent : Intent) (stamp : CastStamp) (same : vector.normalizedBasisVersion = engine.registry.basisVersion) :
    ∃ result, engine.fluidCast vector intent stamp = .ok result := by
  obtain ⟨sigil, interpolated⟩ := interpolate_same engine anchored vector same
  exact ⟨_, by rw [ResonanceEngine.fluidCast, interpolated]; rfl⟩

theorem auto_rounds_same (engine : ResonanceEngine) (anchored : Anchored engine) (intent : Intent)
    (targetResonance blendAlpha : ℚ) (stamps : ChainStamps) (rounds : Nat) (vector : SemanticVector)
    (chain : List CastRecord) (same : vector.normalizedBasisVersion = engine.registry.basisVersion) :
    ∃ longer, engine.autoRounds intent targetResonance blendAlpha stamps rounds vector chain = .ok longer ∧
      chain.length + min 1 rounds ≤ longer.length := by
  induction rounds generalizing vector chain with
  | zero => exact ⟨chain, rfl, by simp⟩
  | succ rounds ih =>
      obtain ⟨base, cast⟩ := fluid_cast_same engine anchored vector intent (stamps.cast chain.length) same
      obtain ⟨fluid, interpolated⟩ := interpolate_same engine anchored vector same
      let result := ResonanceEngine.chainResult base chain stamps.branchId
      by_cases reaches : result.verdict.Reaches targetResonance
      · refine ⟨chain ++ [result], ?_, by simp⟩
        rw [ResonanceEngine.autoRounds, cast]
        exact if_pos reaches
      · obtain ⟨longer, went, length⟩ := ih (engine.blendToward vector fluid.semanticVector blendAlpha)
          (chain ++ [result]) rfl
        refine ⟨longer, ?_, ?_⟩
        · rw [ResonanceEngine.autoRounds, cast]
          refine (if_neg reaches).trans ?_
          rw [interpolated]
          exact went
        · rw [List.length_append, List.length_singleton] at length
          omega

theorem auto_cast_same (engine : ResonanceEngine) (anchored : Anchored engine) (vector : SemanticVector)
    (intent : Intent) (maxDepth : Int) (targetResonance blendAlpha : ℚ) (stamps : ChainStamps) (some : 1 ≤ maxDepth)
    (same : vector.normalizedBasisVersion = engine.registry.basisVersion) :
    ∃ cast, engine.autoCast vector intent maxDepth targetResonance blendAlpha stamps = .ok cast := by
  obtain ⟨chain, went, length⟩ :=
    auto_rounds_same engine anchored intent targetResonance blendAlpha stamps maxDepth.toNat vector [] same
  cases final : chain.getLast? with
  | none =>
      rw [List.getLast?_eq_none_iff.mp final, List.length_nil] at length
      omega
  | some last =>
      refine ⟨(last, chain), ?_⟩
      rw [ResonanceEngine.autoCast, went]
      simp only [bind, Except.bind, final]
      rfl

theorem auto_cast_other (engine : ResonanceEngine) (anchored : Anchored engine) (vector : SemanticVector)
    (intent : Intent) (maxDepth : Int) (targetResonance blendAlpha : ℚ) (stamps : ChainStamps) (some : 1 ≤ maxDepth)
    (other : vector.normalizedBasisVersion ≠ engine.registry.basisVersion) :
    ∃ a b, engine.autoCast vector intent maxDepth targetResonance blendAlpha stamps = .error (basisMismatch a b) := by
  obtain ⟨rounds, depth⟩ : ∃ rounds, maxDepth.toNat = rounds + 1 := ⟨maxDepth.toNat - 1, by omega⟩
  obtain ⟨a, b, refused⟩ := fluid_cast_other engine anchored vector intent (stamps.cast 0) other
  refine ⟨a, b, ?_⟩
  rw [ResonanceEngine.autoCast, depth, ResonanceEngine.autoRounds, List.length_nil, refused]
  rfl

end Vermyth
