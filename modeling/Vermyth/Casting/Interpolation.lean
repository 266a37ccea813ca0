import Vermyth.Casting.CastRows
import Vermyth.Engine.AutoChain
import Vermyth.Engine.CanonicalSigils
import Vermyth.Engine.Scaling

set_option autoImplicit false

namespace Vermyth

open Foundation

-- weight_by_name[name] = weight_by_name.get(name, 0.0) + w
def addWeight (weights : List (String × ℚ)) (name : String) (weight : ℚ) : List (String × ℚ) :=
  match weights with
  | [] => [(name, 0 + weight)]
  | (other, own) :: rest =>
      if other = name then (other, own + weight) :: rest else (other, own) :: addWeight rest name weight

def weightByName (neighbors : List Weighted) : List (String × ℚ) :=
  neighbors.foldl (fun weights neighbor => addWeight weights neighbor.scored.anchor.raw.name neighbor.weight) []

def netPolarity (components : List ℚ) : Polarity :=
  let net := (components.map fun c => if 1 / 10 ^ 12 < c then (1 : Int) else if c < -(1 / 10 ^ 12) then -1 else 0).sum
  if 0 < net then .positive else if net < 0 then .negative else .neutral

def fingerprintBasis (aspects : AspectSet) (components : List ℚ) : String :=
  "+".intercalate (aspects.names.insertionSort (· ≤ ·)) ++ "|" ++
    ",".intercalate ((components.take 6).map (fixedPoint 6))

-- The digest is the sha256 of a text, as json.dumps writes it.
variable (digest : String → String)

def ResonanceEngine.interpolateWhole (engine : ResonanceEngine) (vector : SemanticVector) (k : Nat) :
    Except PyError WholeSigil := do
  let sigil ← engine.interpolate vector k
  return {
    toResolvedSigil := sigil.toResolvedSigil
    semanticFingerprint := digest (fingerprintBasis sigil.aspects sigil.semanticVector.components)
    polarity := netPolarity sigil.semanticVector.components
    fluid := some {
      sourceVector := sigil.sourceVector
      nearestCanonical := sigil.nearestCanonical
      interpolationWeights := weightByName (engine.neighbors vector k) } }

theorem add_weight_sum (weights : List (String × ℚ)) (name : String) (weight : ℚ) :
    ((addWeight weights name weight).map Prod.snd).sum = (weights.map Prod.snd).sum + weight := by
  induction weights with
  | nil => simp [addWeight]
  | cons first rest ih =>
      rw [addWeight]
      by_cases same : first.1 = name
      · rw [if_pos same, List.map_cons, List.sum_cons, List.map_cons, List.sum_cons]
        ring
      · rw [if_neg same, List.map_cons, List.sum_cons, List.map_cons, List.sum_cons, ih, add_assoc]

theorem add_weight_nonneg (weights : List (String × ℚ)) (name : String) (weight : ℚ) (nonneg : 0 ≤ weight)
    (each : ∀ named ∈ weights, 0 ≤ named.2) : ∀ named ∈ addWeight weights name weight, 0 ≤ named.2 := by
  induction weights with
  | nil =>
      intro named member
      rw [List.mem_singleton.mp member]
      exact add_nonneg le_rfl nonneg
  | cons first rest ih =>
      obtain ⟨own, others⟩ := List.forall_mem_cons.mp each
      rw [addWeight]
      by_cases same : first.1 = name
      · rw [if_pos same]
        exact List.forall_mem_cons.mpr ⟨add_nonneg own nonneg, others⟩
      · rw [if_neg same]
        exact List.forall_mem_cons.mpr ⟨own, ih others⟩

theorem weight_by_name_laws (neighbors : List Weighted) (nonneg : ∀ neighbor ∈ neighbors, 0 ≤ neighbor.weight) :
    (∀ named ∈ weightByName neighbors, 0 ≤ named.2) ∧
      ((weightByName neighbors).map Prod.snd).sum = (neighbors.map Weighted.weight).sum := by
  induction neighbors using List.reverseRecOn with
  | nil => exact ⟨fun named member => absurd member List.not_mem_nil, rfl⟩
  | append_singleton front last ih =>
      obtain ⟨each, total⟩ := ih fun neighbor member => nonneg neighbor (List.mem_append_left _ member)
      have own := nonneg last (List.mem_append_right _ (List.mem_singleton_self last))
      rw [weightByName, List.foldl_append]
      refine ⟨add_weight_nonneg _ _ _ own each, (add_weight_sum _ _ _).trans ?_⟩
      rw [List.map_append, List.sum_append, List.map_singleton, List.sum_singleton]
      exact congrArg (· + last.weight) total

section Neighbors

variable (engine : ResonanceEngine) (vector : SemanticVector) (k : Nat)

def neighborWeight (math : VectorMath) (near : List Scored) (scored : Scored) : ℚ :=
  let sims := near.map Scored.similarity
  math.exp (scored.similarity - sims.max?.getD 0) / (sims.map fun sim => math.exp (sim - sims.max?.getD 0)).sum

theorem weigh_neighbors_map (math : VectorMath) (near : List Scored) :
    weighNeighbors math near = near.map fun scored => { scored, weight := neighborWeight math near scored } := by
  rw [weighNeighbors, softmax, shares, List.map_map, List.map_map]
  have plain : near = near.map id := (List.map_id near).symm
  conv_lhs => arg 2; rw [plain]
  rw [List.zipWith_map, List.zipWith_self]
  rfl

theorem neighbor_weight_pos (math : VectorMath) (near : List Scored) (scored : Scored) (member : scored ∈ near) :
    0 < neighborWeight math near scored := by
  refine div_pos (math.expPos _) (List.sum_pos _ ?_ ?_)
  · intro weight isWeight
    obtain ⟨own, -, rfl⟩ := List.mem_map.mp isWeight
    exact math.expPos _
  · exact List.ne_nil_of_mem (List.mem_map_of_mem (List.mem_map_of_mem member))

theorem neighbor_weight_mono (math : VectorMath) (exps : Monotone math.exp) (near : List Scored) (a b : Scored)
    (less : a.similarity ≤ b.similarity) : neighborWeight math near a ≤ neighborWeight math near b := by
  refine div_le_div_of_nonneg_right (exps (sub_le_sub_right less _)) (List.sum_nonneg ?_)
  intro weight isWeight
  obtain ⟨own, -, rfl⟩ := List.mem_map.mp isWeight
  exact (math.expPos _).le

theorem neighbors_map : engine.neighbors vector k = (nearest k (engine.scores vector)).map fun scored =>
    { scored, weight := neighborWeight engine.math (nearest k (engine.scores vector)) scored } :=
  weigh_neighbors_map engine.math _

theorem neighbors_positive : ∀ neighbor ∈ engine.neighbors vector k, 0 < neighbor.weight := by
  intro neighbor member
  rw [neighbors_map] at member
  obtain ⟨scored, isNear, rfl⟩ := List.mem_map.mp member
  exact neighbor_weight_pos engine.math _ scored isNear

theorem neighbors_total (some : engine.neighbors vector k ≠ []) :
    ((engine.neighbors vector k).map Weighted.weight).sum = 1 := by
  have near : nearest k (engine.scores vector) ≠ [] := by
    intro none
    rw [neighbors_map, none] at some
    exact some rfl
  rw [ResonanceEngine.neighbors, neighbor_weights, softmax]
  refine shares_sum _ (by simpa using near) ?_
  intro weight isWeight
  obtain ⟨sim, -, rfl⟩ := List.mem_map.mp isWeight
  exact engine.math.expPos _

theorem mean_ceiling_map (neighbors : List Weighted) : meanCeiling neighbors =
    (neighbors.map fun neighbor => neighbor.scored.anchor.raw.resonanceCeiling * neighbor.weight).sum := by
  rw [meanCeiling, List.zipWith_map, List.zipWith_self]

def ResonanceEngine.cosineTo (anchor : Anchor) : ℚ :=
  cosine engine.math (fromAspects engine.registry anchor.aspects).components vector.components

theorem similarity_cosine (homogeneous : Homogeneous engine.math.sqrt) (scored : Scored)
    (member : scored ∈ engine.scores vector) : scored.similarity = engine.cosineTo vector scored.anchor := by
  obtain ⟨anchor, -, rfl⟩ := List.mem_map.mp member
  exact unit_cosine engine.math homogeneous _ vector.components

theorem scores_anchors : (engine.scores vector).map Scored.anchor = anchors engine.order engine.composition := by
  rw [ResonanceEngine.scores, List.map_map]
  exact List.map_id _

theorem scores_sorted (scored : List Scored) :
    (scored.insertionSort fun a b => b.similarity ≤ a.similarity).Pairwise fun a b => b.similarity ≤ a.similarity := by
  have total : Std.Total fun a b : Scored => b.similarity ≤ a.similarity := ⟨fun a b => le_total _ _⟩
  have trans : IsTrans Scored fun a b => b.similarity ≤ a.similarity := ⟨fun _ _ _ first second => second.trans first⟩
  exact List.pairwise_insertionSort _ scored

theorem nearest_highest (scored : List Scored) : ∃ rest, scored.Perm (nearest k scored ++ rest) ∧
    ∀ out ∈ rest, ∀ kept ∈ nearest k scored, out.similarity ≤ kept.similarity := by
  have sorted := scores_sorted scored
  refine ⟨(scored.insertionSort fun a b => b.similarity ≤ a.similarity).drop k, ?_, ?_⟩
  · rw [nearest, List.take_append_drop]
    exact (List.perm_insertionSort _ scored).symm
  · rw [← List.take_append_drop k (scored.insertionSort _), List.pairwise_append] at sorted
    exact fun out isOut kept isKept => sorted.2.2 kept isKept out isOut

theorem neighbors_highest (homogeneous : Homogeneous engine.math.sqrt) :
    ∃ rest, (anchors engine.order engine.composition).Perm
        ((engine.neighbors vector k).map (fun neighbor => neighbor.scored.anchor) ++ rest) ∧
      ∀ out ∈ rest, ∀ neighbor ∈ engine.neighbors vector k,
        engine.cosineTo vector out ≤ engine.cosineTo vector neighbor.scored.anchor := by
  obtain ⟨rest, perm, higher⟩ := nearest_highest k (engine.scores vector)
  have chosen : (engine.neighbors vector k).map Weighted.scored = nearest k (engine.scores vector) := by
    rw [ResonanceEngine.neighbors, neighbor_scored]
  refine ⟨rest.map Scored.anchor, ?_, ?_⟩
  · have split := perm.map Scored.anchor
    rw [scores_anchors, List.map_append, ← chosen, List.map_map] at split
    exact split
  · intro out isOut neighbor member
    obtain ⟨scored, isRest, rfl⟩ := List.mem_map.mp isOut
    have isNear : neighbor.scored ∈ nearest k (engine.scores vector) := chosen ▸ List.mem_map_of_mem member
    rw [← similarity_cosine engine vector homogeneous scored (perm.mem_iff.mpr (List.mem_append_right _ isRest)),
      ← similarity_cosine engine vector homogeneous neighbor.scored (perm.mem_iff.mpr (List.mem_append_left _ isNear))]
    exact higher scored isRest neighbor.scored isNear

theorem best_highest (exps : Monotone engine.math.exp) (best : Weighted) (chosen : engine.best vector k = some best) :
    best ∈ engine.neighbors vector k ∧ ∀ scored ∈ engine.scores vector, scored.similarity ≤ best.scored.similarity := by
  refine ⟨List.argmax_mem chosen, ?_⟩
  have sorted := scores_sorted (engine.scores vector)
  have listed := neighbors_map engine vector k
  have perm := List.perm_insertionSort (fun a b : Scored => b.similarity ≤ a.similarity) (engine.scores vector)
  rw [nearest] at listed
  cases ordered : (engine.scores vector).insertionSort fun a b => b.similarity ≤ a.similarity with
  | nil =>
      intro scored member
      rw [ordered] at perm
      exact absurd (perm.mem_iff.mpr member) List.not_mem_nil
  | cons head tail =>
      rw [ordered] at sorted perm listed
      have highest := (List.pairwise_cons.mp sorted).1
      cases k with
      | zero =>
          rw [ResonanceEngine.best, listed] at chosen
          contradiction
      | succ few =>
          have isHead : best.scored = head := by
            rw [ResonanceEngine.best, listed, List.take_succ_cons, List.map_cons, argmax_head] at chosen
            · exact congrArg Weighted.scored (Option.some.inj chosen).symm
            · intro neighbor member
              obtain ⟨scored, isNear, rfl⟩ := List.mem_map.mp member
              exact neighbor_weight_mono engine.math exps _ scored head (highest scored (List.mem_of_mem_take isNear))
          intro scored member
          rw [isHead]
          rcases List.mem_cons.mp (perm.mem_iff.mpr member) with rfl | later
          · exact le_rfl
          · exact highest scored later

theorem neighbors_length : (engine.neighbors vector k).length = min k (anchors engine.order engine.composition).length := by
  rw [neighbors_map, List.length_map, nearest, List.length_take, List.length_insertionSort, ResonanceEngine.scores,
    List.length_map]

end Neighbors

def aspectsOf (neighbors : List Weighted) : Finset String :=
  (neighbors.flatMap fun neighbor => neighbor.scored.anchor.aspects.names).toFinset

theorem members_card (aspects : AspectSet) : aspects.members.card = aspects.names.length :=
  List.toFinset_card_of_nodup aspects.distinct

theorem build_members (order : SetOrder) (names : List String) : (AspectSet.build order names).members = names.toFinset := by
  have walked : (AspectSet.build order names).members = names.dedup.toFinset :=
    List.toFinset_eq_of_perm _ _ (order.permutes names)
  rw [walked]
  exact Finset.ext fun name => by rw [List.mem_toFinset, List.mem_toFinset, List.mem_dedup]

theorem union_members (order : SetOrder) (best : Weighted) (neighbors : List Weighted) :
    (unionAspects order best neighbors).members =
      if (aspectsOf neighbors).card ≤ 3 then aspectsOf neighbors else best.scored.anchor.aspects.members := by
  have own : (AspectSet.build order (neighbors.flatMap fun neighbor => neighbor.scored.anchor.aspects.names)).members =
      aspectsOf neighbors := build_members order _
  have size := members_card (AspectSet.build order
    (neighbors.flatMap fun neighbor => neighbor.scored.anchor.aspects.names))
  rw [own] at size
  rw [unionAspects, size]
  by_cases many : 3 < (AspectSet.build order
      (neighbors.flatMap fun neighbor => neighbor.scored.anchor.aspects.names)).names.length
  · simp only [if_pos many, if_neg (not_le.mpr many)]
  · simp only [if_neg many, if_pos (not_lt.mp many)]
    exact own

-- What interpolate returns is a convex projection onto its neighbors, the
-- anchors of the highest cosines.
structure ConvexProjection (engine : ResonanceEngine) (vector : SemanticVector) (k : Nat) (sigil : WholeSigil)
    (parts : FluidParts) (best : Weighted) : Prop where
  fluid : sigil.fluid = some parts
  size : (engine.neighbors vector k).length = min k (anchors engine.order engine.composition).length
  weights : ∀ named ∈ parts.interpolationWeights, 0 ≤ named.2
  total : (parts.interpolationWeights.map Prod.snd).sum = 1
  shares : ∀ neighbor ∈ engine.neighbors vector k, 0 ≤ neighbor.weight
  shared : ((engine.neighbors vector k).map Weighted.weight).sum = 1
  ceiling : sigil.resonanceCeiling = ((engine.neighbors vector k).map fun neighbor =>
    neighbor.scored.anchor.raw.resonanceCeiling * neighbor.weight).sum
  least : ∀ low, (∀ neighbor ∈ engine.neighbors vector k, low ≤ neighbor.scored.anchor.raw.resonanceCeiling) →
    low ≤ sigil.resonanceCeiling
  most : ∀ high, (∀ neighbor ∈ engine.neighbors vector k, neighbor.scored.anchor.raw.resonanceCeiling ≤ high) →
    sigil.resonanceCeiling ≤ high
  highest : ∃ rest, (anchors engine.order engine.composition).Perm
      ((engine.neighbors vector k).map (fun neighbor => neighbor.scored.anchor) ++ rest) ∧
    ∀ out ∈ rest, ∀ neighbor ∈ engine.neighbors vector k,
      engine.cosineTo vector out ≤ engine.cosineTo vector neighbor.scored.anchor
  chosen : best ∈ engine.neighbors vector k
  nearest : parts.nearestCanonical = best.scored.anchor.raw.name
  maximal : ∀ anchor ∈ anchors engine.order engine.composition,
    engine.cosineTo vector anchor ≤ engine.cosineTo vector best.scored.anchor
  aspects : sigil.aspects.members = if (aspectsOf (engine.neighbors vector k)).card ≤ 3
    then aspectsOf (engine.neighbors vector k) else best.scored.anchor.aspects.members
  sized : sigil.aspects.Sized

def WholeSigil.from (sigil : WholeSigil) (source : SemanticVector) : WholeSigil :=
  { sigil with fluid := sigil.fluid.map fun parts => { parts with sourceVector := source } }

def AnchorsSized (engine : ResonanceEngine) : Prop :=
  ∀ anchor ∈ anchors engine.order engine.composition, anchor.aspects.Sized

theorem interpolate_whole_found (engine : ResonanceEngine) (vector : SemanticVector) (k : Nat) (whole : WholeSigil)
    (made : engine.interpolateWhole digest vector k = .ok whole) :
    ∃ best, engine.best vector k = some best ∧
      whole.aspects = (unionAspects engine.order best (engine.neighbors vector k)).rebuild engine.order ∧
      1 ≤ (unionAspects engine.order best (engine.neighbors vector k)).names.length ∧
      whole.resonanceCeiling = meanCeiling (engine.neighbors vector k) ∧
      whole.fluid = some
        { sourceVector := vector, nearestCanonical := best.scored.anchor.raw.name
          interpolationWeights := weightByName (engine.neighbors vector k) } := by
  obtain ⟨sigil, interpolated, rest⟩ := (bind_ok _ _ _).mp made
  obtain rfl := Except.ok.inj rest
  obtain ⟨-, -, best, chosen, fields⟩ := interpolate_found engine vector k sigil interpolated
  obtain ⟨⟨some, -⟩, rfl⟩ := (fluid_sigil_fields engine _ _ best _ sigil).mp fields
  exact ⟨best, chosen, rfl, some, rfl, rfl⟩

theorem convex_projection (engine : ResonanceEngine) (homogeneous : Homogeneous engine.math.sqrt)
    (exps : Monotone engine.math.exp) (sized : AnchorsSized engine) (vector : SemanticVector) (k : Nat)
    (whole : WholeSigil) (made : engine.interpolateWhole digest vector k = .ok whole) :
    ∃ parts best, ConvexProjection engine vector k whole parts best := by
  obtain ⟨best, chosen, aspects, some, ceiling, fluid⟩ := interpolate_whole_found digest engine vector k whole made
  obtain ⟨isNeighbor, highest⟩ := best_highest engine vector k exps best chosen
  have positive := neighbors_positive engine vector k
  have nonneg : ∀ neighbor ∈ engine.neighbors vector k, 0 ≤ neighbor.weight :=
    fun neighbor member => (positive neighbor member).le
  have total := neighbors_total engine vector k (List.ne_nil_of_mem isNeighbor)
  obtain ⟨weights, sum⟩ := weight_by_name_laws (engine.neighbors vector k) nonneg
  obtain ⟨isScored, isAnchor⟩ := neighbor_anchor engine vector k best isNeighbor
  have members : whole.aspects.members = if (aspectsOf (engine.neighbors vector k)).card ≤ 3
      then aspectsOf (engine.neighbors vector k) else best.scored.anchor.aspects.members := by
    rw [aspects, rebuild_members, union_members]
  refine ⟨_, best,
    { fluid := fluid
      size := neighbors_length engine vector k
      weights := weights
      total := sum.trans total
      shares := nonneg
      shared := total
      ceiling := ceiling.trans (mean_ceiling_map _)
      least := ?_
      most := ?_
      highest := neighbors_highest engine vector k homogeneous
      chosen := isNeighbor
      nearest := rfl
      maximal := ?_
      aspects := members
      sized := ?_ }⟩
  · intro low above
    rw [ceiling, mean_ceiling_map]
    exact mean_least _ _ _ low above nonneg total
  · intro high below
    rw [ceiling, mean_ceiling_map]
    exact mean_most _ _ _ high below nonneg total
  · intro anchor member
    rw [← scores_anchors engine vector] at member
    obtain ⟨scored, inScores, rfl⟩ := List.mem_map.mp member
    rw [← similarity_cosine engine vector homogeneous scored inScores,
      ← similarity_cosine engine vector homogeneous best.scored isScored]
    exact highest scored inScores
  · have card := members_card whole.aspects
    refine ⟨?_, ?_⟩
    · rw [← card, aspects, rebuild_members, members_card]
      exact some
    · rw [← card, members]
      by_cases few : (aspectsOf (engine.neighbors vector k)).card ≤ 3
      · rwa [if_pos few]
      · rw [if_neg few, members_card]
        exact (sized _ isAnchor).2

section Scale

variable (engine : ResonanceEngine) (homogeneous : Homogeneous engine.math.sqrt) (vector : SemanticVector) (scale : ℚ)
  (positive : 0 < scale)

include homogeneous positive

theorem normalize_unit_scaled : CompositionEngine.normalizeUnit engine.math (vector.scaledBy scale) =
    CompositionEngine.normalizeUnit engine.math vector := by
  have same := unit_scaled engine.math homogeneous scale positive vector.components
  unfold CompositionEngine.normalizeUnit
  congr 1

theorem neighbors_scaled (k : Nat) : engine.neighbors (vector.scaledBy scale) k = engine.neighbors vector k := by
  rw [ResonanceEngine.neighbors, ResonanceEngine.scores, normalize_unit_scaled engine homogeneous vector scale positive]
  rfl

omit homogeneous positive in
theorem fluid_sigil_source (source vec : SemanticVector) (best : Weighted) (neighbors : List Weighted) :
    FluidSigil.make engine source vec best neighbors = (FluidSigil.make engine vector vec best neighbors).map
      fun sigil => { sigil with sourceVector := source } := by
  rw [FluidSigil.make, FluidSigil.make]
  split_ifs <;> rfl

theorem interpolate_scaled (k : Nat) : engine.interpolate (vector.scaledBy scale) k =
    (engine.interpolate vector k).map fun sigil => { sigil with sourceVector := vector.scaledBy scale } := by
  simp only [ResonanceEngine.interpolate, normalize_unit_scaled engine homogeneous vector scale positive]
  by_cases few : k < 1
  · rw [if_pos few, if_pos few]
    rfl
  · rw [if_neg few, if_neg few]
    cases (anchors engine.order engine.composition).mapM
        (scoreAnchor engine.math engine.registry (CompositionEngine.normalizeUnit engine.math vector)) with
    | error raised => rfl
    | ok scored =>
        simp only
        cases (weighNeighbors engine.math (nearest k scored)).argmax Weighted.weight with
        | none => rfl
        | some best => exact fluid_sigil_source engine vector _ _ best _

theorem interpolate_whole_scaled (k : Nat) : engine.interpolateWhole digest (vector.scaledBy scale) k =
    (engine.interpolateWhole digest vector k).map fun whole => whole.from (vector.scaledBy scale) := by
  rw [ResonanceEngine.interpolateWhole, ResonanceEngine.interpolateWhole,
    interpolate_scaled engine homogeneous vector scale positive,
    neighbors_scaled engine homogeneous vector scale positive]
  cases engine.interpolate vector k <;> rfl

end Scale

theorem interpolate_convex (engine : ResonanceEngine) (homogeneous : Homogeneous engine.math.sqrt)
    (exps : Monotone engine.math.exp) (sized : AnchorsSized engine) (vector : SemanticVector) (k : Nat) :
    (∀ whole, engine.interpolateWhole digest vector k = .ok whole →
      ∃ parts best, ConvexProjection engine vector k whole parts best) ∧
    ∀ scale : ℚ, 0 < scale → engine.interpolateWhole digest (vector.scaledBy scale) k =
      (engine.interpolateWhole digest vector k).map fun whole => whole.from (vector.scaledBy scale) :=
  ⟨convex_projection digest engine homogeneous exps sized vector k,
    fun scale positive => interpolate_whole_scaled digest engine homogeneous vector scale positive k⟩

-- The sigils of the data files over exact roots: only the anchors of one aspect
-- have a cosine there that is not zero, so that the others tie.
def shippedExact : ResonanceEngine := { lowCeiling with math := exactMath, composition := canonicalComposition }

theorem shipped_sized : AnchorsSized shippedExact := by
  have sizes : ∀ anchor ∈ anchors shippedExact.order shippedExact.composition,
      1 ≤ anchor.aspects.names.length ∧ anchor.aspects.names.length ≤ 3 := by
    decide +kernel
  exact fun anchor member => sizes anchor member

theorem shipped_three :
    (shippedExact.interpolateWhole id tilted 3).toOption.any (fun whole => whole.aspects.names.length = 2) = true := by
  decide +kernel

theorem shipped_six :
    (shippedExact.interpolateWhole id tilted 6).toOption.any (fun whole => whole.aspects.names.length = 1) = true := by
  decide +kernel

-- The nearest three have two aspects between them. The nearest six have more
-- than three, and the sigil has those of the best.
theorem interpolate_convex_shipped :
    (∃ whole parts best, shippedExact.interpolateWhole id tilted 3 = .ok whole ∧ whole.aspects.names.length = 2 ∧
      ConvexProjection shippedExact tilted 3 whole parts best ∧
      shippedExact.interpolateWhole id (tilted.scaledBy 5) 3 = .ok (whole.from (tilted.scaledBy 5))) ∧
    ∃ whole parts best, shippedExact.interpolateWhole id tilted 6 = .ok whole ∧ whole.aspects.names.length = 1 ∧
      ConvexProjection shippedExact tilted 6 whole parts best ∧
      shippedExact.interpolateWhole id (tilted.scaledBy 5) 6 = .ok (whole.from (tilted.scaledBy 5)) := by
  have projected (k : Nat) (few : AspectSet → Bool) (ran : (shippedExact.interpolateWhole id tilted k).toOption.any
      (fun whole => few whole.aspects) = true) :
      ∃ whole parts best, shippedExact.interpolateWhole id tilted k = .ok whole ∧ few whole.aspects = true ∧
        ConvexProjection shippedExact tilted k whole parts best ∧
        shippedExact.interpolateWhole id (tilted.scaledBy 5) k = .ok (whole.from (tilted.scaledBy 5)) := by
    obtain ⟨projects, scales⟩ := interpolate_convex id shippedExact exact_root_homogeneous rising_exp_monotone
      shipped_sized tilted k
    obtain ⟨whole, made, counted⟩ := ok_where _ _ ran
    obtain ⟨parts, best, projection⟩ := projects whole made
    refine ⟨whole, parts, best, made, counted, projection, ?_⟩
    rw [scales 5 (by decide +kernel), made]
    rfl
  constructor
  · obtain ⟨whole, parts, best, made, two, rest⟩ := projected 3 (fun aspects => aspects.names.length = 2) shipped_three
    exact ⟨whole, parts, best, made, of_decide_eq_true two, rest⟩
  · obtain ⟨whole, parts, best, made, one, rest⟩ := projected 6 (fun aspects => aspects.names.length = 1) shipped_six
    exact ⟨whole, parts, best, made, of_decide_eq_true one, rest⟩

end Vermyth
