import Vermyth.Casting.EdgeFilters

set_option autoImplicit false

namespace Vermyth

open Foundation

def meanWeight (edges : List CausalEdge) : ℚ := (edges.map CausalEdge.weight).sum / edges.length

-- The score that causal_subgraph keeps of its edges.
def subgraphNarrative (edges : List CausalEdge) : ℚ :=
  clampUnit (if edges = [] then 0 else (edges.map CausalEdge.weight).sum / edges.length)

structure CausalEdge.Opposes (inhibitor cause : CausalEdge) : Prop where
  inhibits : inhibitor.edgeType = .inhibits
  source : inhibitor.sourceCastId = cause.sourceCastId
  target : inhibitor.targetCastId = cause.targetCastId
  weight : inhibitor.weight = cause.weight

structure OneNarrative (answer : CausalSubgraph) : Prop where
  agrees : answer.narrativeCoherence = evaluateNarrative answer.edges
  ranges : InUnit answer.narrativeCoherence ∧ InUnit (evaluateNarrative answer.edges)
  ordered : ∀ edges, edges.Perm answer.edges →
    subgraphNarrative edges = answer.narrativeCoherence ∧ evaluateNarrative edges = evaluateNarrative answer.edges
  opposed : ∀ cause ∈ answer.edges, cause.edgeType = .causes → ∀ inhibitor : CausalEdge, inhibitor.Opposes cause →
    subgraphNarrative (inhibitor :: answer.edges) ≤ answer.narrativeCoherence ∧
      evaluateNarrative (inhibitor :: answer.edges) ≤ evaluateNarrative answer.edges

def contradictions (edges : List CausalEdge) : Nat := ((edgePairs edges).filter (contradicted edges)).length

def narrativePenalty (edges : List CausalEdge) : ℚ := contradictions edges / max 1 (edgePairs edges).length

theorem subgraph_narrative (process : CastProcess) (query : CausalQuery) :
    (causalSubgraph process query).narrativeCoherence = subgraphNarrative (causalSubgraph process query).edges := rfl

theorem weights_in_unit (edges : List CausalEdge) :
    0 ≤ (edges.map CausalEdge.weight).sum ∧ (edges.map CausalEdge.weight).sum ≤ edges.length := by
  induction edges with
  | nil => simp
  | cons edge rest ih =>
      obtain ⟨low, high⟩ := edge.weightRange
      rw [List.map_cons, List.sum_cons, List.length_cons, Nat.cast_add, Nat.cast_one]
      constructor <;> linarith [ih.1, ih.2]

theorem mean_weight_in_unit (edges : List CausalEdge) : InUnit (meanWeight edges) := by
  obtain ⟨low, high⟩ := weights_in_unit edges
  exact ⟨div_nonneg low (Nat.cast_nonneg _), div_le_one_of_le₀ high (Nat.cast_nonneg _)⟩

theorem subgraph_narrative_mean (edges : List CausalEdge) : subgraphNarrative edges = meanWeight edges := by
  have mean : (if edges = [] then 0 else (edges.map CausalEdge.weight).sum / edges.length) = meanWeight edges := by
    by_cases empty : edges = []
    · rw [if_pos empty, meanWeight, empty, List.map_nil, List.sum_nil, zero_div]
    · rw [if_neg empty, meanWeight]
  rw [subgraphNarrative, mean, clamp_of_unit _ (mean_weight_in_unit edges)]

theorem contradictions_le (edges : List CausalEdge) : contradictions edges ≤ (edgePairs edges).length :=
  List.length_filter_le _ _

theorem penalty_in_unit (edges : List CausalEdge) : InUnit (narrativePenalty edges) := by
  refine ⟨div_nonneg (Nat.cast_nonneg _) (Nat.cast_nonneg _), div_le_one_of_le₀ ?_ (Nat.cast_nonneg _)⟩
  exact Nat.cast_le.mpr ((contradictions_le edges).trans (le_max_right 1 _))

theorem evaluate_narrative_mean (edges : List CausalEdge) :
    evaluateNarrative edges = meanWeight edges * (1 - 1 / 2 * narrativePenalty edges) := by
  obtain ⟨low, high⟩ := penalty_in_unit edges
  obtain ⟨meanLow, meanHigh⟩ := mean_weight_in_unit edges
  have damped : InUnit (meanWeight edges * (1 - 1 / 2 * narrativePenalty edges)) := by
    refine ⟨mul_nonneg meanLow (by linarith), ?_⟩
    exact mul_le_one₀ meanHigh (by linarith) (by linarith)
  by_cases empty : edges = []
  · rw [empty, evaluateNarrative, if_pos rfl, meanWeight, List.map_nil, List.sum_nil, zero_div, zero_mul]
  · rw [evaluateNarrative, if_neg empty]
    change clampUnit (meanWeight edges * (1 - 1 / 2 * min 1 (narrativePenalty edges))) = _
    rw [min_eq_right high, clamp_of_unit _ damped]

theorem no_contradictions (edges : List CausalEdge) :
    narrativePenalty edges = 0 ↔ ∀ pair ∈ edgePairs edges, contradicted edges pair = false := by
  have positive : ((max 1 (edgePairs edges).length : Nat) : ℚ) ≠ 0 :=
    Nat.cast_ne_zero.mpr (lt_of_lt_of_le zero_lt_one (le_max_left 1 _)).ne'
  rw [narrativePenalty, div_eq_zero_iff, or_iff_left positive, Nat.cast_eq_zero, contradictions,
    List.length_eq_zero_iff, List.filter_eq_nil_iff]
  simp only [Bool.not_eq_true]

theorem weightless (edges : List CausalEdge) : meanWeight edges = 0 ↔ ∀ edge ∈ edges, edge.weight = 0 := by
  constructor
  · intro none_ edge member
    have some_ : (edges.length : ℚ) ≠ 0 := Nat.cast_ne_zero.mpr (List.length_pos_of_mem member).ne'
    have total : (edges.map CausalEdge.weight).sum = 0 := (div_eq_zero_iff.mp none_).resolve_right some_
    have most : edge.weight ≤ (edges.map CausalEdge.weight).sum := by
      refine List.single_le_sum ?_ _ (List.mem_map_of_mem member)
      intro weight isWeight
      obtain ⟨own, -, rfl⟩ := List.mem_map.mp isWeight
      exact own.weightRange.1
    exact le_antisymm (total ▸ most) edge.weightRange.1
  · intro all
    rw [meanWeight, List.sum_eq_zero, zero_div]
    intro weight isWeight
    obtain ⟨own, member, rfl⟩ := List.mem_map.mp isWeight
    exact all own member

theorem agrees_iff (edges : List CausalEdge) : subgraphNarrative edges = evaluateNarrative edges ↔
    (∀ edge ∈ edges, edge.weight = 0) ∨ ∀ pair ∈ edgePairs edges, contradicted edges pair = false := by
  rw [← weightless, ← no_contradictions, subgraph_narrative_mean, evaluate_narrative_mean]
  constructor
  · intro same
    have damped : meanWeight edges * narrativePenalty edges = 0 := by linarith
    exact mul_eq_zero.mp damped
  · rintro (none_ | none_)
    · rw [none_, zero_mul]
    · rw [none_, mul_zero, sub_zero, mul_one]

theorem evaluate_le_subgraph (edges : List CausalEdge) : evaluateNarrative edges ≤ subgraphNarrative edges := by
  rw [subgraph_narrative_mean, evaluate_narrative_mean]
  exact mul_le_of_le_one_right (mean_weight_in_unit edges).1 (by linarith [(penalty_in_unit edges).1])

theorem mean_weight_perm (edges others : List CausalEdge) (same : edges.Perm others) :
    meanWeight edges = meanWeight others := by
  rw [meanWeight, meanWeight, (same.map CausalEdge.weight).sum_eq, same.length_eq]

theorem contradicted_perm (edges others : List CausalEdge) (same : edges.Perm others) (pair : String × String) :
    contradicted edges pair = contradicted others pair := by
  have each (kind : CausalEdgeType) : (edges.any fun edge =>
      edge.sourceCastId = pair.1 ∧ edge.targetCastId = pair.2 ∧ edge.edgeType = kind) =
        others.any fun edge => edge.sourceCastId = pair.1 ∧ edge.targetCastId = pair.2 ∧ edge.edgeType = kind :=
    same.any_eq
  simp only [contradicted, each]

theorem edge_pairs_perm (edges others : List CausalEdge) (same : edges.Perm others) :
    (edgePairs edges).Perm (edgePairs others) :=
  (same.map fun edge : CausalEdge => (edge.sourceCastId, edge.targetCastId)).dedup

theorem penalty_perm (edges others : List CausalEdge) (same : edges.Perm others) :
    narrativePenalty edges = narrativePenalty others := by
  have pairs := edge_pairs_perm edges others same
  have counted : contradictions edges = contradictions others := by
    rw [contradictions, contradictions, funext (contradicted_perm edges others same)]
    exact (pairs.filter _).length_eq
  rw [narrativePenalty, narrativePenalty, counted, pairs.length_eq]

theorem mean_weight_cons (edge : CausalEdge) (edges : List CausalEdge) (some_ : edges ≠ []) :
    meanWeight (edge :: edges) ≤ meanWeight edges ↔ edge.weight ≤ meanWeight edges := by
  have count : (0 : ℚ) < edges.length := Nat.cast_pos.mpr (List.length_pos_iff.mpr some_)
  rw [meanWeight, meanWeight, List.map_cons, List.sum_cons, List.length_cons, Nat.cast_add, Nat.cast_one,
    div_le_div_iff₀ (by linarith) count, le_div_iff₀ count]
  constructor <;> intro below <;> linarith

theorem opposed_pairs (edges : List CausalEdge) (cause inhibitor : CausalEdge) (member : cause ∈ edges)
    (opposes : inhibitor.Opposes cause) : edgePairs (inhibitor :: edges) = edgePairs edges := by
  rw [edgePairs, List.map_cons, opposes.source, opposes.target]
  exact List.dedup_cons_of_mem (List.mem_map_of_mem (f := fun edge => (edge.sourceCastId, edge.targetCastId)) member)

theorem contradicted_more (edge : CausalEdge) (edges : List CausalEdge) (pair : String × String)
    (already : contradicted edges pair) : contradicted (edge :: edges) pair := by
  simp only [contradicted, List.all_cons, List.all_nil, Bool.and_true, Bool.and_eq_true, List.any_cons,
    Bool.or_eq_true] at already ⊢
  exact ⟨Or.inr already.1, Or.inr already.2⟩

theorem opposed_penalty (edges : List CausalEdge) (cause inhibitor : CausalEdge) (member : cause ∈ edges)
    (opposes : inhibitor.Opposes cause) : narrativePenalty edges ≤ narrativePenalty (inhibitor :: edges) := by
  have pairs := opposed_pairs edges cause inhibitor member opposes
  have counted : contradictions edges ≤ contradictions (inhibitor :: edges) := by
    rw [contradictions, contradictions, pairs]
    exact (List.monotone_filter_right _ fun pair => contradicted_more inhibitor edges pair).length_le
  rw [narrativePenalty, narrativePenalty, pairs]
  exact div_le_div_of_nonneg_right (Nat.cast_le.mpr counted) (Nat.cast_nonneg _)

theorem opposed_lower (edges : List CausalEdge) (cause inhibitor : CausalEdge) (member : cause ∈ edges)
    (opposes : inhibitor.Opposes cause) (light : cause.weight ≤ meanWeight edges) :
    subgraphNarrative (inhibitor :: edges) ≤ subgraphNarrative edges ∧
      evaluateNarrative (inhibitor :: edges) ≤ evaluateNarrative edges := by
  have mean : meanWeight (inhibitor :: edges) ≤ meanWeight edges :=
    (mean_weight_cons inhibitor edges (List.ne_nil_of_mem member)).mpr (opposes.weight ▸ light)
  have penalty := opposed_penalty edges cause inhibitor member opposes
  have high := (penalty_in_unit (inhibitor :: edges)).2
  rw [subgraph_narrative_mean, subgraph_narrative_mean, evaluate_narrative_mean, evaluate_narrative_mean]
  exact ⟨mean, mul_le_mul mean (by linarith) (by linarith) (mean_weight_in_unit edges).1⟩

theorem one_narrative (answer : CausalSubgraph) (stored : answer.narrativeCoherence = subgraphNarrative answer.edges) :
    OneNarrative answer ↔
      ((∀ edge ∈ answer.edges, edge.weight = 0) ∨
        ∀ pair ∈ edgePairs answer.edges, contradicted answer.edges pair = false) ∧
      ∀ cause ∈ answer.edges, cause.edgeType = .causes → cause.weight ≤ meanWeight answer.edges := by
  constructor
  · intro one
    refine ⟨(agrees_iff answer.edges).mp (stored ▸ one.agrees), ?_⟩
    intro cause member causes
    have lower := (one.opposed cause member causes { cause with edgeType := .inhibits } ⟨rfl, rfl, rfl, rfl⟩).1
    rw [stored, subgraph_narrative_mean, subgraph_narrative_mean] at lower
    exact (mean_weight_cons _ answer.edges (List.ne_nil_of_mem member)).mp lower
  · rintro ⟨agree, light⟩
    refine ⟨?_, ⟨answer.coherenceRange, narrative_in_unit answer.edges⟩, ?_, ?_⟩
    · rw [stored]
      exact (agrees_iff answer.edges).mpr agree
    · intro edges same
      rw [stored, subgraph_narrative_mean, subgraph_narrative_mean, evaluate_narrative_mean, evaluate_narrative_mean,
        mean_weight_perm edges answer.edges same, penalty_perm edges answer.edges same]
      exact ⟨rfl, rfl⟩
    · intro cause member causes inhibitor opposes
      rw [stored]
      exact opposed_lower answer.edges cause inhibitor member opposes (light cause member causes)

theorem one_narrative_iff (process : CastProcess) (query : CausalQuery) :
    OneNarrative (causalSubgraph process query) ↔
      ((∀ edge ∈ (causalSubgraph process query).edges, edge.weight = 0) ∨
        ∀ pair ∈ edgePairs (causalSubgraph process query).edges,
          contradicted (causalSubgraph process query).edges pair = false) ∧
      ∀ cause ∈ (causalSubgraph process query).edges, cause.edgeType = .causes →
        cause.weight ≤ meanWeight (causalSubgraph process query).edges :=
  one_narrative (causalSubgraph process query) (subgraph_narrative process query)

def inhibitingEdge : CausalEdge := edgeNamed "inhibit" "effect" .inhibits sampleTime

def idleEdge (name : String) : CausalEdge where
  edgeId := name
  sourceCastId := "root"
  targetCastId := name
  edgeType := .enables
  weight := 0
  createdAt := sampleTime
  weightRange := zero_in_unit

def opposedTable : Table CausalEdge.edgeId where
  rows := [causingEdge, inhibitingEdge]
  distinct := by decide

def idleTable : Table CausalEdge.edgeId where
  rows := [causingEdge, idleEdge "left", idleEdge "right"]
  distinct := by decide

def opposedRoot : CastProcess := { newProcess {} with causalEdges := opposedTable }
def idleRoot : CastProcess := { newProcess {} with causalEdges := idleTable }

-- The stored score is twice the other one, and an edge that opposes the one
-- weighty edge of three raises both.
theorem narratives_disagree :
    (causalSubgraph opposedRoot { rootCastId := "root" }).narrativeCoherence = 1 ∧
      evaluateNarrative (causalSubgraph opposedRoot { rootCastId := "root" }).edges = 1 / 2 ∧
      inhibitingEdge.Opposes causingEdge ∧
      (causalSubgraph idleRoot { rootCastId := "root" }).narrativeCoherence = 1 / 3 ∧
      subgraphNarrative (inhibitingEdge :: (causalSubgraph idleRoot { rootCastId := "root" }).edges) = 1 / 2 ∧
      evaluateNarrative (causalSubgraph idleRoot { rootCastId := "root" }).edges = 1 / 3 ∧
      evaluateNarrative (inhibitingEdge :: (causalSubgraph idleRoot { rootCastId := "root" }).edges) = 5 / 12 := by
  refine ⟨?_, ?_, ⟨rfl, rfl, rfl, rfl⟩, ?_, ?_, ?_, ?_⟩ <;> decide +kernel

end Vermyth
