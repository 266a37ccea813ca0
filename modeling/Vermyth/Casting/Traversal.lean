import Vermyth.Casting.Store
import Vermyth.Foundation.BreadthFirst

set_option autoImplicit false

namespace Vermyth

open Foundation BreadthFirst

-- What causal_subgraph follows from a node.
def shownEdges (process : CastProcess) (query : CausalQuery) (nodeId : String) : List CausalEdge :=
  (process.queryCausalEdges nodeId query.minWeight).filter (query.Follows nodeId)

-- One step of the while loop; none when the frontier is empty.
def traversalStep (process : CastProcess) (query : CausalQuery) :
    Visited × List (String × Nat) → Option (Visited × List (String × Nat)) :=
  queueStep (fun visited nodeId => visitNeighbors process query (visited, []) nodeId) query.maxDepth

def traversalStart (query : CausalQuery) : Visited × List (String × Nat) :=
  ({ nodes := [query.rootCastId] }, [(query.rootCastId, 0)])

def TraversalRuns (process : CastProcess) (query : CausalQuery) :
    Visited × List (String × Nat) → Visited × List (String × Nat) → Prop :=
  Relation.ReflTransGen fun before after => traversalStep process query before = some after

def answerOf (query : CausalQuery) (visited : Visited) : CausalSubgraph where
  rootCastId := query.rootCastId
  nodes := visited.nodes.insertionSort (· ≤ ·)
  edges := visited.edges.rows
  narrativeCoherence := clampUnit
    (if visited.edges.rows = [] then 0
    else (visited.edges.rows.map CausalEdge.weight).sum / visited.edges.rows.length)
  coherenceRange := clamp_in_unit _

def CausalEdge.Joins (edge : CausalEdge) (nodeId other : String) : Prop :=
  (edge.sourceCastId = nodeId ∧ edge.targetCastId = other) ∨ (edge.targetCastId = nodeId ∧ edge.sourceCastId = other)

def Neighbor (process : CastProcess) (query : CausalQuery) (nodeId other : String) : Prop :=
  ∃ edge ∈ shownEdges process query nodeId, edge.Joins nodeId other

def WithinDepth (process : CastProcess) (query : CausalQuery) (depth : Nat) (nodeId : String) : Prop :=
  Within (Neighbor process query) query.rootCastId depth nodeId

-- The loop ends with the answer, and the answer is the bounded reach of the root.
structure ExactReach (process : CastProcess) (query : CausalQuery) (answer : CausalSubgraph) : Prop where
  ends : ∃ visited, TraversalRuns process query (traversalStart query) (visited, []) ∧ answer = answerOf query visited
  nodes : ∀ nodeId, nodeId ∈ answer.nodes ↔ WithinDepth process query query.maxDepth nodeId
  nodesOnce : answer.nodes.Nodup
  edges : ∀ edge, edge ∈ answer.edges ↔ ∃ nodeId depth, depth < query.maxDepth ∧
    WithinDepth process query depth nodeId ∧ edge ∈ shownEdges process query nodeId
  edgesOnce : (answer.edges.map CausalEdge.edgeId).Nodup
  closed : ∀ edge ∈ answer.edges, edge.sourceCastId ∈ answer.nodes ∧ edge.targetCastId ∈ answer.nodes

theorem join_node_found (nodeId : String) (visited : Visited) (found : List String) :
    joinNode nodeId (visited, found) =
      ((joinNode nodeId (visited, [])).1, found ++ (joinNode nodeId (visited, [])).2) := by
  rw [joinNode, joinNode]
  by_cases known : nodeId ∈ visited.nodes
  · rw [if_pos known, if_pos known, List.append_nil]
  · rw [if_neg known, if_neg known, List.nil_append]

theorem visit_edge_found (edge : CausalEdge) (visited : Visited) (found : List String) :
    visitEdge (visited, found) edge =
      ((visitEdge (visited, []) edge).1, found ++ (visitEdge (visited, []) edge).2) := by
  simp only [visitEdge]
  rw [join_node_found edge.sourceCastId _ found, join_node_found edge.targetCastId _ (found ++ _),
    join_node_found edge.targetCastId _ (joinNode edge.sourceCastId _).2, List.append_assoc]

theorem visit_edges_found (edges : List CausalEdge) (visited : Visited) (found : List String) :
    edges.foldl visitEdge (visited, found) =
      ((edges.foldl visitEdge (visited, [])).1, found ++ (edges.foldl visitEdge (visited, [])).2) := by
  induction edges generalizing visited found with
  | nil => rw [List.foldl_nil, List.foldl_nil, List.append_nil]
  | cons edge rest ih =>
      rw [List.foldl_cons, List.foldl_cons, visit_edge_found edge visited found, ih _ (found ++ _),
        ih _ (visitEdge (visited, []) edge).2, List.append_assoc]

theorem explore_levels (process : CastProcess) (query : CausalQuery) (depths : Nat) (frontier : List String)
    (visited : Visited) :
    explore process query depths frontier visited =
      levels (fun visited nodeId => visitNeighbors process query (visited, []) nodeId) depths frontier visited := by
  have level (frontier : List String) (visited : Visited) (found : List String) :
      frontier.foldl (visitNeighbors process query) (visited, found) =
        ((visitLevel (fun visited nodeId => visitNeighbors process query (visited, []) nodeId) frontier visited).1,
          found ++
            (visitLevel (fun visited nodeId => visitNeighbors process query (visited, []) nodeId) frontier visited).2) := by
    induction frontier generalizing visited found with
    | nil => rw [List.foldl_nil, visitLevel, List.append_nil]
    | cons nodeId rest ih =>
        rw [List.foldl_cons, visitNeighbors, visit_edges_found, ih, List.append_assoc]
        rfl
  induction depths generalizing frontier visited with
  | zero => rfl
  | succ depths ih =>
      rw [explore, level, List.nil_append]
      exact ih _ _

theorem join_node (nodeId : String) (visited : Visited × List String) :
    (joinNode nodeId visited).1.edges = visited.1.edges ∧
      (visited.1.nodes.Nodup → (joinNode nodeId visited).1.nodes.Nodup) ∧
      (∀ other, other ∈ (joinNode nodeId visited).1.nodes ↔ other ∈ visited.1.nodes ∨ other = nodeId) ∧
      ∀ other, other ∈ (joinNode nodeId visited).2 ↔
        other ∈ visited.2 ∨ (other = nodeId ∧ other ∉ visited.1.nodes) := by
  rw [joinNode]
  by_cases known : nodeId ∈ visited.1.nodes
  · rw [if_pos known]
    refine ⟨rfl, id, ?_, ?_⟩
    · intro other
      exact ⟨Or.inl, fun either => either.elim id fun same => same ▸ known⟩
    · intro other
      exact ⟨Or.inl, fun either => either.elim id fun ⟨same, unknown⟩ => absurd (same ▸ known) unknown⟩
  · rw [if_neg known]
    refine ⟨rfl, ?_, ?_, ?_⟩
    · intro once
      exact once.append (List.nodup_singleton nodeId) (List.disjoint_singleton.mpr known)
    · intro other
      rw [List.mem_append, List.mem_singleton]
    · intro other
      rw [List.mem_append, List.mem_singleton]
      constructor
      · rintro (member | rfl)
        · exact Or.inl member
        · exact Or.inr ⟨rfl, known⟩
      · rintro (member | ⟨same, -⟩)
        · exact Or.inl member
        · exact Or.inr same

def CausalEdge.Ends (edge : CausalEdge) (nodeId : String) : Prop :=
  nodeId = edge.sourceCastId ∨ nodeId = edge.targetCastId

theorem visit_edge (edge : CausalEdge) (visited : Visited × List String) :
    (visitEdge visited edge).1.edges = visited.1.edges.upsert edge ∧
      (visited.1.nodes.Nodup → (visitEdge visited edge).1.nodes.Nodup) ∧
      (∀ other, other ∈ (visitEdge visited edge).1.nodes ↔ other ∈ visited.1.nodes ∨ edge.Ends other) ∧
      ∀ other, other ∈ (visitEdge visited edge).2 ↔
        other ∈ visited.2 ∨ (edge.Ends other ∧ other ∉ visited.1.nodes) := by
  rw [visitEdge]
  obtain ⟨edges, once, nodes, found⟩ := join_node edge.sourceCastId
    ({ visited.1 with edges := visited.1.edges.upsert edge }, visited.2)
  obtain ⟨edges', once', nodes', found'⟩ := join_node edge.targetCastId
    (joinNode edge.sourceCastId ({ visited.1 with edges := visited.1.edges.upsert edge }, visited.2))
  refine ⟨edges'.trans edges, fun given => once' (once given), ?_, ?_⟩
  · intro other
    rw [nodes', nodes, or_assoc, CausalEdge.Ends]
  · intro other
    rw [found', found, nodes, CausalEdge.Ends]
    by_cases known : other ∈ visited.1.nodes
    · simp [known]
    · by_cases source : other = edge.sourceCastId <;> simp [known, source]

theorem visit_edges (table : Table CausalEdge.edgeId) (edges : List CausalEdge) (visited : Visited × List String)
    (held : ∀ edge ∈ visited.1.edges.rows, edge ∈ table.rows) (stored : ∀ edge ∈ edges, edge ∈ table.rows) :
    (∀ edge, edge ∈ (edges.foldl visitEdge visited).1.edges.rows ↔ edge ∈ visited.1.edges.rows ∨ edge ∈ edges) ∧
      (visited.1.nodes.Nodup → (edges.foldl visitEdge visited).1.nodes.Nodup) ∧
      (∀ other, other ∈ (edges.foldl visitEdge visited).1.nodes ↔
        other ∈ visited.1.nodes ∨ ∃ edge ∈ edges, edge.Ends other) ∧
      ∀ other, other ∈ (edges.foldl visitEdge visited).2 ↔
        other ∈ visited.2 ∨ ((∃ edge ∈ edges, edge.Ends other) ∧ other ∉ visited.1.nodes) := by
  induction edges generalizing visited with
  | nil => simp
  | cons edge rest ih =>
      obtain ⟨rows, once, nodes, found⟩ := visit_edge edge visited
      have inTable := stored edge List.mem_cons_self
      have upserted (other : CausalEdge) :
          other ∈ (visitEdge visited edge).1.edges.rows ↔ other ∈ visited.1.edges.rows ∨ other = edge := by
        rw [rows, Table.mem_upsert]
        constructor
        · rintro (⟨member, -⟩ | same)
          · exact Or.inl member
          · exact Or.inr same
        · rintro (member | same)
          · by_cases sameId : other.edgeId = edge.edgeId
            · exact Or.inr (table.row_unique other edge (held other member) inTable sameId)
            · exact Or.inl ⟨member, sameId⟩
          · exact Or.inr same
      obtain ⟨rows', once', nodes', found'⟩ := ih (visitEdge visited edge)
        (fun other member => ((upserted other).mp member).elim (held other) fun same => same ▸ inTable)
        fun other member => stored other (List.mem_cons_of_mem _ member)
      refine ⟨?_, fun given => once' (once given), ?_, ?_⟩
      · intro other
        rw [List.foldl_cons, rows', upserted, List.mem_cons, or_assoc]
      · intro other
        rw [List.foldl_cons, nodes', nodes, List.exists_mem_cons_iff, or_assoc]
      · intro other
        rw [List.foldl_cons, found', found, nodes, List.exists_mem_cons_iff]
        tauto

theorem shown_stored (process : CastProcess) (query : CausalQuery) (nodeId : String) (edge : CausalEdge)
    (shown : edge ∈ shownEdges process query nodeId) : edge ∈ process.causalEdges.rows ∧ edge.Ends nodeId := by
  have queried := (List.mem_filter.mp shown).1
  rw [CastProcess.queryCausalEdges] at queried
  obtain ⟨stored, touches⟩ := List.mem_filter.mp ((List.mem_insertionSort _).mp (List.mem_of_mem_take queried))
  refine ⟨stored, ?_⟩
  simp only [Bool.and_eq_true, Bool.or_eq_true, decide_eq_true_eq] at touches
  exact touches.2.imp Eq.symm Eq.symm

theorem joins_ends (edge : CausalEdge) (nodeId other : String) (joins : edge.Joins nodeId other) :
    edge.Ends other := by
  rcases joins with ⟨-, target⟩ | ⟨-, source⟩
  · exact Or.inr target.symm
  · exact Or.inl source.symm

theorem ends_joins (edge : CausalEdge) (nodeId other : String) (isEnd : edge.Ends nodeId) (otherEnd : edge.Ends other) :
    other = nodeId ∨ edge.Joins nodeId other := by
  rcases isEnd with rfl | rfl
  · rcases otherEnd with same | target
    · exact Or.inl same
    · exact Or.inr (Or.inl ⟨rfl, target.symm⟩)
  · rcases otherEnd with source | same
    · exact Or.inr (Or.inr ⟨rfl, source.symm⟩)
    · exact Or.inl same

structure SoundVisit (process : CastProcess) (visited : Visited) : Prop where
  once : visited.nodes.Nodup
  stored : ∀ edge ∈ visited.edges.rows, edge ∈ process.causalEdges.rows

theorem visit_marks (process : CastProcess) (query : CausalQuery) :
    Marks (fun visited nodeId => visitNeighbors process query (visited, []) nodeId) (SoundVisit process)
      (fun visited nodeId => nodeId ∈ visited.nodes) (fun visited edge => edge ∈ visited.edges.rows)
      (Neighbor process query) fun nodeId edge => edge ∈ shownEdges process query nodeId := by
  have spec (visited : Visited) (nodeId : String) (sound : SoundVisit process visited) :=
    visit_edges process.causalEdges (shownEdges process query nodeId) (visited, []) sound.stored
      fun edge shown => (shown_stored process query nodeId edge shown).1
  have ends (visited : Visited) (nodeId other : String) (marked : nodeId ∈ visited.nodes)
      (unseen : other ∉ visited.nodes) :
      (∃ edge ∈ shownEdges process query nodeId, edge.Ends other) ↔ Neighbor process query nodeId other := by
    constructor
    · rintro ⟨edge, shown, isEnd⟩
      have touches := (shown_stored process query nodeId edge shown).2
      rcases ends_joins edge nodeId other touches isEnd with same | joins
      · exact absurd (same ▸ marked) unseen
      · exact ⟨edge, shown, joins⟩
    · rintro ⟨edge, shown, joins⟩
      exact ⟨edge, shown, joins_ends edge nodeId other joins⟩
  constructor
  · intro visited nodeId sound _
    obtain ⟨edges, once, -, -⟩ := spec visited nodeId sound
    refine ⟨once sound.once, ?_⟩
    intro edge member
    rcases (edges edge).mp member with held | shown
    · exact sound.stored edge held
    · exact (shown_stored process query nodeId edge shown).1
  · intro visited nodeId sound marked other
    obtain ⟨-, -, nodes, -⟩ := spec visited nodeId sound
    refine (nodes other).trans ?_
    by_cases seen : other ∈ visited.nodes
    · exact iff_of_true (Or.inl seen) (Or.inl seen)
    · rw [ends visited nodeId other marked seen]
  · intro visited nodeId sound marked other
    obtain ⟨-, -, -, found⟩ := spec visited nodeId sound
    refine (found other).trans ?_
    rw [or_iff_right List.not_mem_nil]
    by_cases seen : other ∈ visited.nodes
    · exact iff_of_false (fun ⟨_, unseen⟩ => unseen seen) fun ⟨_, unseen⟩ => unseen seen
    · rw [ends visited nodeId other marked seen]
  · intro visited nodeId sound _ edge
    obtain ⟨edges, -, -, -⟩ := spec visited nodeId sound
    exact edges edge

theorem causal_subgraph_answer (process : CastProcess) (query : CausalQuery) :
    causalSubgraph process query =
      answerOf query (explore process query query.maxDepth [query.rootCastId] { nodes := [query.rootCastId] }) := rfl

theorem causal_subgraph_exact (process : CastProcess) (query : CausalQuery) :
    ExactReach process query (causalSubgraph process query) := by
  have levels := explore_levels process query query.maxDepth [query.rootCastId] { nodes := [query.rootCastId] }
  obtain ⟨sound, nodes, edges⟩ := levels_exact (visit_marks process query) query.rootCastId query.maxDepth
    { nodes := [query.rootCastId] } ⟨List.nodup_singleton _, fun edge member => absurd member List.not_mem_nil⟩
    (fun nodeId => List.mem_singleton) fun edge => List.not_mem_nil
  rw [← levels] at sound nodes edges
  have inNodes (nodeId : String) : nodeId ∈ (causalSubgraph process query).nodes ↔
      WithinDepth process query query.maxDepth nodeId := by
    rw [causal_subgraph_answer, answerOf, List.mem_insertionSort]
    exact nodes nodeId
  refine ⟨⟨_, ?_, causal_subgraph_answer process query⟩, inNodes, ?_, edges, ?_, ?_⟩
  · rw [levels]
    exact queue_levels _ query.maxDepth query.maxDepth 0 (Nat.zero_add _) [query.rootCastId] _
  · rw [causal_subgraph_answer, answerOf]
    exact (List.perm_insertionSort _ _).nodup_iff.mpr sound.once
  · exact (explore process query query.maxDepth [query.rootCastId] { nodes := [query.rootCastId] }).edges.distinct
  · intro edge member
    obtain ⟨nodeId, depth, below, within, shown⟩ := (edges edge).mp member
    have touches := (shown_stored process query nodeId edge shown).2
    have reached (other : String) (isEnd : edge.Ends other) : other ∈ (causalSubgraph process query).nodes := by
      rw [inNodes]
      apply within_mono _ _ _ (depth + 1) _ below
      rcases ends_joins edge nodeId other touches isEnd with rfl | joins
      · exact within_succ _ _ _ depth within
      · exact .step depth nodeId other within ⟨edge, shown, joins⟩
    exact ⟨reached _ (Or.inl rfl), reached _ (Or.inr rfl)⟩

end Vermyth
