import Vermyth.Engine.Receipts
import Vermyth.Foundation.LeastOrder

set_option autoImplicit false

namespace Vermyth

open Foundation

structure CanonicalOrder (program : SemanticProgram) (order : List String) : Prop where
  whole : order.Perm program.nodeIds
  sorted : TopoSorted program.Edge order
  least : ∀ other : List String, other.Perm program.nodeIds → TopoSorted program.Edge other → order ≤ other

structure SameGraph (program other : SemanticProgram) : Prop where
  nodes : ∀ nodeId, nodeId ∈ program.nodeIds ↔ nodeId ∈ other.nodeIds
  edges : ∀ source target, program.Edge source target ↔ other.Edge source target

theorem linked_predecessors (program : SemanticProgram) (predecessors : Predecessors)
    (linked : linkNodes program.nodeIds unknownSuccessor program.nodes (fun _ => []) = .ok predecessors) :
    program.Closed ∧ predecessors = program.predecessors := by
  have closed : program.Closed := link_nodes_ok _ _ _ _ _ linked
  exact ⟨closed, Except.ok.inj (linked.symm.trans (link_nodes_closed program closed))⟩

theorem arc_edge (program : SemanticProgram) : Arc program.nodeIds program.successors = program.Edge :=
  funext fun source => funext fun target => propext (arc_iff_edge program source target)

section Order

variable (program : SemanticProgram) (closed : program.Closed)

include closed

theorem order_acyclic (acyclic : ¬ Cyclic program.Edge) :
    topologicalOrder program program.predecessors = .ok program.order := by
  rcases topological_order_cases program closed with cyclic | ⟨ordered, -⟩
  · rw [← arc_edge] at acyclic
    have whole := kahn_acyclic program.nodeIds program.successors (arc_closed program closed)
      (fun nodeId => ((program.predecessors nodeId).length : Int)) program.distinctIds (indegree_counts program) acyclic
    simp only [topologicalOrder] at cyclic
    rw [if_neg (by simpa [SemanticProgram.nodeIds] using whole)] at cyclic
    contradiction
  · exact ordered

theorem sorted_acyclic (order : List String) (whole : order.Perm program.nodeIds)
    (sorted : TopoSorted program.Edge order) : ¬ Cyclic program.Edge := by
  rintro ⟨nodeId, loop⟩
  refine topo_sorted_no_loop order sorted nodeId (whole.mem_iff.mpr ?_) loop
  obtain ⟨source, -, node, member, -, link⟩ := Relation.TransGen.tail'_iff.mp loop
  exact closed node member nodeId link

theorem order_cyclic_iff :
    topologicalOrder program program.predecessors = .error (.valueError "semantic program contains a cycle") ↔
      Cyclic program.Edge := by
  rcases topological_order_cases program closed with cyclic | ⟨ordered, acyclic⟩
  · refine iff_of_true cyclic ?_
    by_contra acyclic
    rw [order_acyclic program closed acyclic] at cyclic
    contradiction
  · refine iff_of_false ?_ (sorted_acyclic program closed program.order acyclic.complete acyclic.sorted)
    rw [ordered]
    exact fun same => by cases same

theorem order_canonical (acyclic : program.Acyclic) : CanonicalOrder program program.order where
  whole := acyclic.complete
  sorted := acyclic.sorted
  least := by
    intro other whole sorted
    rw [← arc_edge] at sorted
    exact kahn_least program.nodeIds program.successors (arc_closed program closed)
      (fun nodeId => ((program.predecessors nodeId).length : Int)) program.distinctIds (indegree_counts program) other
      whole sorted

theorem order_ok_iff (order : List String) :
    topologicalOrder program program.predecessors = .ok order ↔ CanonicalOrder program order := by
  constructor
  · intro ok
    rcases topological_order_cases program closed with cyclic | ⟨ordered, acyclic⟩
    · rw [cyclic] at ok
      contradiction
    · obtain rfl := Except.ok.inj (ordered.symm.trans ok)
      exact order_canonical program closed acyclic
  · intro canonical
    rw [order_acyclic program closed (sorted_acyclic program closed order canonical.whole canonical.sorted)]
    rcases topological_order_cases program closed with cyclic | ⟨-, acyclic⟩
    · have loop := (order_cyclic_iff program closed).mp cyclic
      exact absurd loop (sorted_acyclic program closed order canonical.whole canonical.sorted)
    · have own := order_canonical program closed acyclic
      exact congrArg Except.ok (le_antisymm (own.least order canonical.whole canonical.sorted)
        (canonical.least program.order own.whole own.sorted))

end Order

theorem same_graph_canonical (program other : SemanticProgram) (same : SameGraph program other) (order : List String)
    (canonical : CanonicalOrder program order) : CanonicalOrder other order := by
  have edges : program.Edge = other.Edge := funext fun source => funext fun target => propext (same.edges source target)
  have nodes : program.nodeIds.Perm other.nodeIds :=
    (List.perm_ext_iff_of_nodup program.distinctIds other.distinctIds).mpr same.nodes
  refine ⟨canonical.whole.trans nodes, edges ▸ canonical.sorted, ?_⟩
  intro another whole sorted
  exact canonical.least another (whole.trans nodes.symm) (edges ▸ sorted)

theorem topological_order_canonical (program : SemanticProgram) (predecessors : Predecessors)
    (linked : linkNodes program.nodeIds unknownSuccessor program.nodes (fun _ => []) = .ok predecessors) :
    (∀ extra : Nat, kahnLoop program.successors (program.nodeIds.length + extra)
        (fun nodeId => (predecessors nodeId).length)
        (startReady program.nodeIds fun nodeId => (predecessors nodeId).length) [] = program.order) ∧
    (topologicalOrder program predecessors = .error (.valueError "semantic program contains a cycle") ↔
      Cyclic program.Edge) ∧
    (∀ order, topologicalOrder program predecessors = .ok order ↔ CanonicalOrder program order) ∧
    (Cyclic program.Edge ∨ ∃ order, topologicalOrder program predecessors = .ok order) ∧
    ∀ (other : SemanticProgram) (listed : Predecessors),
      linkNodes other.nodeIds unknownSuccessor other.nodes (fun _ => []) = .ok listed → SameGraph program other →
        topologicalOrder other listed = topologicalOrder program predecessors := by
  obtain ⟨closed, rfl⟩ := linked_predecessors program predecessors linked
  refine ⟨?_, order_cyclic_iff program closed, order_ok_iff program closed, ?_, ?_⟩
  · intro extra
    exact kahn_loop_ends program.nodeIds program.successors (arc_closed program closed) program.nodeIds.length extra _ _
      [] (relaxing_start program.nodeIds program.successors _ program.distinctIds (indegree_counts program)) (by simp)
  · by_cases cyclic : Cyclic program.Edge
    · exact Or.inl cyclic
    · exact Or.inr ⟨_, order_acyclic program closed cyclic⟩
  · intro other listed again same
    obtain ⟨alsoClosed, rfl⟩ := linked_predecessors other listed again
    have edges : program.Edge = other.Edge :=
      funext fun source => funext fun target => propext (same.edges source target)
    rcases topological_order_cases program closed with cyclic | ⟨ordered, acyclic⟩
    · have loop := (order_cyclic_iff program closed).mp cyclic
      rw [cyclic]
      exact (order_cyclic_iff other alsoClosed).mpr (edges ▸ loop)
    · rw [ordered]
      exact (order_ok_iff other alsoClosed _).mpr
        (same_graph_canonical program other same _ (order_canonical program closed acyclic))

def doubled : SemanticProgram where
  programId := "doubled"
  nodes := [castOf "b" ["a", "a"], castOf "c" [], castOf "a" []]
  entryNodeIds := ["a"]
  nodesNonempty := by simp
  entriesNonempty := entered
  distinctIds := by decide
  entriesKnown := by decide

def relisted : SemanticProgram where
  programId := "relisted"
  nodes := [castOf "c" [], castOf "a" [], castOf "b" ["a"]]
  entryNodeIds := ["a"]
  nodesNonempty := by simp
  entriesNonempty := entered
  distinctIds := by decide
  entriesKnown := by decide

theorem relisted_same : SameGraph doubled relisted := by
  constructor
  · intro nodeId
    simp only [SemanticProgram.nodeIds, doubled, relisted, castOf, List.map_cons, List.map_nil, List.mem_cons]
    tauto
  · intro source target
    simp [SemanticProgram.Edge, doubled, relisted, castOf]

theorem topological_order_doubled : CanonicalOrder doubled ["b", "a", "c"] ∧
    topologicalOrder relisted relisted.predecessors = topologicalOrder doubled doubled.predecessors := by
  have linked := link_nodes_closed doubled (by
    rw [SemanticProgram.Closed]
    decide)
  have again := link_nodes_closed relisted (by
    rw [SemanticProgram.Closed]
    decide)
  obtain ⟨-, -, ordered, -, listed⟩ := topological_order_canonical doubled doubled.predecessors linked
  exact ⟨(ordered _).mp (by decide +kernel), listed relisted relisted.predecessors again relisted_same⟩

end Vermyth
