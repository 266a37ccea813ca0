import Mathlib.Data.String.Basic
import Vermyth.Engine.ProgramValidation
import Vermyth.Foundation.Kahn

set_option autoImplicit false

namespace Vermyth

open Foundation

-- nodes[cur].successors; cur is always the id of a node.
def SemanticProgram.successors (program : SemanticProgram) (nodeId : String) : List String :=
  ((program.node? nodeId).map CastNode.successors).getD []

def SemanticProgram.Edge (program : SemanticProgram) (source target : String) : Prop :=
  ∃ node ∈ program.nodes, node.nodeId = source ∧ target ∈ node.successors

abbrev Predecessors := String → List String

-- predecessors[succ].append(node.node_id); the callers differ in what an unknown successor raises.
def linkSuccessors (known : List String) (missing : String → PyError) (nodeId : String) :
    List String → Predecessors → Except PyError Predecessors
  | [], predecessors => .ok predecessors
  | succ :: rest, predecessors =>
      if succ ∈ known then
        linkSuccessors known missing nodeId rest
          (Function.update predecessors succ (predecessors succ ++ [nodeId]))
      else .error (missing succ)

def linkNodes (known : List String) (missing : CastNode → String → PyError) :
    List CastNode → Predecessors → Except PyError Predecessors
  | [], predecessors => .ok predecessors
  | node :: rest, predecessors =>
      match linkSuccessors known (missing node) node.nodeId node.successors predecessors with
      | .error raised => .error raised
      | .ok linked => linkNodes known missing rest linked

def topologicalOrder (program : SemanticProgram) (predecessors : Predecessors) :
    Except PyError (List String) :=
  let indegree : String → Int := fun nodeId => (predecessors nodeId).length
  let out := kahnLoop program.successors program.nodeIds.length indegree
    (startReady program.nodeIds indegree) []
  if out.length ≠ program.nodes.length then .error (.valueError "semantic program contains a cycle")
  else .ok out

def unknownSuccessor (node : CastNode) (succ : String) : PyError :=
  .valueError ("node " ++ node.nodeId ++ " references unknown successor " ++ succ)

def compileProgram (program : SemanticProgram) : Except PyError SemanticProgram :=
  let report := validateProgram program
  if report.errors ≠ [] then
    .error (.valueError ("program validation failed: " ++ "; ".intercalate report.errors))
  else
    match linkNodes program.nodeIds unknownSuccessor program.nodes (fun _ => []) with
    | .error raised => .error raised
    | .ok predecessors =>
        match topologicalOrder program predecessors with
        | .error raised => .error raised
        | .ok _ => .ok { program with status := .compiled }

def SemanticProgram.predecessors (program : SemanticProgram) (nodeId : String) : List String :=
  program.nodes.flatMap fun node => List.replicate (node.successors.count nodeId) node.nodeId

theorem mem_predecessors (program : SemanticProgram) (source target : String) :
    source ∈ program.predecessors target ↔ program.Edge source target := by
  simp only [SemanticProgram.predecessors, List.mem_flatMap, List.mem_replicate, SemanticProgram.Edge,
    ne_eq, List.count_eq_zero, Decidable.not_not]
  constructor
  · rintro ⟨node, member, link, same⟩
    exact ⟨node, member, same.symm, link⟩
  · rintro ⟨node, member, same, link⟩
    exact ⟨node, member, link, same.symm⟩

theorem link_successors_known (known : List String) (missing : String → PyError) (nodeId : String)
    (successors : List String) (predecessors : Predecessors) (all : ∀ succ ∈ successors, succ ∈ known) :
    linkSuccessors known missing nodeId successors predecessors =
      .ok fun target => predecessors target ++ List.replicate (successors.count target) nodeId := by
  induction successors generalizing predecessors with
  | nil => simp [linkSuccessors]
  | cons succ rest ih =>
      rw [linkSuccessors, if_pos (all succ List.mem_cons_self),
        ih _ fun later member => all later (List.mem_cons_of_mem _ member)]
      congr 1
      funext target
      by_cases same : target = succ
      · subst same
        simp [List.replicate_succ]
      · rw [Function.update_of_ne same, List.count_cons_of_ne (Ne.symm same)]

theorem link_successors_ok (known : List String) (missing : String → PyError) (nodeId : String)
    (successors : List String) (predecessors linked : Predecessors)
    (ok : linkSuccessors known missing nodeId successors predecessors = .ok linked) :
    ∀ succ ∈ successors, succ ∈ known := by
  induction successors generalizing predecessors with
  | nil => simp
  | cons succ rest ih =>
      by_cases inside : succ ∈ known
      · rw [linkSuccessors, if_pos inside] at ok
        intro later member
        rcases List.mem_cons.mp member with same | more
        · exact same ▸ inside
        · exact ih _ ok later more
      · simp [linkSuccessors, inside] at ok

theorem link_nodes_known (known : List String) (missing : CastNode → String → PyError)
    (nodes : List CastNode) (predecessors : Predecessors)
    (all : ∀ node ∈ nodes, ∀ succ ∈ node.successors, succ ∈ known) :
    linkNodes known missing nodes predecessors =
      .ok fun target => predecessors target ++
        nodes.flatMap fun node => List.replicate (node.successors.count target) node.nodeId := by
  induction nodes generalizing predecessors with
  | nil => simp [linkNodes]
  | cons node rest ih =>
      rw [linkNodes, link_successors_known known (missing node) node.nodeId node.successors predecessors
        (all node List.mem_cons_self)]
      simp only
      rw [ih _ fun later member => all later (List.mem_cons_of_mem _ member)]
      simp only [List.flatMap_cons, List.append_assoc]

theorem link_nodes_ok (known : List String) (missing : CastNode → String → PyError)
    (nodes : List CastNode) (predecessors linked : Predecessors)
    (ok : linkNodes known missing nodes predecessors = .ok linked) :
    ∀ node ∈ nodes, ∀ succ ∈ node.successors, succ ∈ known := by
  induction nodes generalizing predecessors with
  | nil => simp
  | cons node rest ih =>
      simp only [linkNodes] at ok
      cases linkedNode : linkSuccessors known (missing node) node.nodeId node.successors predecessors with
      | error raised => simp [linkedNode] at ok
      | ok table =>
          simp only [linkedNode] at ok
          intro later member
          rcases List.mem_cons.mp member with same | more
          · exact same ▸ link_successors_ok known (missing node) node.nodeId node.successors predecessors table
              linkedNode
          · exact ih _ ok later more

def SemanticProgram.Closed (program : SemanticProgram) : Prop :=
  ∀ node ∈ program.nodes, ∀ succ ∈ node.successors, succ ∈ program.nodeIds

theorem link_nodes_closed (program : SemanticProgram) (closed : program.Closed) :
    linkNodes program.nodeIds unknownSuccessor program.nodes (fun _ => []) = .ok program.predecessors := by
  rw [link_nodes_known _ _ _ _ closed]
  exact congrArg Except.ok (funext fun target => List.nil_append _)

theorem successors_of_node (program : SemanticProgram) (node : CastNode) (member : node ∈ program.nodes) :
    program.successors node.nodeId = node.successors := by
  simp [SemanticProgram.successors, node_lookup program node member]

theorem arc_iff_edge (program : SemanticProgram) (source target : String) :
    Arc program.nodeIds program.successors source target ↔ program.Edge source target := by
  constructor
  · rintro ⟨known, link⟩
    obtain ⟨node, member, same, _⟩ := node_lookup_known program source known
    subst same
    rw [successors_of_node program node member] at link
    exact ⟨node, member, rfl, link⟩
  · rintro ⟨node, member, same, link⟩
    subst same
    refine ⟨List.mem_map_of_mem member, ?_⟩
    rw [successors_of_node program node member]
    exact link

theorem arc_closed (program : SemanticProgram) (closed : program.Closed) :
    ∀ nodeId ∈ program.nodeIds, ∀ next ∈ program.successors nodeId, next ∈ program.nodeIds := by
  intro nodeId known next link
  obtain ⟨node, member, _, linked⟩ := (arc_iff_edge program nodeId next).mp ⟨known, link⟩
  exact closed node member next linked

theorem predecessors_length (program : SemanticProgram) (nodeId : String) :
    (program.predecessors nodeId).length = unmet program.nodeIds program.successors [] nodeId := by
  have sum : (program.predecessors nodeId).length =
      (program.nodeIds.map fun source => (program.successors source).count nodeId).sum := by
    rw [SemanticProgram.predecessors, List.length_flatMap, SemanticProgram.nodeIds, List.map_map]
    congr 1
    apply List.map_congr_left
    intro node member
    simp [successors_of_node program node member]
  rw [sum, unmet, List.toFinset_nil, Finset.sdiff_empty]
  exact (List.sum_toFinset _ program.distinctIds).symm

theorem indegree_counts (program : SemanticProgram) : ∀ nodeId ∈ program.nodeIds,
    ((program.predecessors nodeId).length : Int) = unmet program.nodeIds program.successors [] nodeId := by
  intro nodeId _
  exact congrArg Int.ofNat (predecessors_length program nodeId)

def SemanticProgram.order (program : SemanticProgram) : List String :=
  kahnLoop program.successors program.nodeIds.length (fun nodeId => (program.predecessors nodeId).length)
    (startReady program.nodeIds fun nodeId => (program.predecessors nodeId).length) []

structure SemanticProgram.Acyclic (program : SemanticProgram) : Prop where
  closed : program.Closed
  complete : program.order.Perm program.nodeIds
  sorted : TopoSorted program.Edge program.order

theorem topological_order_cases (program : SemanticProgram) (closed : program.Closed) :
    topologicalOrder program program.predecessors =
        .error (.valueError "semantic program contains a cycle") ∨
      (topologicalOrder program program.predecessors = .ok program.order ∧ program.Acyclic) := by
  obtain ⟨sorted, complete⟩ := kahn_sound program.nodeIds program.successors
    (fun nodeId => ((program.predecessors nodeId).length : Int)) program.distinctIds
    (arc_closed program closed) (indegree_counts program)
  by_cases whole : program.order.length = program.nodes.length
  · right
    refine ⟨?_, closed, complete (whole.trans (by simp [SemanticProgram.nodeIds])), ?_⟩
    · simp only [topologicalOrder]
      rw [if_neg (by simpa [SemanticProgram.order] using whole)]
      rfl
    · intro pre nodeId post split source link
      exact sorted pre nodeId post split source ((arc_iff_edge program source nodeId).mpr link)
  · left
    simp only [topologicalOrder]
    rw [if_pos (by simpa [SemanticProgram.order] using whole)]

theorem acyclic_of_sorted (program : SemanticProgram) (closed : program.Closed) (order : List String)
    (same : ∀ nodeId, nodeId ∈ order ↔ nodeId ∈ program.nodeIds) (sorted : TopoSorted program.Edge order) :
    program.Acyclic := by
  have whole := kahn_complete program.nodeIds program.successors
    (fun nodeId => ((program.predecessors nodeId).length : Int)) program.distinctIds
    (arc_closed program closed) (indegree_counts program) order same (by
      intro pre nodeId post split source link
      exact sorted pre nodeId post split source ((arc_iff_edge program source nodeId).mp link))
  rcases topological_order_cases program closed with cyclic | ⟨_, acyclic⟩
  · simp only [topologicalOrder] at cyclic
    rw [if_neg (by simpa [SemanticProgram.nodeIds] using whole)] at cyclic
    cases cyclic
  · exact acyclic

theorem compile_program_ok (program compiled : SemanticProgram) (ok : compileProgram program = .ok compiled) :
    program.Acyclic ∧ compiled = { program with status := .compiled } := by
  simp only [compileProgram, validate_program_errors, ne_eq, not_true_eq_false, if_false] at ok
  cases linked : linkNodes program.nodeIds unknownSuccessor program.nodes (fun _ => []) with
  | error raised => simp [linked] at ok
  | ok table =>
      have closed : program.Closed := link_nodes_ok _ _ _ _ _ linked
      simp only [link_nodes_closed program closed] at ok
      rcases topological_order_cases program closed with cyclic | ⟨ordered, acyclic⟩
      · simp [cyclic] at ok
      · simp only [ordered, Except.ok.injEq] at ok
        exact ⟨acyclic, ok.symm⟩

theorem compile_program_complete (program : SemanticProgram) (acyclic : program.Acyclic) :
    compileProgram program = .ok { program with status := .compiled } := by
  rcases topological_order_cases program acyclic.closed with cyclic | ⟨ordered, _⟩
  · have whole := acyclic.complete.length_eq
    simp only [topologicalOrder] at cyclic
    rw [if_neg (by simpa [SemanticProgram.order, SemanticProgram.nodeIds] using whole)] at cyclic
    cases cyclic
  · simp only [compileProgram, validate_program_errors, ne_eq, not_true_eq_false, if_false,
      link_nodes_closed program acyclic.closed, ordered]

end Vermyth
