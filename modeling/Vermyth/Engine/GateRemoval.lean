import Vermyth.Engine.Totality

set_option autoImplicit false

namespace Vermyth

open Foundation

def CastNode.without (gate : String) (node : CastNode) : CastNode :=
  { node with successors := node.successors.filter fun succ => succ != gate }

def GateDeleted (program : SemanticProgram) (gate : String) (other : SemanticProgram) : Prop :=
  other.nodes = (program.nodes.filter fun node => node.nodeId != gate).map (CastNode.without gate)

theorem observe_without (engine : Engine) (branchId : String) (gate : String) (node : CastNode) :
    observe engine branchId (node.without gate) = observe engine branchId node := rfl

section Deleted

variable (program other : SemanticProgram) (gate : String) (deleted : GateDeleted program gate other)

include deleted

theorem deleted_node (node : CastNode) :
    node ∈ other.nodes ↔ ∃ origin ∈ program.nodes, origin.nodeId ≠ gate ∧ node = origin.without gate := by
  rw [deleted]
  simp only [List.mem_map, List.mem_filter, bne_iff_ne, ne_eq, and_assoc, @eq_comm _ node]

theorem deleted_ids : other.nodeIds = program.nodeIds.filter fun nodeId => nodeId != gate := by
  rw [SemanticProgram.nodeIds, deleted, SemanticProgram.nodeIds, List.filter_map, List.map_map]
  rfl

theorem deleted_edge (source target : String) :
    other.Edge source target ↔ program.Edge source target ∧ source ≠ gate ∧ target ≠ gate := by
  constructor
  · rintro ⟨node, member, sameId, link⟩
    obtain ⟨origin, known, apart, isOrigin⟩ := (deleted_node program other gate deleted node).mp member
    subst isOrigin
    obtain ⟨linked, kept⟩ := List.mem_filter.mp link
    exact ⟨⟨origin, known, sameId, linked⟩, sameId ▸ apart, bne_iff_ne.mp kept⟩
  · rintro ⟨⟨node, member, sameId, link⟩, sourceKept, targetKept⟩
    exact ⟨node.without gate, (deleted_node program other gate deleted _).mpr
        ⟨node, member, sameId ▸ sourceKept, rfl⟩, sameId,
      List.mem_filter.mpr ⟨link, bne_iff_ne.mpr targetKept⟩⟩

theorem deleted_predecessors (target : String) (kept : target ≠ gate) :
    other.predecessors target = (program.predecessors target).filter fun source => source != gate := by
  rw [SemanticProgram.predecessors, deleted, SemanticProgram.predecessors]
  induction program.nodes with
  | nil => rfl
  | cons node rest ih =>
      have count : (node.without gate).successors.count target = node.successors.count target :=
        List.count_filter (bne_iff_ne.mpr kept)
      simp only [List.flatMap_cons, List.filter_append]
      by_cases isGate : node.nodeId = gate
      · rw [List.filter_cons_of_neg (by simpa using isGate), ih]
        simp [isGate]
      · rw [List.filter_cons_of_pos (by simpa using isGate), List.map_cons, List.flatMap_cons, ih, count]
        simp [isGate, CastNode.without]

theorem deleted_acyclic (acyclic : program.Acyclic) : other.Acyclic := by
  have ids := deleted_ids program other gate deleted
  refine acyclic_of_sorted other ?_ (program.order.filter fun nodeId => nodeId != gate) ?_ ?_
  · intro node member succ link
    obtain ⟨origin, known, _, isOrigin⟩ := (deleted_node program other gate deleted node).mp member
    subst isOrigin
    obtain ⟨linked, kept⟩ := List.mem_filter.mp link
    rw [ids, List.mem_filter]
    exact ⟨acyclic.closed origin known succ linked, kept⟩
  · intro nodeId
    rw [ids, List.mem_filter, List.mem_filter, acyclic.complete.mem_iff]
  · refine topo_sorted_filter program.order _ other.Edge acyclic.sorted fun source vertex link => ?_
    obtain ⟨edge, sourceKept, _⟩ := (deleted_edge program other gate deleted source vertex).mp link
    exact ⟨edge, bne_iff_ne.mpr sourceKept⟩

variable (engine : Engine) (branchId : String) (seen : List Visit) (acyclic : program.Acyclic)
  (run : VisitsOf engine program branchId seen)
  (passes : ∀ visit ∈ seen, visit.nodeId = gate → visit.outcome.shuts = false ∧ visit.outcome.result? = none)
  (seenOther : List Visit) (runOther : VisitsOf engine other branchId seenOther)

include acyclic run passes runOther

-- A node whose predecessors agree is given the same results, and is blocked
-- in both runs or in none: a passing gate hands on nothing and blocks nothing.
theorem deleted_inputs (nodeId : String) (kept : nodeId ≠ gate)
    (fed : ∀ source, program.Edge source nodeId → source ∈ seen.map Visit.nodeId)
    (fedOther : ∀ source, other.Edge source nodeId → source ∈ seenOther.map Visit.nodeId)
    (agree : ∀ visit ∈ seen, ∀ copy ∈ seenOther, visit.nodeId = copy.nodeId → program.Edge visit.nodeId nodeId →
      copy.outcome = visit.outcome) :
    (other.predecessors nodeId).filterMap (tables seenOther).resultsByNode =
        (program.predecessors nodeId).filterMap (tables seen).resultsByNode ∧
      (nodeId ∈ (tables seenOther).blocked ↔ nodeId ∈ (tables seen).blocked) := by
  have acyclicOther := deleted_acyclic program other gate deleted acyclic
  have edge := deleted_edge program other gate deleted
  have copies : ∀ visit ∈ seen, visit.nodeId ≠ gate → program.Edge visit.nodeId nodeId →
      ∃ copy ∈ seenOther, copy.nodeId = visit.nodeId ∧ copy.outcome = visit.outcome := by
    intro visit member apart link
    obtain ⟨copy, inOther, sameId⟩ := List.mem_map.mp
      (fedOther visit.nodeId ((edge visit.nodeId nodeId).mpr ⟨link, apart, kept⟩))
    exact ⟨copy, inOther, sameId, agree visit member copy inOther sameId.symm link⟩
  have distinct := run_distinct engine program branchId acyclic seen run
  have distinctOther := run_distinct engine other branchId acyclicOther seenOther runOther
  constructor
  · rw [deleted_predecessors program other gate deleted nodeId kept, List.filterMap_filter]
    apply List.filterMap_congr
    intro source isPredecessor
    have link := (mem_predecessors program source nodeId).mp isPredecessor
    obtain ⟨visit, member, sameId⟩ := List.mem_map.mp (fed source link)
    subst sameId
    rw [tables_results seen distinct visit member]
    by_cases isGate : visit.nodeId = gate
    · simp [isGate, (passes visit member isGate).2]
    · obtain ⟨copy, inOther, sameId, sameOutcome⟩ := copies visit member isGate link
      rw [if_pos (by simpa using isGate), ← sameId, tables_results seenOther distinctOther copy inOther, sameOutcome]
  · rw [tables_blocked, tables_blocked]
    constructor
    · rintro ⟨copy, inOther, shuts, link⟩
      have linkOther : other.Edge copy.nodeId nodeId :=
        ⟨copy.node, run_node engine other branchId seenOther runOther copy inOther, rfl, link⟩
      have linked := ((edge copy.nodeId nodeId).mp linkOther).1
      obtain ⟨visit, member, sameId⟩ := List.mem_map.mp (fed copy.nodeId linked)
      have sameOutcome := agree visit member copy inOther sameId (sameId ▸ linked)
      obtain ⟨node, known, nodeIdEq, inSuccessors⟩ := linked
      have sameNode : visit.node = node :=
        run_same_node engine program branchId seen run visit member node known (sameId.trans nodeIdEq.symm)
      exact ⟨visit, member, sameOutcome ▸ shuts, sameNode ▸ inSuccessors⟩
    · rintro ⟨visit, member, shuts, link⟩
      have apart : visit.nodeId ≠ gate := by
        intro isGate
        rw [(passes visit member isGate).1] at shuts
        cases shuts
      have linked : program.Edge visit.nodeId nodeId :=
        ⟨visit.node, run_node engine program branchId seen run visit member, rfl, link⟩
      obtain ⟨copy, inOther, sameId, sameOutcome⟩ := copies visit member apart linked
      obtain ⟨node, known, nodeIdEq, inSuccessors⟩ := (edge visit.nodeId nodeId).mpr ⟨linked, apart, kept⟩
      have sameNode : copy.node = node :=
        run_same_node engine other branchId seenOther runOther copy inOther node known (sameId.trans nodeIdEq.symm)
      exact ⟨copy, inOther, sameOutcome ▸ shuts, sameNode ▸ inSuccessors⟩

-- Both runs make the same of every node both visit: induction down the order.
theorem deleted_outcomes : ∀ visit ∈ seen, ∀ copy ∈ seenOther, visit.nodeId = copy.nodeId →
    copy.outcome = visit.outcome := by
  have acyclicOther := deleted_acyclic program other gate deleted acyclic
  have every : ∀ nodeId ∈ program.order, ∀ visit ∈ seen, ∀ copy ∈ seenOther, visit.nodeId = nodeId →
      copy.nodeId = nodeId → copy.outcome = visit.outcome := by
    refine topo_induction program.order acyclic.sorted _ ?_
    intro nodeId _ ih visit member copy inOther isNode isCopy
    obtain ⟨origin, known, apart, isOrigin⟩ := (deleted_node program other gate deleted copy.node).mp
      (run_node engine other branchId seenOther runOther copy inOther)
    have sameNode : visit.node = origin := by
      apply run_same_node engine program branchId seen run visit member origin known
      have originId : copy.node.nodeId = origin.nodeId := by rw [isOrigin]; rfl
      exact isNode.trans (isCopy.symm.trans originId)
    have kept : nodeId ≠ gate := by
      rw [← isNode]
      exact fun isGate => apart (sameNode ▸ isGate)
    have sorted := run_sorted engine program branchId acyclic seen run
    have sortedOther := run_sorted engine other branchId acyclicOther seenOther runOther
    obtain ⟨results, blocked⟩ := deleted_inputs program other gate deleted engine branchId seen acyclic run passes
      seenOther runOther nodeId kept
      (fun source link => topo_sorted_mem _ sorted nodeId source (isNode ▸ List.mem_map_of_mem member) link)
      (fun source link => topo_sorted_mem _ sortedOther nodeId source (isCopy ▸ List.mem_map_of_mem inOther) link)
      (fun earlier inSeen twin inTwin sameId link =>
        ih earlier.nodeId link earlier inSeen twin inTwin rfl sameId.symm)
    have saw := run_equation engine program branchId acyclic seen run visit member
    have sawOther := run_equation engine other branchId acyclicOther seenOther runOther copy inOther
    rw [isNode] at saw
    rw [isCopy, results, decide_eq_decide.mpr blocked, isOrigin, observe_without, ← sameNode, saw,
      Except.ok.injEq] at sawOther
    exact sawOther.symm
  intro visit member copy inOther sameId
  have known : visit.nodeId ∈ program.order := acyclic.complete.mem_iff.mpr
    (List.mem_map_of_mem (run_node engine program branchId seen run visit member))
  exact every visit.nodeId known visit member copy inOther rfl sameId.symm

end Deleted

def parentOf (results : List CastResult) : Option (String × Nat) :=
  (bestResonance results).map fun parent => (parent.castId, lineageDepth parent)

structure SameView (program other : SemanticProgram) (node copy : CastNode) (state later : RunState) : Prop where
  parent : node.nodeType.isCast = true →
    parentOf (predResults other copy later) = parentOf (predResults program node state)
  gate : node.nodeType = .gate → dueStatus other copy later = dueStatus program node state
  merge : node.nodeType = .merge → predResults other copy later = predResults program node state

def ViewsAgree (engine : Engine) (branchId : String) (program other : SemanticProgram) (gate : String) : Prop :=
  ∀ node copy state later, ComesTo engine program branchId node state → ComesTo engine other branchId copy later →
    node.nodeId ≠ gate → copy.nodeId = node.nodeId → SameView program other node copy state later

def SameNodesExecuted (gate : String) (execution after : ProgramExecution) (receipt receiptAfter : ExecutionReceipt) :
    Prop :=
  ∀ nodeId, nodeId ≠ gate → (Executed after receiptAfter nodeId ↔ Executed execution receipt nodeId)

def Passes (engine : Engine) (program : SemanticProgram) (branchId : String) (gate : CastNode) : Prop :=
  gate.nodeType = .gate ∧ ∃ state, ComesTo engine program branchId gate state ∧ gate.nodeId ∉ state.blocked ∧
    conditionsHold (preContext (predResults program gate state)) gate.preconditions = true ∧
    gateOk gate (predResults program gate state) = true

section Run

variable (engine : Engine) (branchId : String) (program other : SemanticProgram) (gate : CastNode)
  (acyclic : program.Acyclic) (deleted : GateDeleted program gate.nodeId other) (seen : List Visit)
  (run : RunOf engine program branchId seen) (passes : Passes engine program branchId gate)

include acyclic run passes

theorem passing_gate (visit : Visit) (member : visit ∈ seen) (isGate : visit.nodeId = gate.nodeId) :
    visit.outcome.shuts = false ∧ visit.outcome.result? = none := by
  obtain ⟨type, state, comes, free, holds, met⟩ := passes
  obtain ⟨other, inSeen, sameNode, _, observed⟩ :=
    comes_to_visit engine program branchId acyclic seen run gate state comes
  have same : other = visit := run_same_id engine program branchId acyclic seen run.toVisitsOf other visit inSeen
    member ((congrArg CastNode.nodeId sameNode).trans isGate.symm)
  rw [same] at observed
  simp only [free, decide_false] at observed
  generalize visit.outcome = outcome at observed ⊢
  cases observed with
  | preconditionFailed pre evaluated refused =>
      rw [conditions_hold_ok _ _ pre evaluated, refused] at holds
      cases holds
  | gate pre evaluated passed type => simp [Outcome.shuts, Outcome.result?, met]
  | nothingToMerge pre evaluated passed isMerge => rw [type] at isMerge; cases isMerge
  | merged pre result evaluated passed isMerge => rw [type] at isMerge; cases isMerge
  | failed pre evaluated passed isCast => rw [type] at isCast; cases isCast
  | ran pre post base evaluated passed isCast => rw [type] at isCast; cases isCast

include deleted

theorem deleted_comes_to (node copy : CastNode) (state later : RunState)
    (comes : ComesTo engine program branchId node state) (comesOther : ComesTo engine other branchId copy later)
    (sameId : copy.nodeId = node.nodeId) :
    copy = node.without gate.nodeId ∧ predResults other copy later = predResults program node state ∧
      (copy.nodeId ∈ later.blocked ↔ node.nodeId ∈ state.blocked) := by
  obtain ⟨known, pre, reached⟩ := comes
  obtain ⟨knownOther, preOther, reachedOther⟩ := comesOther
  obtain ⟨origin, inProgram, apart, isOrigin⟩ :=
    (deleted_node program other gate.nodeId deleted copy).mp knownOther
  have originId : copy.nodeId = origin.nodeId := by rw [isOrigin]; rfl
  have same : origin = node := node_unique program origin node inProgram known (originId.symm.trans sameId)
  subst same
  obtain ⟨early, visit, late, split, _, ids, stateEq⟩ :=
    run_reaches engine program branchId acyclic seen run pre origin.nodeId state reached
  have acyclicOther := deleted_acyclic program other gate.nodeId deleted acyclic
  obtain ⟨earlyOther, runOther, idsOther, laterEq⟩ :=
    reached_visits engine other branchId acyclicOther preOther copy.nodeId later reachedOther
  obtain ⟨⟨rest, cut⟩, _⟩ := reached
  obtain ⟨⟨restOther, cutOther⟩, _⟩ := reachedOther
  have runEarly := run_front engine program branchId seen run.toVisitsOf early late visit split
  have passing : ∀ visit ∈ early, visit.nodeId = gate.nodeId →
      visit.outcome.shuts = false ∧ visit.outcome.result? = none := fun visit member =>
    passing_gate engine branchId program gate acyclic seen run passes visit (split ▸ List.mem_append_left _ member)
  have outcomes := deleted_outcomes program other gate.nodeId deleted engine branchId early acyclic runEarly passing
    earlyOther runOther
  have inputs := deleted_inputs program other gate.nodeId deleted engine branchId early acyclic runEarly passing
    earlyOther runOther origin.nodeId apart
    (fun source link => ids ▸ acyclic.sorted pre origin.nodeId rest cut source link)
    (fun source link => idsOther ▸ acyclicOther.sorted preOther copy.nodeId restOther cutOther source (sameId ▸ link))
    (fun visit member twin inOther sameVisit _ => outcomes visit member twin inOther sameVisit)
  refine ⟨isOrigin, ?_, ?_⟩
  · rw [predResults, predResults, sameId, stateEq, laterEq]
    exact inputs.1
  · rw [sameId, stateEq, laterEq]
    exact inputs.2

theorem deleted_views : ViewsAgree engine branchId program other gate.nodeId := by
  intro node copy state later comes comesOther _ sameId
  obtain ⟨isCopy, results, blocked⟩ := deleted_comes_to engine branchId program other gate acyclic deleted seen run
    passes node copy state later comes comesOther sameId
  refine ⟨fun _ => by rw [results], fun _ => ?_, fun _ => results⟩
  have due : dueStatus other copy later = dueStatus program node state := by
    simp only [dueStatus, results, blocked]
    rw [isCopy]
    rfl
  exact due

theorem deleted_completes (completed : (tables seen).status = .completed)
    (ran : ∃ flow, sweep (nodeLoop engine program branchId) program.order {} = .ok flow) :
    ∃ flow, sweep (nodeLoop engine other branchId) other.order {} = .ok flow := by
  obtain ⟨covers, quiet⟩ := run_completed engine program branchId seen run completed
  have acyclicOther := deleted_acyclic program other gate.nodeId deleted acyclic
  have evaluates : ∀ copy later, ComesTo engine other branchId copy later → copy.nodeId ∉ later.blocked →
      Evaluates engine copy (predResults other copy later) := by
    intro copy later comesOther freeOther
    obtain ⟨origin, known, _, isOrigin⟩ :=
      (deleted_node program other gate.nodeId deleted copy).mp comesOther.1
    have visited : origin.nodeId ∈ seen.map Visit.nodeId :=
      covers ▸ acyclic.complete.mem_iff.mpr (List.mem_map_of_mem known)
    obtain ⟨visit, member, sameId⟩ := List.mem_map.mp visited
    have sameNode : visit.node = origin :=
      run_same_node engine program branchId seen run.toVisitsOf visit member origin known sameId
    obtain ⟨state, comes, _, observed⟩ := visit_comes_to engine program branchId acyclic seen run visit member
    rw [sameNode] at comes
    have copyId : copy.nodeId = origin.nodeId := by rw [isOrigin]; rfl
    obtain ⟨isCopy, results, blocked⟩ := deleted_comes_to engine branchId program other gate acyclic deleted seen run
      passes origin copy state later comes comesOther copyId
    rw [results, isCopy]
    exact (node_loop_ok engine program branchId acyclic).mp ran origin state comes
      (fun isBlocked => freeOther (blocked.mpr isBlocked))
  exact (node_loop_ok engine other branchId acyclicOther).mpr evaluates

theorem deleted_visits (completed : (tables seen).status = .completed) (seenOther : List Visit)
    (runOther : RunOf engine other branchId seenOther) :
    (tables seenOther).status = .completed ∧ ∀ nodeId, nodeId ≠ gate.nodeId → ∀ status,
      ((∃ copy ∈ seenOther, copy.nodeId = nodeId ∧ copy.outcome.status? = some status) ↔
        ∃ visit ∈ seen, visit.nodeId = nodeId ∧ visit.outcome.status? = some status) := by
  obtain ⟨covers, quiet⟩ := run_completed engine program branchId seen run completed
  have acyclicOther := deleted_acyclic program other gate.nodeId deleted acyclic
  have ids := deleted_ids program other gate.nodeId deleted
  have outcomes := deleted_outcomes program other gate.nodeId deleted engine branchId seen acyclic run.toVisitsOf
    (passing_gate engine branchId program gate acyclic seen run passes) seenOther runOther.toVisitsOf
  have origin : ∀ copy ∈ seenOther, ∃ visit ∈ seen, visit.nodeId = copy.nodeId := by
    intro copy inOther
    have known : copy.nodeId ∈ other.nodeIds :=
      List.mem_map_of_mem (run_node engine other branchId seenOther runOther.toVisitsOf copy inOther)
    have inProgram : copy.nodeId ∈ program.nodeIds := by
      rw [ids] at known
      exact List.mem_of_mem_filter known
    exact List.mem_map.mp (covers ▸ acyclic.complete.mem_iff.mpr inProgram)
  have still : (tables seenOther).status = .completed := by
    have silent : seenOther.any Visit.fails = false := by
      rw [List.any_eq_false]
      intro copy inOther
      obtain ⟨visit, member, sameId⟩ := origin copy inOther
      have same := outcomes visit member copy inOther sameId
      rw [Visit.fails, same]
      simpa [Visit.fails] using quiet visit member
    rw [tables_status, silent]
    rfl
  have coversOther := (run_completed engine other branchId seenOther runOther still).1
  refine ⟨still, fun nodeId kept status => ⟨?_, ?_⟩⟩
  · rintro ⟨copy, inOther, isNode, isStatus⟩
    obtain ⟨visit, member, sameId⟩ := origin copy inOther
    exact ⟨visit, member, sameId.trans isNode, outcomes visit member copy inOther sameId ▸ isStatus⟩
  · rintro ⟨visit, member, isNode, isStatus⟩
    have known : nodeId ∈ program.nodeIds := by
      rw [← isNode]
      exact List.mem_map_of_mem (run_node engine program branchId seen run.toVisitsOf visit member)
    have inOrder : nodeId ∈ other.order := by
      rw [acyclicOther.complete.mem_iff, ids, List.mem_filter]
      exact ⟨known, bne_iff_ne.mpr kept⟩
    obtain ⟨copy, inOther, sameId⟩ := List.mem_map.mp (coversOther ▸ inOrder)
    exact ⟨copy, inOther, sameId, (outcomes visit member copy inOther (isNode.trans sameId.symm)).symm ▸ isStatus⟩

end Run

theorem passing_gate_absent (engine : Engine) (runtime : Runtime) (program compiled other : SemanticProgram)
    (accepted : compileProgram program = .ok compiled) (execution : ProgramExecution) (receipt : ExecutionReceipt)
    (returned : executeProgram engine runtime program = .ok (execution, receipt)) (gate : CastNode)
    (passes : Passes engine compiled runtime.branchId gate) (deleted : GateDeleted compiled gate.nodeId other)
    (allowed : ¬ Refused runtime other) :
    ∃ rest, compileProgram other = .ok rest ∧
      ViewsAgree engine runtime.branchId compiled rest gate.nodeId ∧
      (execution.status = .completed →
        ∃ after receiptAfter, executeProgram engine runtime other = .ok (after, receiptAfter) ∧
          after.status = .completed ∧ SameNodesExecuted gate.nodeId execution after receipt receiptAfter) := by
  have acyclic := compiled_acyclic program compiled accepted
  have acceptedOther := compile_program_complete other (deleted_acyclic compiled other gate.nodeId deleted acyclic)
  have allowedRest : ¬ Refused runtime { other with status := .compiled } := allowed
  have deletedRest : GateDeleted compiled gate.nodeId { other with status := .compiled } := deleted
  generalize { other with status := .compiled } = rest at acceptedOther allowedRest deletedRest
  have acyclicRest := compiled_acyclic other rest acceptedOther
  obtain ⟨seen, run, executionEq, nodesEq, _⟩ :=
    accepted_run engine runtime program compiled accepted execution receipt returned
  refine ⟨rest, acceptedOther,
    deleted_views engine runtime.branchId compiled rest gate acyclic deletedRest seen run passes, ?_⟩
  intro completed
  have statusEq : execution.status = (tables seen).status := by rw [executionEq]; rfl
  rw [statusEq] at completed
  have free : ¬ Refused runtime compiled := by
    intro refused
    unfold Refused at refused
    rw [execute_accepted engine runtime program compiled accepted, execute_program_eq engine runtime compiled acyclic
      (compiled_status program compiled accepted), if_pos refused] at returned
    cases returned
  obtain ⟨loads, ran⟩ := (execution_returns engine runtime program compiled accepted free).mp ⟨_, returned⟩
  have ranRest := deleted_completes engine runtime.branchId compiled rest gate acyclic deletedRest seen run passes
    completed ran
  obtain ⟨⟨after, receiptAfter⟩, returnedOther⟩ :=
    (execution_returns engine runtime other rest acceptedOther allowedRest).mpr ⟨loads, ranRest⟩
  obtain ⟨seenRest, runRest, afterEq, nodesEqRest, _⟩ :=
    accepted_run engine runtime other rest acceptedOther after receiptAfter returnedOther
  obtain ⟨still, visits⟩ := deleted_visits engine runtime.branchId compiled rest gate acyclic deletedRest seen run
    passes completed seenRest runRest
  refine ⟨after, receiptAfter, returnedOther, ?_, ?_⟩
  · rw [afterEq]
    exact still
  · intro nodeId kept
    rw [run_executed engine compiled runtime.branchId acyclic seen run execution receipt runtime executionEq nodesEq,
      run_executed engine rest runtime.branchId acyclicRest seenRest runRest after receiptAfter runtime afterEq
        nodesEqRest]
    exact visits nodeId kept .ok

def GateReconnected (program : SemanticProgram) (gate : CastNode) (other : SemanticProgram) : Prop :=
  other.nodes = (program.nodes.filter fun node => node.nodeId != gate.nodeId).map fun node =>
    if gate.nodeId ∈ node.successors then
      { node.without gate.nodeId with
        successors := (node.without gate.nodeId).successors ++ gate.successors }
    else node

def programOf (programId : String) (nodes : List CastNode) (entry : String) (nonempty : nodes ≠ [])
    (distinct : (nodes.map CastNode.nodeId).Nodup) (known : entry ∈ nodes.map CastNode.nodeId) :
    SemanticProgram where
  programId := programId
  nodes := nodes
  entryNodeIds := [entry]
  nodesNonempty := nonempty
  entriesNonempty := by simp
  distinctIds := distinct
  entriesKnown := by simpa using known

def asCompiled (program : SemanticProgram) : SemanticProgram := { program with status := .compiled }

def openGate : SemanticProgram :=
  programOf "open-gate" [castOf "p" ["g"], gateOf "g" .coherent ["s"], castOf "s" []] "p" (by simp) (by decide)
    (by decide)

def gateRemoved : SemanticProgram :=
  programOf "gate-removed" [castOf "p" [], castOf "s" []] "p" (by simp) (by decide) (by decide)

def gateBypassed : SemanticProgram :=
  programOf "gate-bypassed" [castOf "p" ["s"], castOf "s" []] "p" (by simp) (by decide) (by decide)

theorem open_gate_passes : Passes agreeing (asCompiled openGate) sampleRuntime.branchId
    (gateOf "g" .coherent ["s"]) := by
  have order : (asCompiled openGate).order = ["p"] ++ (gateOf "g" .coherent ["s"]).nodeId :: ["s"] := by
    decide +kernel
  obtain ⟨state, comes, holds⟩ := comes_to_of_sweep agreeing (asCompiled openGate) sampleRuntime.branchId
    (gateOf "g" .coherent ["s"]) (by simp [asCompiled, openGate, programOf]) ["p"] ["s"] order
    (fun state => decide ("g" ∉ state.blocked ∧
      gateOk (gateOf "g" .coherent ["s"]) (predResults (asCompiled openGate) (gateOf "g" .coherent ["s"]) state)))
    (by decide +kernel)
  obtain ⟨free, met⟩ := of_decide_eq_true holds
  exact ⟨rfl, state, comes, free, rfl, met⟩

theorem returns_of_ok (engine : Engine) (program : SemanticProgram)
    (ok : (executeProgram engine sampleRuntime program).isOk = true) :
    ∃ execution receipt, executeProgram engine sampleRuntime program = .ok (execution, receipt) := by
  cases returned : executeProgram engine sampleRuntime program with
  | error raised => simp [returned, Except.isOk, Except.toBool] at ok
  | ok out => exact ⟨out.1, out.2, rfl⟩

theorem passing_gate_absent_open_gate : ∃ execution receipt rest,
    executeProgram agreeing sampleRuntime openGate = .ok (execution, receipt) ∧
      compileProgram gateRemoved = .ok rest ∧
      ViewsAgree agreeing sampleRuntime.branchId (asCompiled openGate) rest "g" ∧
      (execution.status = .completed →
        ∃ after receiptAfter, executeProgram agreeing sampleRuntime gateRemoved = .ok (after, receiptAfter) ∧
          after.status = .completed ∧ SameNodesExecuted "g" execution after receipt receiptAfter) := by
  obtain ⟨execution, receipt, returned⟩ := returns_of_ok agreeing openGate (by decide +kernel)
  obtain ⟨rest, transparent⟩ := passing_gate_absent agreeing sampleRuntime openGate _ gateRemoved
    (compile_of_ok openGate (by decide +kernel)) execution receipt returned (gateOf "g" .coherent ["s"])
    open_gate_passes rfl (by simp [Refused, sampleRuntime])
  exact ⟨execution, receipt, rest, returned, transparent⟩

theorem bypass_gives_parent : ¬ ViewsAgree agreeing sampleRuntime.branchId (asCompiled openGate)
    (asCompiled gateBypassed) "g" := by
  intro agree
  have order : (asCompiled openGate).order = ["p", "g"] ++ (castOf "s" []).nodeId :: [] := by decide +kernel
  have bypassed : (asCompiled gateBypassed).order = ["p"] ++ (castOf "s" []).nodeId :: [] := by decide +kernel
  obtain ⟨state, comes, orphan⟩ := comes_to_of_sweep agreeing (asCompiled openGate) sampleRuntime.branchId
    (castOf "s" []) (by simp [asCompiled, openGate, programOf]) ["p", "g"] [] order
    (fun state => decide (parentOf (predResults (asCompiled openGate) (castOf "s" []) state) = none))
    (by decide +kernel)
  obtain ⟨later, comesLater, child⟩ := comes_to_of_sweep agreeing (asCompiled gateBypassed) sampleRuntime.branchId
    (castOf "s" []) (by simp [asCompiled, gateBypassed, programOf]) ["p"] [] bypassed
    (fun state => decide (parentOf (predResults (asCompiled gateBypassed) (castOf "s" []) state) = some ("cast-p", 1)))
    (by decide +kernel)
  have view := agree (castOf "s" []) (castOf "s" []) state later comes comesLater (by decide) rfl
  rw [SameView.parent view rfl, of_decide_eq_true orphan] at child
  exact absurd child (by decide)

def forkedGate : SemanticProgram :=
  programOf "forked-gate" [castOf "b" ["e", "g"], castOf "e" ["c"], gateOf "g" .coherent ["c", "d"], castOf "c" [],
    castOf "d" []] "b" (by simp) (by decide) (by decide)

def forkBypassed : SemanticProgram :=
  programOf "fork-bypassed" [castOf "b" ["e", "c", "d"], castOf "e" ["c"], castOf "c" [], castOf "d" []] "b"
    (by simp) (by decide) (by decide)

theorem failing_run_reordered : ∃ execution receipt after receiptAfter,
    executeProgram (failingAt "c") sampleRuntime forkedGate = .ok (execution, receipt) ∧
      executeProgram (failingAt "c") sampleRuntime forkBypassed = .ok (after, receiptAfter) ∧
      (∃ entry ∈ receipt.nodes, entry.nodeId = "g" ∧ entry.status = .ok) ∧
      ¬ SameNodesExecuted "g" execution after receipt receiptAfter := by
  have ran : (executeProgram (failingAt "c") sampleRuntime forkedGate).map (fun out =>
      (decide (∃ entry ∈ out.2.nodes, entry.nodeId = "g" ∧ entry.status = .ok), decide (Executed out.1 out.2 "d"))) =
        .ok (true, false) := by decide +kernel
  have ranAfter : (executeProgram (failingAt "c") sampleRuntime forkBypassed).map (fun out =>
      decide (Executed out.1 out.2 "d")) = .ok true := by decide +kernel
  obtain ⟨execution, receipt, returned⟩ := returns_of_ok (failingAt "c") forkedGate (by decide +kernel)
  obtain ⟨after, receiptAfter, returnedAfter⟩ := returns_of_ok (failingAt "c") forkBypassed (by decide +kernel)
  simp only [returned, Except.map, Except.ok.injEq, Prod.mk.injEq, decide_eq_true_eq, decide_eq_false_iff_not] at ran
  simp only [returnedAfter, Except.map, Except.ok.injEq, decide_eq_true_eq] at ranAfter
  exact ⟨execution, receipt, after, receiptAfter, returned, returnedAfter, ran.1,
    fun same => ran.2 ((same "d" (by decide)).mp ranAfter)⟩

-- Connecting a passing gate's predecessors to its successors changes what
-- they are cast from, and in a failing run which nodes are cast at all.
theorem passing_gate_not_bypassed :
    compileProgram openGate = .ok (asCompiled openGate) ∧
      compileProgram gateBypassed = .ok (asCompiled gateBypassed) ∧
      Passes agreeing (asCompiled openGate) sampleRuntime.branchId (gateOf "g" .coherent ["s"]) ∧
      GateReconnected (asCompiled openGate) (gateOf "g" .coherent ["s"]) (asCompiled gateBypassed) ∧
      ¬ ViewsAgree agreeing sampleRuntime.branchId (asCompiled openGate) (asCompiled gateBypassed) "g" ∧
      GateReconnected forkedGate (gateOf "g" .coherent ["c", "d"]) forkBypassed ∧
      ∃ execution receipt after receiptAfter,
        executeProgram (failingAt "c") sampleRuntime forkedGate = .ok (execution, receipt) ∧
          executeProgram (failingAt "c") sampleRuntime forkBypassed = .ok (after, receiptAfter) ∧
          (∃ entry ∈ receipt.nodes, entry.nodeId = "g" ∧ entry.status = .ok) ∧
          ¬ SameNodesExecuted "g" execution after receipt receiptAfter :=
  ⟨compile_of_ok openGate (by decide +kernel), compile_of_ok gateBypassed (by decide +kernel), open_gate_passes, rfl,
    bypass_gives_parent, rfl, failing_run_reordered⟩

end Vermyth
