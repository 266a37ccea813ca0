import Vermyth.Engine.Orderly

set_option autoImplicit false

namespace Vermyth

open Foundation

-- An entry in node_results or an OK receipt.
def Executed (execution : ProgramExecution) (receipt : ExecutionReceipt) (nodeId : String) : Prop :=
  nodeId ∈ execution.nodeResults ∨ ∃ entry ∈ receipt.nodes, entry.nodeId = nodeId ∧ entry.status = .ok

instance (execution : ProgramExecution) (receipt : ExecutionReceipt) (nodeId : String) :
    Decidable (Executed execution receipt nodeId) :=
  inferInstanceAs (Decidable (_ ∨ _))

-- A cast the loop comes to unblocked and whose preconditions hold even
-- without any predecessor result.
def StartsUnfed (node : CastNode) (state : RunState) : Prop :=
  node.nodeType.isCast = true ∧ node.nodeId ∉ state.blocked ∧
    conditionsHold (preContext []) node.preconditions = true

def Succeeds (engine : Engine) (node : CastNode) : Prop :=
  ∃ attempt, 1 ≤ attempt ∧ attempt ≤ node.attempts ∧ ∃ base, castNode engine node attempt = .ok base

theorem succeeds_iff (engine : Engine) (node : CastNode) :
    Succeeds engine node ↔ (retry (castNode engine node) node.attempts).value ≠ none := by
  rw [ne_eq, retry_exhausted]
  simp only [Succeeds, not_forall, not_exists]
  refine exists_congr fun attempt => ?_
  cases castNode engine node attempt <;> simp

-- Without predecessor results a gate does not pass and a merge has nothing
-- to merge, so only casts are tried.
theorem observed_unfed (engine : Engine) (program : SemanticProgram) (branchId : String) (node : CastNode)
    (state : RunState) (outcome : Outcome) (unfed : predResults program node state = [])
    (observed : Observed engine branchId node (predResults program node state)
      (decide (node.nodeId ∈ state.blocked)) outcome) :
    (outcome.status? = some .ok ↔ StartsUnfed node state ∧ Succeeds engine node) ∧
      (outcome.status? = some .failed ↔ StartsUnfed node state ∧ ¬ Succeeds engine node) := by
  rw [unfed] at observed
  rw [succeeds_iff]
  by_cases isBlocked : node.nodeId ∈ state.blocked
  · simp only [isBlocked, decide_true] at observed
    cases observed
    simp [Outcome.status?, StartsUnfed, isBlocked]
  · simp only [isBlocked, decide_false] at observed
    cases observed with
    | preconditionFailed pre evaluated refused =>
        simp [Outcome.status?, StartsUnfed, conditions_hold_ok _ _ pre evaluated, refused]
    | gate pre evaluated passed type =>
        simp [Outcome.status?, StartsUnfed, type, NodeType.isCast, gateOk]
    | nothingToMerge pre evaluated passed type =>
        simp [Outcome.status?, StartsUnfed, type, NodeType.isCast]
    | merged pre result evaluated passed type merges =>
        rw [(merge_result_none node []).mpr rfl] at merges
        cases merges
    | failed pre evaluated passed type exhausted =>
        simp [Outcome.status?, StartsUnfed, type, isBlocked, exhausted, conditions_hold_ok _ _ pre evaluated, passed]
    | ran pre post base evaluated passed type succeeded =>
        simp [Outcome.status?, StartsUnfed, type, isBlocked, succeeded, conditions_hold_ok _ _ pre evaluated, passed]

section Run

variable (engine : Engine) (program : SemanticProgram) (branchId : String) (acyclic : program.Acyclic)
  (seen : List Visit) (run : RunOf engine program branchId seen)

include acyclic run

theorem run_result_ok (visit : Visit) (member : visit ∈ seen) (result : CastResult)
    (found : visit.outcome.result? = some result) : visit.outcome.status? = some .ok := by
  obtain ⟨state, _, _, observed⟩ := visit_comes_to engine program branchId acyclic seen run visit member
  exact ((observed_result engine branchId visit.node _ _ visit.outcome observed).mp (by simp [found])).2

theorem run_executed (execution : ProgramExecution) (receipt : ExecutionReceipt) (runtime : Runtime)
    (executionEq : execution = executionOf runtime program (tables seen))
    (nodesEq : receipt.nodes = (tables seen).receiptNodes) (nodeId : String) :
    Executed execution receipt nodeId ↔
      ∃ visit ∈ seen, visit.nodeId = nodeId ∧ visit.outcome.status? = some .ok := by
  rw [Executed, nodesEq, run_entry engine program branchId seen run nodeId .ok (by decide)]
  refine or_iff_right_of_imp fun key => ?_
  rw [executionEq] at key
  obtain ⟨castId, listed⟩ := Option.isSome_iff_exists.mp (AList.lookup_isSome.mpr key)
  obtain ⟨visit, member, sameId, result, found, _⟩ :=
    (run_has_result engine program branchId acyclic seen run nodeId castId).mp listed
  exact ⟨visit, member, sameId, run_result_ok engine program branchId acyclic seen run visit member result found⟩

theorem run_unfed (node : CastNode)
    (idle : ∀ source, program.Edge source node.nodeId →
      ¬ ∃ visit ∈ seen, visit.nodeId = source ∧ visit.outcome.status? = some .ok) :
    predResults program node (tables seen) = [] := by
  rw [predResults, List.filterMap_eq_nil_iff]
  intro source isPredecessor
  have link := (mem_predecessors program source node.nodeId).mp isPredecessor
  by_cases visited : source ∈ seen.map Visit.nodeId
  · obtain ⟨visit, member, sameId⟩ := List.mem_map.mp visited
    rw [← sameId, run_result engine program branchId acyclic seen run visit member]
    cases found : visit.outcome.result? with
    | none => rfl
    | some result =>
        have ok := run_result_ok engine program branchId acyclic seen run visit member result found
        exact absurd ⟨visit, member, sameId, ok⟩ (idle source link)
  · exact tables_results_none seen source visited

end Run

def Unmet (program : SemanticProgram) (guard : CastNode) (state : RunState) : Prop :=
  (guard.nodeType = .gate ∧ gateOk guard (predResults program guard state) = false) ∨
    ∃ pre, evalConditions (preContext (predResults program guard state)) guard.preconditions = .ok pre ∧
      pre.all ConditionResult.ok = false

def GateContained (engine : Engine) (program : SemanticProgram) (branchId : String) (execution : ProgramExecution)
    (receipt : ExecutionReceipt) : Prop :=
  ∀ guard state, ComesTo engine program branchId guard state → Unmet program guard state →
    ∀ nodeId, Dominates program.Edge guard.nodeId nodeId → ¬ Executed execution receipt nodeId

-- The loop never comes to a cast below an unmet guard that it would start:
-- one that no direct predecessor blocked.
def NoCastStartsBelow (engine : Engine) (program : SemanticProgram) (branchId : String) : Prop :=
  ∀ guard before, ComesTo engine program branchId guard before → Unmet program guard before →
    ∀ node state, ComesTo engine program branchId node state → node.nodeId ≠ guard.nodeId →
      Dominates program.Edge guard.nodeId node.nodeId → ¬ (StartsUnfed node state ∧ Succeeds engine node)

theorem observed_unmet (engine : Engine) (program : SemanticProgram) (branchId : String) (guard : CastNode)
    (state : RunState) (isBlocked : Bool) (outcome : Outcome) (unmet : Unmet program guard state)
    (observed : Observed engine branchId guard (predResults program guard state) isBlocked outcome) :
    outcome.status? ≠ some .ok := by
  have refuted : ∀ pre, evalConditions (preContext (predResults program guard state)) guard.preconditions = .ok pre →
      pre.all ConditionResult.ok = true →
        guard.nodeType = .gate ∧ gateOk guard (predResults program guard state) = false := by
    intro pre evaluated passed
    rcases unmet with shut | ⟨other, again, refused⟩
    · exact shut
    · rw [evaluated, Except.ok.injEq] at again
      rw [← again, passed] at refused
      cases refused
  cases observed with
  | blocked => simp [Outcome.status?]
  | preconditionFailed => simp [Outcome.status?]
  | gate pre evaluated passed type => simp [Outcome.status?, (refuted pre evaluated passed).2]
  | nothingToMerge => simp [Outcome.status?]
  | merged pre result evaluated passed type merges =>
      have gate := (refuted pre evaluated passed).1
      rw [type] at gate
      cases gate
  | failed => simp [Outcome.status?]
  | ran pre post base evaluated passed type =>
      rw [(refuted pre evaluated passed).1] at type
      cases type

theorem skipped_unmet (engine : Engine) (program : SemanticProgram) (branchId : String) (acyclic : program.Acyclic)
    (seen : List Visit) (run : RunOf engine program branchId seen) (nodeId : String)
    (skipped : ∃ entry ∈ (tables seen).receiptNodes, entry.nodeId = nodeId ∧ entry.status = .skipped) :
    ∃ guard state, guard.nodeId = nodeId ∧ ComesTo engine program branchId guard state ∧
      Unmet program guard state := by
  obtain ⟨visit, member, sameId, status⟩ :=
    (run_entry engine program branchId seen run nodeId .skipped (by decide)).mp skipped
  obtain ⟨state, comes, _, observed⟩ := visit_comes_to engine program branchId acyclic seen run visit member
  refine ⟨visit.node, state, sameId, comes, ?_⟩
  generalize visit.outcome = outcome at observed status
  generalize decide (visit.nodeId ∈ state.blocked) = isBlocked at observed
  cases observed with
  | preconditionFailed pre evaluated refused => exact Or.inr ⟨pre, evaluated, refused⟩
  | gate pre evaluated passed type =>
      cases ok : gateOk visit.node (predResults program visit.node state) with
      | false => exact Or.inl ⟨type, ok⟩
      | true => simp [Outcome.status?, ok] at status
  | _ => cases status

theorem gate_contained_iff (engine : Engine) (runtime : Runtime) (program compiled : SemanticProgram)
    (accepted : compileProgram program = .ok compiled) (execution : ProgramExecution) (receipt : ExecutionReceipt)
    (returned : executeProgram engine runtime program = .ok (execution, receipt)) :
    GateContained engine compiled runtime.branchId execution receipt ↔
      NoCastStartsBelow engine compiled runtime.branchId := by
  have acyclic := compiled_acyclic program compiled accepted
  obtain ⟨seen, run, executionEq, nodesEq, _⟩ :=
    accepted_run engine runtime program compiled accepted execution receipt returned
  have executed := run_executed engine compiled runtime.branchId acyclic seen run execution receipt runtime
    executionEq nodesEq
  have unfed := run_unfed engine compiled runtime.branchId acyclic seen run
  constructor
  · intro contained guard before comesGuard unmet node state comes below dominated starts
    obtain ⟨visit, member, sameNode, results, observed⟩ :=
      comes_to_visit engine compiled runtime.branchId acyclic seen run node state comes
    have empty : predResults compiled node state = [] := by
      rw [results]
      apply unfed node
      intro source link
      rw [← executed]
      exact contained guard before comesGuard unmet source
        (dominates_predecessor guard.nodeId node.nodeId source dominated below link)
    have ok := (observed_unfed engine compiled runtime.branchId node state visit.outcome empty observed).1.mpr starts
    exact contained guard before comesGuard unmet node.nodeId dominated
      ((executed node.nodeId).mpr ⟨visit, member, congrArg CastNode.nodeId sameNode, ok⟩)
  · intro quiet guard before comesGuard unmet
    -- induction down the order: below the guard nothing completes
    have below : ∀ nodeId ∈ compiled.order, Dominates compiled.Edge guard.nodeId nodeId →
        ¬ ∃ visit ∈ seen, visit.nodeId = nodeId ∧ visit.outcome.status? = some .ok := by
      apply topo_induction compiled.order acyclic.sorted
      rintro nodeId known ih dominated ⟨visit, member, sameId, ok⟩
      obtain ⟨state, comes, results, observed⟩ :=
        visit_comes_to engine compiled runtime.branchId acyclic seen run visit member
      by_cases atGuard : nodeId = guard.nodeId
      · obtain ⟨other, inSeen, sameNode, _, sawGuard⟩ :=
          comes_to_visit engine compiled runtime.branchId acyclic seen run guard before comesGuard
        have same : other = visit := run_same_id engine compiled runtime.branchId acyclic seen run.toVisitsOf other
          visit inSeen member ((congrArg CastNode.nodeId sameNode).trans (atGuard.symm.trans sameId.symm))
        exact observed_unmet engine compiled runtime.branchId guard before _ other.outcome unmet sawGuard (same ▸ ok)
      · have empty : predResults compiled visit.node state = [] := by
          rw [results]
          apply unfed visit.node
          intro source link
          have linked : compiled.Edge source nodeId := sameId ▸ link
          exact ih source linked (dominates_predecessor guard.nodeId nodeId source dominated atGuard linked)
        have starts := (observed_unfed engine compiled runtime.branchId visit.node state visit.outcome empty
          observed).1.mp ok
        have isId : visit.node.nodeId = nodeId := sameId
        exact quiet guard before comesGuard unmet visit.node state comes (isId ▸ atGuard) (isId ▸ dominated) starts
    intro nodeId dominated isExecuted
    obtain ⟨visit, member, sameId, ok⟩ := (executed nodeId).mp isExecuted
    have known : nodeId ∈ compiled.order := by
      rw [acyclic.complete.mem_iff, ← sameId]
      exact List.mem_map_of_mem (run_node engine compiled runtime.branchId seen run.toVisitsOf visit member)
    exact below nodeId known dominated ⟨visit, member, sameId, ok⟩

theorem gate_contained_iff_dead_gate : ∃ execution receipt,
    executeProgram refusing sampleRuntime deadGate = .ok (execution, receipt) ∧
      (GateContained refusing { deadGate with status := .compiled } sampleRuntime.branchId execution receipt ↔
        NoCastStartsBelow refusing { deadGate with status := .compiled } sampleRuntime.branchId) := by
  obtain ⟨execution, receipt, returned, _, _⟩ := dead_gate_run
  exact ⟨execution, receipt, returned, gate_contained_iff refusing sampleRuntime deadGate _
    (compile_of_ok deadGate (by decide +kernel)) execution receipt returned⟩

theorem dead_gate_dominates : Dominates deadGate.Edge "g" "b" := by
  have fed : ∀ source target, source ∈ deadGate.predecessors target → ¬ Source deadGate.Edge target :=
    fun source target link first => first source ((mem_predecessors deadGate source target).mp link)
  have belowA : Dominates deadGate.Edge "g" "a" := by
    refine dominates_of_predecessors "g" "a" (fed "g" "a" (by decide)) fun source link => ?_
    have only : source ∈ ["g"] := (mem_predecessors deadGate source "a").mpr link
    rw [List.mem_singleton.mp only]
    exact dominates_self "g"
  refine dominates_of_predecessors "g" "b" (fed "a" "b" (by decide)) fun source link => ?_
  have only : source ∈ ["a"] := (mem_predecessors deadGate source "b").mpr link
  rw [List.mem_singleton.mp only]
  exact belowA

theorem cast_runs_below_shut_gate :
    compileProgram deadGate = .ok { deadGate with status := .compiled } ∧
      ∃ execution receipt, executeProgram refusing sampleRuntime deadGate = .ok (execution, receipt) ∧
        ¬ GateContained refusing { deadGate with status := .compiled } sampleRuntime.branchId execution receipt := by
  have accepted := compile_of_ok deadGate (by decide +kernel)
  refine ⟨accepted, ?_⟩
  obtain ⟨execution, receipt, returned, _, entries⟩ := dead_gate_run
  refine ⟨execution, receipt, returned, ?_⟩
  intro contained
  obtain ⟨seen, run, _, nodesEq, _⟩ :=
    accepted_run refusing sampleRuntime deadGate _ accepted execution receipt returned
  have listed : ∀ nodeId status, (nodeId, status) ∈ receipt.nodes.map NodeExecutionReceipt.entry →
      ∃ entry ∈ receipt.nodes, entry.nodeId = nodeId ∧ entry.status = status := by
    intro nodeId status member
    obtain ⟨entry, inReceipt, pairEq⟩ := List.mem_map.mp member
    exact ⟨entry, inReceipt, Prod.mk.inj pairEq⟩
  obtain ⟨guard, state, isGate, comes, unmet⟩ := skipped_unmet refusing _ sampleRuntime.branchId
    (compiled_acyclic deadGate _ accepted) seen run "g" (nodesEq ▸ listed "g" .skipped (by rw [entries]; decide))
  exact contained guard state comes unmet "b" (isGate ▸ dead_gate_dominates)
    (Or.inr (listed "b" .ok (by rw [entries]; decide)))

end Vermyth
