import Vermyth.Engine.Receipts

set_option autoImplicit false

namespace Vermyth

open Foundation

-- A cast the run comes to unblocked, with its preconditions met, and whose
-- every attempt raises.
def Exhausts (engine : Engine) (program : SemanticProgram) (node : CastNode) (state : RunState) : Prop :=
  node.nodeType.isCast = true ∧ node.nodeId ∉ state.blocked ∧
    conditionsHold (preContext (predResults program node state)) node.preconditions = true ∧
    ∀ attempt, 1 ≤ attempt → attempt ≤ node.attempts → ∃ raised, castNode engine node attempt = .error raised

def SemanticProgram.isCastId (program : SemanticProgram) (nodeId : String) : Bool :=
  (program.node? nodeId).any fun node => node.nodeType.isCast

def completedCasts (program : SemanticProgram) (receipt : ExecutionReceipt) : List String :=
  (receipt.nodes.filter fun entry => decide (entry.status = .ok) && program.isCastId entry.nodeId).map
    NodeExecutionReceipt.nodeId

def rolledBack (receipt : ExecutionReceipt) : List String :=
  (receipt.nodes.filter fun entry => decide (entry.status = .rolledBack)).map NodeExecutionReceipt.nodeId

structure OrderlyRun (engine : Engine) (program : SemanticProgram) (branchId : String)
    (execution : ProgramExecution) (receipt : ExecutionReceipt) : Prop where
  predecessorsFirst : ∀ pre nodeId state,
    Reaches (nodeLoop engine program branchId) program.order {} pre nodeId state →
      ∀ source, program.Edge source nodeId → source ∈ pre
  finished : execution.status = .completed ∨ execution.status = .failed
  sameStatus : receipt.status = execution.status
  failedIff : execution.status = .failed ↔
    ∃ node state, ComesTo engine program branchId node state ∧ Exhausts engine program node state
  failureLast : ∀ node state, ComesTo engine program branchId node state → Exhausts engine program node state →
    ∀ pre nodeId later, Reaches (nodeLoop engine program branchId) program.order {} pre nodeId later →
      node.nodeId ∉ pre
  rollbacks : rolledBack receipt =
    if execution.status = .failed then (completedCasts program receipt).reverse else []
  rollbacksOnce : (rolledBack receipt).Nodup
  retriesBelow : ∀ entry ∈ receipt.nodes,
    ∃ node ∈ program.nodes, node.nodeId = entry.nodeId ∧ entry.retries < node.attempts
  resultKeys : ∀ nodeId, nodeId ∈ execution.nodeResults ↔
    ∃ node ∈ program.nodes, node.nodeId = nodeId ∧ node.nodeType ≠ .gate ∧
      ∃ entry ∈ receipt.nodes, entry.nodeId = nodeId ∧ entry.status = .ok
  mergedFrom : ∀ node ∈ program.nodes, node.nodeType = .merge →
    ∀ castId ∈ execution.nodeResults.lookup node.nodeId,
      ∃ source, program.Edge source node.nodeId ∧ castId ∈ execution.nodeResults.lookup source

theorem merge_result_mem (node : CastNode) (results : List CastResult) (result : CastResult)
    (merges : mergeResult node results = some result) : result ∈ results := by
  simp only [mergeResult] at merges
  split at merges
  · cases found : results.find? fun result => result.verdict.verdictType == .coherent with
    | none =>
        simp only [found, Option.orElse_none] at merges
        exact List.mem_of_head? merges
    | some coherent =>
        simp only [found, Option.orElse_some, Option.some.injEq] at merges
        exact merges ▸ List.mem_of_find?_eq_some found
  · exact best_resonance_mem results result merges

theorem observed_result (engine : Engine) (branchId : String) (node : CastNode) (results : List CastResult)
    (isBlocked : Bool) (outcome : Outcome) (observed : Observed engine branchId node results isBlocked outcome) :
    outcome.result?.isSome = true ↔ node.nodeType ≠ .gate ∧ outcome.status? = some .ok := by
  cases observed with
  | blocked => simp [Outcome.result?, Outcome.status?]
  | preconditionFailed => simp [Outcome.result?, Outcome.status?]
  | gate pre evaluated passed type => simp [Outcome.result?, type]
  | nothingToMerge => simp [Outcome.result?, Outcome.status?]
  | merged pre result evaluated passed type merges => simp [Outcome.result?, Outcome.status?, type]
  | failed => simp [Outcome.result?, Outcome.status?]
  | ran pre post base evaluated passed type =>
      have noGate : node.nodeType ≠ .gate := by
        intro gate
        simp [gate, NodeType.isCast] at type
      simp [Outcome.result?, Outcome.status?, noGate]

theorem observed_run (engine : Engine) (branchId : String) (node : CastNode) (results : List CastResult)
    (isBlocked : Bool) (outcome : Outcome) (observed : Observed engine branchId node results isBlocked outcome) :
    outcome.hasRun = (decide (outcome.status? = some .ok) && node.nodeType.isCast) := by
  cases observed with
  | gate pre evaluated passed type => simp [Outcome.hasRun, type, NodeType.isCast]
  | merged pre result evaluated passed type merges => simp [Outcome.hasRun, type, NodeType.isCast]
  | ran pre post base evaluated passed type => simp [Outcome.hasRun, Outcome.status?, type]
  | _ => simp [Outcome.hasRun, Outcome.status?]

theorem observed_failed (engine : Engine) (program : SemanticProgram) (branchId : String) (node : CastNode)
    (state : RunState) (outcome : Outcome)
    (observed : Observed engine branchId node (predResults program node state)
      (decide (node.nodeId ∈ state.blocked)) outcome) :
    outcome.fails = true ↔ Exhausts engine program node state := by
  by_cases isBlocked : node.nodeId ∈ state.blocked
  · simp only [isBlocked, decide_true] at observed
    cases observed
    simp [Outcome.fails, Exhausts, isBlocked]
  · simp only [isBlocked, decide_false] at observed
    have exhausted := retry_exhausted (castNode engine node) node.attempts
    cases observed with
    | preconditionFailed pre evaluated refused =>
        simp [Outcome.fails, Exhausts, conditions_hold_ok _ _ pre evaluated, refused]
    | gate pre evaluated passed type => simp [Outcome.fails, Exhausts, type, NodeType.isCast]
    | nothingToMerge pre evaluated passed type => simp [Outcome.fails, Exhausts, type, NodeType.isCast]
    | merged pre result evaluated passed type => simp [Outcome.fails, Exhausts, type, NodeType.isCast]
    | failed pre evaluated passed type nothing =>
        have all := exhausted.mp nothing
        exact iff_of_true rfl ⟨type, isBlocked, (conditions_hold_ok _ _ pre evaluated).trans passed, all⟩
    | ran pre post base evaluated passed type succeeded =>
        simp only [Outcome.fails, Bool.false_eq_true, false_iff]
        intro exhausts
        rw [exhausted.mpr exhausts.2.2.2] at succeeded
        cases succeeded

theorem status_forward (outcome : Outcome) (status : NodeExecutionStatus)
    (receipted : outcome.status? = some status) : status ≠ .rolledBack := by
  rintro rfl
  cases outcome with
  | gate pre ok => cases ok <;> cases receipted
  | _ => cases receipted

theorem observed_retries (engine : Engine) (branchId : String) (node : CastNode) (results : List CastResult)
    (isBlocked : Bool) (outcome : Outcome) (observed : Observed engine branchId node results isBlocked outcome)
    (entry : NodeExecutionReceipt) (receipted : entry ∈ (Visit.mk node outcome).receipts) :
    entry.nodeId = node.nodeId ∧ entry.retries < node.attempts := by
  have some := attempts_pos node
  have few := retry_retries (castNode engine node) node.attempts some
  cases observed <;>
    simp only [Visit.receipts, List.mem_singleton, List.not_mem_nil] at receipted <;>
    first
    | exact receipted.elim
    | exact receipted ▸ ⟨rfl, some⟩
    | exact receipted ▸ ⟨rfl, few⟩

section Run

variable (engine : Engine) (program : SemanticProgram) (branchId : String) (acyclic : program.Acyclic)
  (seen : List Visit) (run : RunOf engine program branchId seen)

include acyclic run

theorem run_failed : (tables seen).status = .failed ↔
    ∃ node state, ComesTo engine program branchId node state ∧ Exhausts engine program node state := by
  have failed : (tables seen).status = .failed ↔ ∃ visit ∈ seen, visit.fails = true := by
    rw [tables_status]
    cases fails : seen.any Visit.fails <;> simpa using fails
  rw [failed]
  constructor
  · rintro ⟨visit, member, fails⟩
    obtain ⟨state, comes, _, observed⟩ := visit_comes_to engine program branchId acyclic seen run visit member
    exact ⟨visit.node, state, comes,
      (observed_failed engine program branchId visit.node state visit.outcome observed).mp fails⟩
  · rintro ⟨node, state, comes, exhausts⟩
    obtain ⟨visit, member, _, _, observed⟩ :=
      comes_to_visit engine program branchId acyclic seen run node state comes
    exact ⟨visit, member, (observed_failed engine program branchId node state visit.outcome observed).mpr exhausts⟩

theorem run_failure_last (node : CastNode) (state : RunState) (comes : ComesTo engine program branchId node state)
    (exhausts : Exhausts engine program node state) (pre : List String) (nodeId : String) (later : RunState)
    (reached : Reaches (nodeLoop engine program branchId) program.order {} pre nodeId later) :
    node.nodeId ∉ pre := by
  intro behind
  obtain ⟨visit, member, sameNode, _, observed⟩ :=
    comes_to_visit engine program branchId acyclic seen run node state comes
  have fails : visit.fails = true :=
    (observed_failed engine program branchId node state visit.outcome observed).mpr exhausts
  obtain ⟨early, last, late, split, _, ids, _⟩ :=
    run_reaches engine program branchId acyclic seen run pre nodeId later reached
  rw [← ids] at behind
  obtain ⟨other, inEarly, sameId⟩ := List.mem_map.mp behind
  have same : other = visit := run_same_id engine program branchId acyclic seen run.toVisitsOf other visit
    (split ▸ List.mem_append_left _ inEarly) member (sameId.trans (congrArg CastNode.nodeId sameNode).symm)
  have goesOn := (run_cut engine program branchId seen run.toVisitsOf early late last split).2.1 other inEarly
  rw [same, fails] at goesOn
  cases goesOn

theorem run_has_result (nodeId : String) (castId : String) :
    castId ∈ (tables seen).nodeResults.lookup nodeId ↔
      ∃ visit ∈ seen, visit.nodeId = nodeId ∧ ∃ result, visit.outcome.result? = some result ∧
        result.castId = castId := by
  rw [tables_node_results]
  constructor
  · intro listed
    obtain ⟨result, found, sameCast⟩ := Option.map_eq_some_iff.mp listed
    by_cases visited : nodeId ∈ seen.map Visit.nodeId
    · obtain ⟨visit, member, sameId⟩ := List.mem_map.mp visited
      rw [← sameId, run_result engine program branchId acyclic seen run visit member] at found
      exact ⟨visit, member, sameId, result, found, sameCast⟩
    · rw [tables_results_none seen nodeId visited] at found
      cases found
  · rintro ⟨visit, member, sameId, result, found, sameCast⟩
    rw [← sameId, run_result engine program branchId acyclic seen run visit member, found]
    exact congrArg some sameCast

theorem run_result_keys (nodeId : String) : nodeId ∈ (tables seen).nodeResults ↔
    ∃ node ∈ program.nodes, node.nodeId = nodeId ∧ node.nodeType ≠ .gate ∧
      ∃ entry ∈ (tables seen).receiptNodes, entry.nodeId = nodeId ∧ entry.status = .ok := by
  rw [run_entry engine program branchId seen run nodeId .ok (by decide), ← AList.lookup_isSome,
    Option.isSome_iff_exists]
  constructor
  · rintro ⟨castId, listed⟩
    obtain ⟨visit, member, sameId, result, found, _⟩ :=
      (run_has_result engine program branchId acyclic seen run nodeId castId).mp listed
    obtain ⟨state, comes, _, observed⟩ := visit_comes_to engine program branchId acyclic seen run visit member
    have due := (observed_result engine branchId visit.node _ _ visit.outcome observed).mp (by simp [found])
    exact ⟨visit.node, comes.1, sameId, due.1, visit, member, sameId, due.2⟩
  · rintro ⟨node, known, sameNode, noGate, visit, member, sameId, ok⟩
    obtain ⟨state, comes, _, observed⟩ := visit_comes_to engine program branchId acyclic seen run visit member
    have same : visit.node = node :=
      node_unique program visit.node node comes.1 known (sameId.trans sameNode.symm)
    have found := (observed_result engine branchId visit.node _ _ visit.outcome observed).mpr ⟨same ▸ noGate, ok⟩
    obtain ⟨result, resultEq⟩ := Option.isSome_iff_exists.mp found
    exact ⟨result.castId, (run_has_result engine program branchId acyclic seen run nodeId result.castId).mpr
      ⟨visit, member, sameId, result, resultEq, rfl⟩⟩

theorem run_merged_from (node : CastNode) (known : node ∈ program.nodes) (isMerge : node.nodeType = .merge)
    (castId : String) (listed : castId ∈ (tables seen).nodeResults.lookup node.nodeId) :
    ∃ source, program.Edge source node.nodeId ∧ castId ∈ (tables seen).nodeResults.lookup source := by
  obtain ⟨visit, member, sameId, result, found, sameCast⟩ :=
    (run_has_result engine program branchId acyclic seen run node.nodeId castId).mp listed
  obtain ⟨state, comes, results, observed⟩ := visit_comes_to engine program branchId acyclic seen run visit member
  have same : visit.node = node := node_unique program visit.node node comes.1 known sameId
  generalize visit.outcome = outcome at observed found
  generalize decide (visit.nodeId ∈ state.blocked) = isBlocked at observed
  cases observed with
  | merged pre merged evaluated passed type merges =>
      simp only [Outcome.result?, Option.some.injEq] at found
      have inside := merge_result_mem visit.node _ merged merges
      rw [results] at inside
      obtain ⟨source, isPredecessor, holds⟩ := List.mem_filterMap.mp inside
      refine ⟨source, sameId ▸ (mem_predecessors program source visit.nodeId).mp isPredecessor, ?_⟩
      rw [tables_node_results, holds, found]
      exact congrArg some sameCast
  | ran pre post base evaluated passed type =>
      rw [same, isMerge] at type
      cases type
  | _ => cases found

theorem run_retries (entry : NodeExecutionReceipt) (receipted : entry ∈ (tables seen).receiptNodes) :
    ∃ node ∈ program.nodes, node.nodeId = entry.nodeId ∧ entry.retries < node.attempts := by
  rw [run_receipts seen fun early late visit split =>
    (run_cut engine program branchId seen run.toVisitsOf early late visit split).2.2, List.mem_append] at receipted
  rcases receipted with visited | undone
  · obtain ⟨visit, member, inReceipts⟩ := List.mem_flatMap.mp visited
    obtain ⟨state, comes, _, observed⟩ := visit_comes_to engine program branchId acyclic seen run visit member
    obtain ⟨sameId, few⟩ := observed_retries engine branchId visit.node _ _ visit.outcome observed entry inReceipts
    exact ⟨visit.node, comes.1, sameId.symm, few⟩
  · split at undone
    · obtain ⟨node, queued, isEntry⟩ := List.mem_map.mp undone
      rw [List.mem_reverse, tables_queue] at queued
      obtain ⟨visit, kept, sameNode⟩ := List.mem_map.mp queued
      have known := run_node engine program branchId seen run.toVisitsOf visit (List.mem_of_mem_filter kept)
      exact ⟨node, sameNode ▸ known, isEntry ▸ rfl, isEntry ▸ attempts_pos node⟩
    · cases undone

omit acyclic in
theorem run_rolled_back (receipt : ExecutionReceipt) (nodesEq : receipt.nodes = (tables seen).receiptNodes) :
    rolledBack receipt = if seen.any Visit.fails then
      ((seen.filter fun visit => visit.outcome.hasRun).map Visit.nodeId).reverse else [] := by
  have byEntry : rolledBack receipt =
      ((receipt.nodes.map NodeExecutionReceipt.entry).filter fun entry => decide (entry.2 = .rolledBack)).map
        Prod.fst := by
    rw [rolledBack, List.filter_map, List.map_map]
    rfl
  have forward : ((seen.filterMap Visit.entry?).filter fun entry => decide (entry.2 = .rolledBack)) = [] := by
    rw [List.filter_eq_nil_iff]
    intro entry listed
    obtain ⟨visit, _, isEntry⟩ := List.mem_filterMap.mp listed
    obtain ⟨status, statusEq, pairEq⟩ := Option.map_eq_some_iff.mp isEntry
    rw [← pairEq]
    simpa using status_forward visit.outcome status statusEq
  rw [byEntry, nodesEq, run_entries seen fun early late visit split =>
    (run_cut engine program branchId seen run.toVisitsOf early late visit split).2.2, List.filter_append, forward,
    tables_queue]
  cases seen.any Visit.fails with
  | false => rfl
  | true => simp [List.filter_map, Function.comp_def, Visit.nodeId]

theorem run_completed_casts (receipt : ExecutionReceipt) (nodesEq : receipt.nodes = (tables seen).receiptNodes) :
    completedCasts program receipt =
      (seen.filter fun visit => visit.outcome.hasRun).map Visit.nodeId := by
  have byEntry : completedCasts program receipt = ((receipt.nodes.map NodeExecutionReceipt.entry).filter
      fun entry => decide (entry.2 = .ok) && program.isCastId entry.1).map Prod.fst := by
    rw [completedCasts, List.filter_map, List.map_map]
    rfl
  have undone : ∀ nodes : List CastNode, ((nodes.map fun node => (node.nodeId, NodeExecutionStatus.rolledBack)).filter
      fun entry => decide (entry.2 = .ok) && program.isCastId entry.1) = [] := by
    intro nodes
    rw [List.filter_eq_nil_iff]
    intro entry listed
    obtain ⟨node, _, pairEq⟩ := List.mem_map.mp listed
    simp [← pairEq]
  rw [byEntry, nodesEq, run_entries seen fun early late visit split =>
    (run_cut engine program branchId seen run.toVisitsOf early late visit split).2.2, List.filter_append,
    apply_ite (List.filter _), undone, List.filter_nil, ite_self, List.append_nil, List.filter_filterMap,
    List.map_filterMap, ← List.filterMap_eq_filter, List.map_filterMap]
  apply List.filterMap_congr
  intro visit member
  obtain ⟨state, comes, _, observed⟩ := visit_comes_to engine program branchId acyclic seen run visit member
  have ran := observed_run engine branchId visit.node _ _ visit.outcome observed
  have isCast : program.isCastId visit.nodeId = visit.node.nodeType.isCast := by
    rw [SemanticProgram.isCastId, Visit.nodeId, node_lookup program visit.node comes.1]
    rfl
  simp only [Option.guard, ran, Visit.entry?]
  cases visit.outcome.status? with
  | none => simp
  | some status =>
      simp only [Option.map_some, Option.filter, isCast, Option.some.injEq]
      cases decide (status = .ok) && visit.node.nodeType.isCast <;> rfl

end Run

theorem execution_orderly (engine : Engine) (runtime : Runtime) (program compiled : SemanticProgram)
    (accepted : compileProgram program = .ok compiled) (execution : ProgramExecution) (receipt : ExecutionReceipt)
    (returned : executeProgram engine runtime program = .ok (execution, receipt)) :
    OrderlyRun engine compiled runtime.branchId execution receipt := by
  have acyclic := compiled_acyclic program compiled accepted
  obtain ⟨seen, run, executionEq, nodesEq, statusEq, _⟩ :=
    accepted_run engine runtime program compiled accepted execution receipt returned
  have status : execution.status = (tables seen).status := by rw [executionEq]; rfl
  have results : execution.nodeResults = (tables seen).nodeResults := by rw [executionEq]; rfl
  have either : execution.status = if seen.any Visit.fails then .failed else .completed :=
    status.trans (tables_status seen)
  have undone := run_rolled_back engine compiled runtime.branchId seen run receipt nodesEq
  have casts := run_completed_casts engine compiled runtime.branchId acyclic seen run receipt nodesEq
  have distinct : ((seen.filter fun visit => visit.outcome.hasRun).map Visit.nodeId).Nodup :=
    (run_distinct engine compiled runtime.branchId acyclic seen run.toVisitsOf).sublist (List.filter_sublist.map _)
  refine
    { predecessorsFirst := ?_
      finished := ?_
      sameStatus := statusEq.trans status.symm
      failedIff := status ▸ run_failed engine compiled runtime.branchId acyclic seen run
      failureLast := run_failure_last engine compiled runtime.branchId acyclic seen run
      rollbacks := ?_
      rollbacksOnce := ?_
      retriesBelow := nodesEq ▸ run_retries engine compiled runtime.branchId acyclic seen run
      resultKeys := nodesEq ▸ results ▸ run_result_keys engine compiled runtime.branchId acyclic seen run
      mergedFrom := results ▸ run_merged_from engine compiled runtime.branchId acyclic seen run }
  · intro pre nodeId state reached source link
    obtain ⟨⟨rest, cut⟩, _⟩ := reached
    exact acyclic.sorted pre nodeId rest cut source link
  · rw [either]
    cases seen.any Visit.fails <;> simp
  · rw [undone, casts, either]
    cases seen.any Visit.fails <;> simp
  · rw [undone]
    split
    · exact List.nodup_reverse.mpr distinct
    · exact List.nodup_nil

def twoCasts : SemanticProgram where
  programId := "two-casts"
  nodes := [castOf "a" ["b"], castOf "b" []]
  entryNodeIds := ["a"]
  nodesNonempty := by simp
  entriesNonempty := entered
  distinctIds := by decide
  entriesKnown := by decide

def failingAt (nodeId : String) : Engine :=
  { agreeing with
    resolve := fun call name => if call.nodeId = nodeId then .error (.keyError name) else .ok name }

theorem execution_orderly_failing : ∃ execution receipt,
    executeProgram (failingAt "b") sampleRuntime twoCasts = .ok (execution, receipt) ∧
      receipt.nodes.map NodeExecutionReceipt.entry = [("a", .ok), ("b", .failed), ("a", .rolledBack)] ∧
      OrderlyRun (failingAt "b") { twoCasts with status := .compiled } sampleRuntime.branchId execution receipt := by
  have ran : (executeProgram (failingAt "b") sampleRuntime twoCasts).map
      (fun out => out.2.nodes.map NodeExecutionReceipt.entry) =
        .ok [("a", .ok), ("b", .failed), ("a", .rolledBack)] := by decide +kernel
  cases returned : executeProgram (failingAt "b") sampleRuntime twoCasts with
  | error raised => simp [returned, Except.map] at ran
  | ok out =>
      simp only [returned, Except.map, Except.ok.injEq] at ran
      exact ⟨out.1, out.2, rfl, ran, execution_orderly (failingAt "b") sampleRuntime twoCasts _
        (compile_of_ok twoCasts (by decide +kernel)) out.1 out.2 returned⟩

end Vermyth
