import Vermyth.Engine.Run

set_option autoImplicit false

namespace Vermyth

open Foundation

def Outcome.status? : Outcome → Option NodeExecutionStatus
  | .blocked => none
  | .preconditionFailed _ => some .skipped
  | .gate _ ok => some (if ok then .ok else .skipped)
  | .nothingToMerge => none
  | .merged _ _ => some .ok
  | .failed _ _ _ => some .failed
  | .ran _ _ _ _ => some .ok

def NodeExecutionReceipt.entry (receipt : NodeExecutionReceipt) : String × NodeExecutionStatus :=
  (receipt.nodeId, receipt.status)

def Visit.entry? (visit : Visit) : Option (String × NodeExecutionStatus) :=
  visit.outcome.status?.map fun status => (visit.nodeId, status)

theorem visit_entries (visit : Visit) :
    visit.receipts.map NodeExecutionReceipt.entry = visit.entry?.toList := by
  obtain ⟨node, outcome⟩ := visit
  cases outcome <;> rfl

theorem run_receipts (seen : List Visit)
    (quiet : ∀ early late visit, seen = early ++ visit :: late → late ≠ [] → visit.fails = false) :
    (tables seen).receiptNodes = seen.flatMap Visit.receipts ++
      if seen.any Visit.fails then (tables seen).rollbackQueue.reverse.map rollbackReceipt else [] := by
  cases seen using List.reverseRecOn with
  | nil => rfl
  | append_singleton early last =>
      have before : ∀ visit ∈ early, visit.fails = false := by
        intro visit member
        obtain ⟨front, back, split⟩ := List.append_of_mem member
        exact quiet front (back ++ [last]) visit (by rw [split]; simp) (by simp)
      have silent : early.any Visit.fails = false := by simpa using before
      rw [tables_append, record_receipts, record_queue, tables_receipts early before, List.any_append, silent]
      cases fails : last.fails with
      | false => simp [fails]
      | true =>
          have idle : last.outcome.hasRun = false := by
            obtain ⟨node, outcome⟩ := last
            cases outcome <;> first | rfl | cases fails
          simp [fails, idle]

theorem run_entries (seen : List Visit)
    (quiet : ∀ early late visit, seen = early ++ visit :: late → late ≠ [] → visit.fails = false) :
    (tables seen).receiptNodes.map NodeExecutionReceipt.entry = seen.filterMap Visit.entry? ++
      if seen.any Visit.fails then
        (tables seen).rollbackQueue.reverse.map fun node => (node.nodeId, NodeExecutionStatus.rolledBack)
      else [] := by
  rw [run_receipts seen quiet, List.map_append, List.map_flatMap]
  congr 1
  · rw [List.filterMap_eq_flatMap_toList]
    congr 1
    funext visit
    exact visit_entries visit
  · cases seen.any Visit.fails with
    | false => rfl
    | true => simp [Function.comp_def, NodeExecutionReceipt.entry, rollbackReceipt]

def ComesTo (engine : Engine) (program : SemanticProgram) (branchId : String) (node : CastNode)
    (state : RunState) : Prop :=
  node ∈ program.nodes ∧ ∃ pre, Reaches (nodeLoop engine program branchId) program.order {} pre node.nodeId state

def predResults (program : SemanticProgram) (node : CastNode) (state : RunState) : List CastResult :=
  (program.predecessors node.nodeId).filterMap state.resultsByNode

section Run

variable (engine : Engine) (program : SemanticProgram) (branchId : String) (acyclic : program.Acyclic)
  (seen : List Visit) (run : RunOf engine program branchId seen)

include run

theorem run_entry (nodeId : String) (status : NodeExecutionStatus) (forward : status ≠ .rolledBack) :
    (∃ receipt ∈ (tables seen).receiptNodes, receipt.nodeId = nodeId ∧ receipt.status = status) ↔
      ∃ visit ∈ seen, visit.nodeId = nodeId ∧ visit.outcome.status? = some status := by
  have listed : (∃ receipt ∈ (tables seen).receiptNodes, receipt.nodeId = nodeId ∧ receipt.status = status) ↔
      (nodeId, status) ∈ (tables seen).receiptNodes.map NodeExecutionReceipt.entry := by
    simp [NodeExecutionReceipt.entry]
  rw [listed, run_entries seen fun early late visit split =>
    (run_cut engine program branchId seen run.toVisitsOf early late visit split).2.2]
  cases seen.any Visit.fails with
  | false => simp [Visit.entry?, and_comm]
  | true => simp [Visit.entry?, forward.symm, and_comm]

theorem run_completed (completed : (tables seen).status = .completed) :
    program.order = seen.map Visit.nodeId ∧ ∀ visit ∈ seen, visit.fails = false := by
  have silent : seen.any Visit.fails = false := by
    rw [tables_status] at completed
    cases fails : seen.any Visit.fails with
    | false => rfl
    | true => simp [fails] at completed
  have quiet : ∀ visit ∈ seen, visit.fails = false := by simpa using silent
  have wentOn : broke Visit.fails seen = false := by
    rw [broke]
    cases last : seen.getLast? with
    | none => rfl
    | some visit => exact quiet visit (List.mem_of_getLast? last)
  exact ⟨run.ended wentOn, quiet⟩

include acyclic

theorem comes_to_visit (node : CastNode) (state : RunState) (comes : ComesTo engine program branchId node state) :
    ∃ visit ∈ seen, visit.node = node ∧ predResults program node state = predResults program node (tables seen) ∧
      Observed engine branchId node (predResults program node state) (decide (node.nodeId ∈ state.blocked))
        visit.outcome := by
  obtain ⟨known, pre, reached⟩ := comes
  obtain ⟨early, visit, late, split, sameId, _, stateEq⟩ :=
    run_reaches engine program branchId acyclic seen run pre node.nodeId state reached
  have member : visit ∈ seen := split ▸ List.mem_append_right _ List.mem_cons_self
  have sameNode : visit.node = node :=
    run_same_node engine program branchId seen run.toVisitsOf visit member node known sameId
  have saw := observe_observed _ _ _ _ _ _ (visit_observed engine program program.predecessors branchId _ visit
    (run_cut engine program branchId seen run.toVisitsOf early late visit split).1)
  have results := cut_results engine program branchId acyclic seen run.toVisitsOf early late visit split
  subst sameNode stateEq
  exact ⟨visit, member, rfl, results, saw⟩

theorem visit_comes_to (visit : Visit) (member : visit ∈ seen) :
    ∃ state, ComesTo engine program branchId visit.node state ∧
      predResults program visit.node state = predResults program visit.node (tables seen) ∧
      Observed engine branchId visit.node (predResults program visit.node state)
        (decide (visit.nodeId ∈ state.blocked)) visit.outcome := by
  obtain ⟨early, late, split⟩ := List.append_of_mem member
  have reached := visit_reached engine program branchId acyclic seen run.toVisitsOf early late visit split
  have saw := observe_observed _ _ _ _ _ _ (visit_observed engine program program.predecessors branchId _ visit
    (run_cut engine program branchId seen run.toVisitsOf early late visit split).1)
  exact ⟨tables early, ⟨run_node engine program branchId seen run.toVisitsOf visit member, _, reached⟩,
    cut_results engine program branchId acyclic seen run.toVisitsOf early late visit split, saw⟩

theorem run_result (visit : Visit) (member : visit ∈ seen) :
    (tables seen).resultsByNode visit.nodeId = visit.outcome.result? :=
  tables_results seen (run_distinct engine program branchId acyclic seen run.toVisitsOf) visit member

end Run

section Accepted

variable (engine : Engine) (runtime : Runtime) (program compiled : SemanticProgram)
  (accepted : compileProgram program = .ok compiled) (execution : ProgramExecution) (receipt : ExecutionReceipt)
  (returned : executeProgram engine runtime program = .ok (execution, receipt))

include accepted

theorem compiled_program_accepted : compiledProgram program = .ok compiled := by
  by_cases already : program.status = .compiled
  · have same := (compile_program_ok program compiled accepted).2
    rw [compiledProgram, if_pos already, same, ← already]
  · rw [compiledProgram, if_neg already, accepted]

theorem compiled_status : compiled.status = .compiled := by
  rw [(compile_program_ok program compiled accepted).2]

theorem compiled_acyclic : compiled.Acyclic := by
  obtain ⟨acyclic, same⟩ := compile_program_ok program compiled accepted
  rw [same]
  exact ⟨acyclic.closed, acyclic.complete, acyclic.sorted⟩

theorem execute_accepted :
    executeProgram engine runtime program = executeProgram engine runtime compiled := by
  have again : compiledProgram compiled = .ok compiled :=
    if_pos (compiled_status program compiled accepted)
  simp only [executeProgram, compiled_program_accepted program compiled accepted, again]

include returned

theorem accepted_run :
    ∃ seen, RunOf engine compiled runtime.branchId seen ∧
      execution = executionOf runtime compiled (tables seen) ∧
      receipt.nodes = (tables seen).receiptNodes ∧ receipt.status = (tables seen).status ∧
      receipt.executionId = runtime.executionId := by
  rw [execute_accepted engine runtime program compiled accepted] at returned
  exact execution_run engine runtime compiled (compiled_acyclic program compiled accepted)
    (compiled_status program compiled accepted) execution receipt returned

end Accepted

def dueStatus (program : SemanticProgram) (node : CastNode) (state : RunState) : NodeExecutionStatus :=
  if node.nodeId ∈ state.blocked then .skipped
  else
    match evalConditions (preContext (predResults program node state)) node.preconditions with
    | .error _ => .skipped
    | .ok pre =>
        if pre.all ConditionResult.ok then
          match node.nodeType with
          | .gate => if gateOk node (predResults program node state) then .ok else .skipped
          | .merge => if predResults program node state = [] then .skipped else .ok
          | _ => .ok
        else .skipped

structure ReceiptComplete (engine : Engine) (program : SemanticProgram) (branchId : String)
    (receipt : ExecutionReceipt) : Prop where
  onePerNode : (receipt.nodes.map NodeExecutionReceipt.nodeId).Perm program.nodeIds
  statuses : ∀ node state, ComesTo engine program branchId node state →
    ∀ entry ∈ receipt.nodes, entry.nodeId = node.nodeId → entry.status = dueStatus program node state

def IdleMerge (program : SemanticProgram) (node : CastNode) (state : RunState) : Prop :=
  node.nodeType = .merge ∧ predResults program node state = [] ∧
    conditionsHold (preContext []) node.preconditions = true

instance (program : SemanticProgram) (node : CastNode) (state : RunState) :
    Decidable (IdleMerge program node state) :=
  inferInstanceAs (Decidable (_ ∧ _ ∧ _))

theorem merge_result_none (node : CastNode) (results : List CastResult) :
    mergeResult node results = none ↔ results = [] := by
  cases results with
  | nil =>
      simp only [mergeResult, iff_true]
      split <;> rfl
  | cons first rest =>
      have best : bestResonance (first :: rest) ≠ none := by
        rw [ne_eq, best_resonance_none]
        exact List.cons_ne_nil _ _
      simp only [reduceCtorEq, iff_false, mergeResult]
      split
      · simp
      · exact best

theorem observed_status (engine : Engine) (program : SemanticProgram) (branchId : String) (node : CastNode)
    (state : RunState) (outcome : Outcome) (quiet : outcome.fails = false)
    (observed : Observed engine branchId node (predResults program node state)
      (decide (node.nodeId ∈ state.blocked)) outcome) :
    outcome.status? = if node.nodeId ∈ state.blocked ∨ IdleMerge program node state then none
      else some (dueStatus program node state) := by
  by_cases isBlocked : node.nodeId ∈ state.blocked
  · simp only [isBlocked, decide_true] at observed
    cases observed
    simp [Outcome.status?, isBlocked]
  · simp only [isBlocked, decide_false] at observed
    simp only [isBlocked, false_or, dueStatus, if_false]
    cases observed with
    | preconditionFailed pre evaluated refused =>
        have busy : ¬ IdleMerge program node state := by
          rintro ⟨_, empty, holds⟩
          rw [empty] at evaluated
          rw [conditions_hold_ok _ _ pre evaluated, refused] at holds
          cases holds
        simp [Outcome.status?, evaluated, refused, busy]
    | gate pre evaluated passed type =>
        have busy : ¬ IdleMerge program node state := by simp [IdleMerge, type]
        simp [Outcome.status?, evaluated, passed, type, busy]
    | nothingToMerge pre evaluated passed type nothing =>
        rw [merge_result_none] at nothing
        rw [nothing] at evaluated
        have idle : IdleMerge program node state :=
          ⟨type, nothing, (conditions_hold_ok _ _ pre evaluated).trans passed⟩
        simp [Outcome.status?, idle]
    | merged pre result evaluated passed type merges =>
        have some : predResults program node state ≠ [] := by
          intro empty
          rw [(merge_result_none node _).mpr empty] at merges
          cases merges
        have busy : ¬ IdleMerge program node state := fun idle => some idle.2.1
        simp [Outcome.status?, evaluated, passed, type, some, busy]
    | failed => cases quiet
    | ran pre post base evaluated passed type =>
        have busy : ¬ IdleMerge program node state := by
          rintro ⟨isMerge, _⟩
          simp [isMerge, NodeType.isCast] at type
        have due : (match node.nodeType with
            | .gate => if gateOk node (predResults program node state) then NodeExecutionStatus.ok else .skipped
            | .merge => if predResults program node state = [] then .skipped else .ok
            | _ => .ok) = .ok := by
          cases kind : node.nodeType <;> simp [kind, NodeType.isCast] at type <;> rfl
        simp [Outcome.status?, evaluated, passed, busy, due]

def sampleIntent : Intent where
  objective := "probe"
  scope := "local"
  reversibility := .reversible
  sideEffectTolerance := .low

def restVector : SemanticVector where
  components := [0, 0, 0, 0, 0, 0]

def verdictEngine (verdictOf : String → VerdictType) : Engine where
  resolve := fun _ name => .ok name
  compose := fun _ _ => .ok { semanticVector := restVector }
  evaluate := fun call _ _ => .ok {
    verdictType := verdictOf call.nodeId
    resonance := { adjusted := 1, inRange := by decide } }
  freshCastId := fun call => "cast-" ++ call.nodeId
  fluidCast := fun _ _ _ => .error (.runtimeError "no fluid cast")
  autoCast := fun _ _ _ => .error (.runtimeError "no auto cast")

def sampleRuntime : Runtime where
  branchId := "branch"
  executionId := "execution"
  receiptId := "receipt"

theorem entered : ["a"] ≠ [] := List.cons_ne_nil _ _

def castOf (nodeId : String) (successors : List String) : CastNode where
  nodeId := nodeId
  nodeType := .cast
  aspects := some ["MIND"]
  intent := sampleIntent
  successors := successors

def gateOf (nodeId : String) (condition : VerdictType) (successors : List String) : CastNode where
  nodeId := nodeId
  nodeType := .gate
  gateCondition := some condition
  intent := sampleIntent
  successors := successors
  payloadValid := rfl

theorem comes_to_of_sweep (engine : Engine) (program : SemanticProgram) (branchId : String) (node : CastNode)
    (known : node ∈ program.nodes) (pre rest : List String) (cut : program.order = pre ++ node.nodeId :: rest)
    (check : RunState → Bool)
    (checks : (match sweep (nodeLoop engine program branchId) pre {} with
      | .ok (.yield state) => check state
      | _ => false) = true) :
    ∃ state, ComesTo engine program branchId node state ∧ check state = true := by
  cases ran : sweep (nodeLoop engine program branchId) pre {} with
  | error raised => simp [ran] at checks
  | ok flow =>
      cases flow with
      | done state => simp [ran] at checks
      | yield state =>
          simp only [ran] at checks
          exact ⟨state, ⟨known, pre, ⟨rest, cut⟩, ran⟩, checks⟩

def deadGate : SemanticProgram where
  programId := "dead-gate"
  nodes := [castOf "p" ["g"], gateOf "g" .coherent ["a"], castOf "a" ["b"], castOf "b" []]
  entryNodeIds := ["p"]
  nodesNonempty := by simp
  entriesNonempty := by simp
  distinctIds := by decide
  entriesKnown := by decide

def refusing : Engine := verdictEngine fun _ => .incoherent

def agreeing : Engine := verdictEngine fun _ => .coherent

theorem compile_of_ok (program : SemanticProgram) (ok : (compileProgram program).isOk = true) :
    compileProgram program = .ok { program with status := .compiled } := by
  cases compiled : compileProgram program with
  | error raised => simp [compiled, Except.isOk, Except.toBool] at ok
  | ok result => rw [(compile_program_ok program result compiled).2]

theorem dead_gate_run : ∃ execution receipt,
    executeProgram refusing sampleRuntime deadGate = .ok (execution, receipt) ∧ execution.status = .completed ∧
      receipt.nodes.map NodeExecutionReceipt.entry = [("p", .ok), ("g", .skipped), ("b", .ok)] := by
  have ran : (executeProgram refusing sampleRuntime deadGate).map
      (fun out => (out.1.status, out.2.nodes.map NodeExecutionReceipt.entry)) =
        .ok (.completed, [("p", .ok), ("g", .skipped), ("b", .ok)]) := by decide +kernel
  cases returned : executeProgram refusing sampleRuntime deadGate with
  | error raised => simp [returned, Except.map] at ran
  | ok out =>
      simp only [returned, Except.map, Except.ok.injEq, Prod.mk.injEq] at ran
      exact ⟨out.1, out.2, rfl, ran.1, ran.2⟩

-- A completed run leaves the complete receipt exactly when the loop comes to
-- no node that is blocked or is a merge with nothing to merge: those two
-- branches of the loop append no receipt.
theorem receipt_complete_iff (engine : Engine) (runtime : Runtime) (program compiled : SemanticProgram)
    (accepted : compileProgram program = .ok compiled) (execution : ProgramExecution) (receipt : ExecutionReceipt)
    (returned : executeProgram engine runtime program = .ok (execution, receipt))
    (completed : execution.status = .completed) :
    ReceiptComplete engine compiled runtime.branchId receipt ↔
      ∀ node state, ComesTo engine compiled runtime.branchId node state →
        node.nodeId ∉ state.blocked ∧ ¬ IdleMerge compiled node state := by
  have acyclic := compiled_acyclic program compiled accepted
  obtain ⟨seen, run, executionEq, nodesEq, _⟩ :=
    accepted_run engine runtime program compiled accepted execution receipt returned
  rw [executionEq] at completed
  obtain ⟨covers, quiet⟩ := run_completed engine compiled runtime.branchId seen run completed
  have unique := run_same_id engine compiled runtime.branchId acyclic seen run.toVisitsOf
  have entries : receipt.nodes.map NodeExecutionReceipt.entry = seen.filterMap Visit.entry? := by
    have silent : seen.any Visit.fails = false := by simpa using quiet
    rw [nodesEq, run_entries seen fun early late visit split =>
      (run_cut engine compiled runtime.branchId seen run.toVisitsOf early late visit split).2.2, silent]
    simp
  -- a receipt under a visited node's id records that visit
  have recorded : ∀ visit ∈ seen, ∀ entry ∈ receipt.nodes, entry.nodeId = visit.nodeId →
      visit.outcome.status? = some entry.status := by
    intro visit member entry inReceipt sameId
    have listed : entry.entry ∈ seen.filterMap Visit.entry? :=
      entries ▸ List.mem_map_of_mem inReceipt
    obtain ⟨other, inSeen, isEntry⟩ := List.mem_filterMap.mp listed
    obtain ⟨status, statusEq, pairEq⟩ := Option.map_eq_some_iff.mp isEntry
    obtain ⟨idEq, sameStatus⟩ := Prod.mk.inj pairEq
    have same : other = visit := unique other visit inSeen member (idEq.trans sameId)
    rw [← same, statusEq, sameStatus]
  constructor
  · intro complete node state comes
    obtain ⟨visit, member, sameNode, _, observed⟩ :=
      comes_to_visit engine compiled runtime.branchId acyclic seen run node state comes
    have status := observed_status engine compiled runtime.branchId node state visit.outcome
      (quiet visit member) observed
    rw [← not_or]
    intro silent
    rw [if_pos silent] at status
    have receipted : node.nodeId ∈ receipt.nodes.map NodeExecutionReceipt.nodeId :=
      complete.onePerNode.mem_iff.mpr (List.mem_map_of_mem comes.1)
    obtain ⟨entry, inReceipt, sameId⟩ := List.mem_map.mp receipted
    have some := recorded visit member entry inReceipt (sameId.trans (congrArg CastNode.nodeId sameNode).symm)
    rw [status] at some
    cases some
  · intro clear
    refine ⟨?_, ?_⟩
    · have ids : receipt.nodes.map NodeExecutionReceipt.nodeId = seen.map Visit.nodeId := by
        have first : receipt.nodes.map NodeExecutionReceipt.nodeId =
            (receipt.nodes.map NodeExecutionReceipt.entry).map Prod.fst := by
          simp [NodeExecutionReceipt.entry, Function.comp_def]
        rw [first, entries, List.map_filterMap, ← List.filterMap_eq_map]
        apply List.filterMap_congr
        intro visit member
        obtain ⟨state, comes, _, observed⟩ :=
          visit_comes_to engine compiled runtime.branchId acyclic seen run visit member
        have status := observed_status engine compiled runtime.branchId visit.node state visit.outcome
          (quiet visit member) observed
        rw [if_neg (not_or.mpr (clear visit.node state comes))] at status
        simp [Visit.entry?, status]
      rw [ids, ← covers]
      exact acyclic.complete
    · intro node state comes entry inReceipt sameId
      obtain ⟨visit, member, sameNode, _, observed⟩ :=
        comes_to_visit engine compiled runtime.branchId acyclic seen run node state comes
      have status := observed_status engine compiled runtime.branchId node state visit.outcome
        (quiet visit member) observed
      rw [if_neg (not_or.mpr (clear node state comes)),
        recorded visit member entry inReceipt (sameId.trans (congrArg CastNode.nodeId sameNode).symm)] at status
      exact Option.some.inj status

theorem receipt_complete_iff_dead_gate :
    ∃ execution receipt, executeProgram refusing sampleRuntime deadGate = .ok (execution, receipt) ∧
      (ReceiptComplete refusing { deadGate with status := .compiled } sampleRuntime.branchId receipt ↔
        ∀ node state, ComesTo refusing { deadGate with status := .compiled } sampleRuntime.branchId node state →
          node.nodeId ∉ state.blocked ∧ ¬ IdleMerge { deadGate with status := .compiled } node state) := by
  obtain ⟨execution, receipt, returned, completed, _⟩ := dead_gate_run
  exact ⟨execution, receipt, returned, receipt_complete_iff refusing sampleRuntime deadGate _
    (compile_of_ok deadGate (by decide +kernel)) execution receipt returned completed⟩

theorem blocked_node_unreceipted :
    compileProgram deadGate = .ok { deadGate with status := .compiled } ∧
      ∃ execution receipt, executeProgram refusing sampleRuntime deadGate = .ok (execution, receipt) ∧
        execution.status = .completed ∧
        ¬ ReceiptComplete refusing { deadGate with status := .compiled } sampleRuntime.branchId receipt := by
  refine ⟨compile_of_ok deadGate (by decide +kernel), ?_⟩
  obtain ⟨execution, receipt, returned, completed, entries⟩ := dead_gate_run
  refine ⟨execution, receipt, returned, completed, ?_⟩
  intro complete
  have short := complete.onePerNode.length_eq
  rw [List.length_map, ← List.length_map NodeExecutionReceipt.entry, entries] at short
  exact absurd short (by decide)

end Vermyth
