import Vermyth.Engine.Outcome

set_option autoImplicit false

namespace Vermyth

open Foundation

def Outcome.result? : Outcome → Option CastResult
  | .merged _ result => some result
  | .ran _ _ _ result => some result
  | _ => none

def Outcome.shuts : Outcome → Bool
  | .preconditionFailed _ => true
  | .gate _ ok => !ok
  | _ => false

def Outcome.hasRun : Outcome → Bool
  | .ran _ _ _ _ => true
  | _ => false

def Visit.nodeId (visit : Visit) : String := visit.node.nodeId

def Visit.receipts (visit : Visit) : List NodeExecutionReceipt :=
  match visit.outcome with
  | .blocked => []
  | .preconditionFailed pre => [skipReceipt visit.node pre]
  | .gate pre ok => [gateReceipt visit.node pre 0 ok]
  | .nothingToMerge => []
  | .merged pre _ => [mergeReceipt visit.node pre 0]
  | .failed pre retries error => [failReceipt visit.node pre retries error]
  | .ran pre post retries _ => [okReceipt visit.node pre post retries]

theorem record_blocked (state : RunState) (visit : Visit) :
    (recordVisit state visit).blocked =
      if visit.outcome.shuts then state.blocked ∪ visit.node.successors.toFinset else state.blocked := by
  obtain ⟨node, outcome⟩ := visit
  cases outcome with
  | gate pre ok => cases ok <;> rfl
  | _ => rfl

theorem record_results (state : RunState) (visit : Visit) :
    (recordVisit state visit).resultsByNode =
      match visit.outcome.result? with
      | some result => Function.update state.resultsByNode visit.nodeId (some result)
      | none => state.resultsByNode := by
  obtain ⟨node, outcome⟩ := visit
  cases outcome <;> rfl

theorem record_node_results (state : RunState) (visit : Visit) :
    (recordVisit state visit).nodeResults =
      match visit.outcome.result? with
      | some result => state.nodeResults.insert visit.nodeId result.castId
      | none => state.nodeResults := by
  obtain ⟨node, outcome⟩ := visit
  cases outcome <;> rfl

theorem record_queue (state : RunState) (visit : Visit) :
    (recordVisit state visit).rollbackQueue =
      state.rollbackQueue ++ if visit.outcome.hasRun then [visit.node] else [] := by
  obtain ⟨node, outcome⟩ := visit
  cases outcome <;> simp [recordVisit, Outcome.hasRun, skipNode, failNode, finishNode]

theorem record_receipts (state : RunState) (visit : Visit) :
    (recordVisit state visit).receiptNodes = state.receiptNodes ++ visit.receipts ++
      if visit.fails then state.rollbackQueue.reverse.map rollbackReceipt else [] := by
  obtain ⟨node, outcome⟩ := visit
  cases outcome <;>
    simp [recordVisit, Visit.receipts, Visit.fails, Outcome.fails, skipNode, failNode, finishNode]

theorem record_status (state : RunState) (visit : Visit) :
    (recordVisit state visit).status = if visit.fails then .failed else state.status := by
  obtain ⟨node, outcome⟩ := visit
  cases outcome <;> rfl

def tables (seen : List Visit) : RunState := seen.foldl recordVisit {}

theorem tables_append (seen : List Visit) (visit : Visit) :
    tables (seen ++ [visit]) = recordVisit (tables seen) visit := by
  simp [tables]

theorem tables_blocked (seen : List Visit) (nodeId : String) :
    nodeId ∈ (tables seen).blocked ↔
      ∃ visit ∈ seen, visit.outcome.shuts = true ∧ nodeId ∈ visit.node.successors := by
  induction seen using List.reverseRecOn with
  | nil => simp [tables]
  | append_singleton seen visit ih =>
      rw [tables_append, record_blocked]
      simp only [List.mem_append, List.mem_singleton, or_and_right, exists_or, exists_eq_left, ← ih]
      cases visit.outcome.shuts with
      | false => simp
      | true => simp

theorem tables_results_none (seen : List Visit) (nodeId : String)
    (absent : nodeId ∉ seen.map Visit.nodeId) : (tables seen).resultsByNode nodeId = none := by
  induction seen using List.reverseRecOn with
  | nil => rfl
  | append_singleton seen visit ih =>
      simp only [List.map_append, List.map_cons, List.map_nil, List.mem_append, List.mem_singleton,
        not_or] at absent
      rw [tables_append, record_results]
      cases visit.outcome.result? with
      | none => exact ih absent.1
      | some result => exact (Function.update_of_ne absent.2 _ _).trans (ih absent.1)

theorem tables_results (seen : List Visit) (distinct : (seen.map Visit.nodeId).Nodup) (visit : Visit)
    (member : visit ∈ seen) : (tables seen).resultsByNode visit.nodeId = visit.outcome.result? := by
  induction seen using List.reverseRecOn with
  | nil => simp at member
  | append_singleton seen last ih =>
      rw [List.map_append, List.nodup_append] at distinct
      obtain ⟨earlier, _, apart⟩ := distinct
      rw [tables_append, record_results]
      rcases List.mem_append.mp member with before | final
      · have different : visit.nodeId ≠ last.nodeId :=
          apart _ (List.mem_map_of_mem before) _ (by simp)
        cases last.outcome.result? with
        | none => exact ih earlier before
        | some result => exact (Function.update_of_ne different _ _).trans (ih earlier before)
      · rw [List.mem_singleton.mp final]
        have fresh : last.nodeId ∉ seen.map Visit.nodeId := fun again => apart _ again _ (by simp) rfl
        cases last.outcome.result? with
        | none => exact tables_results_none seen last.nodeId fresh
        | some result => exact Function.update_self _ _ _

theorem tables_node_results (seen : List Visit) (nodeId : String) :
    (tables seen).nodeResults.lookup nodeId = ((tables seen).resultsByNode nodeId).map CastResult.castId := by
  induction seen using List.reverseRecOn with
  | nil => rfl
  | append_singleton seen visit ih =>
      rw [tables_append, record_results, record_node_results]
      cases visit.outcome.result? with
      | none => exact ih
      | some result =>
          by_cases same : nodeId = visit.nodeId
          · subst same
            simp
          · simpa only [AList.lookup_insert_ne same, Function.update_of_ne same] using ih

theorem tables_queue (seen : List Visit) :
    (tables seen).rollbackQueue = (seen.filter fun visit => visit.outcome.hasRun).map Visit.node := by
  induction seen using List.reverseRecOn with
  | nil => rfl
  | append_singleton seen visit ih =>
      rw [tables_append, record_queue, ih, List.filter_append, List.map_append]
      cases run : visit.outcome.hasRun <;> simp [run]

theorem tables_receipts (seen : List Visit) (quiet : ∀ visit ∈ seen, visit.fails = false) :
    (tables seen).receiptNodes = seen.flatMap Visit.receipts := by
  induction seen using List.reverseRecOn with
  | nil => rfl
  | append_singleton seen visit ih =>
      have earlier := ih fun other member => quiet other (List.mem_append_left _ member)
      rw [tables_append, record_receipts, earlier, quiet visit (by simp)]
      simp

theorem tables_status (seen : List Visit) :
    (tables seen).status = if seen.any Visit.fails then .failed else .completed := by
  induction seen using List.reverseRecOn with
  | nil => rfl
  | append_singleton seen visit ih =>
      rw [tables_append, record_status, ih]
      cases fails : visit.fails <;> simp [fails]

-- The visits of the node loop up to some point: they follow the topological
-- order.
structure VisitsOf (engine : Engine) (program : SemanticProgram) (branchId : String) (seen : List Visit) :
    Prop where
  covers : ∃ left, program.order = seen.map Visit.nodeId ++ left
  history : IsHistory (visitNode engine program program.predecessors branchId) Visit.fails recordVisit {}
    (seen.map Visit.nodeId) seen

structure RunOf (engine : Engine) (program : SemanticProgram) (branchId : String) (seen : List Visit) : Prop
    extends VisitsOf engine program branchId seen where
  ended : broke Visit.fails seen = false → program.order = seen.map Visit.nodeId

def nodeLoop (engine : Engine) (program : SemanticProgram) (branchId : String) :
    RunState → String → Except PyError (ForInStep RunState) :=
  processNode engine program program.predecessors branchId

theorem visit_node_id (engine : Engine) (program : SemanticProgram) (predecessors : Predecessors)
    (branchId : String) (state : RunState) (nodeId : String) (visit : Visit)
    (saw : visitNode engine program predecessors branchId state nodeId = .ok visit) :
    visit.nodeId = nodeId ∧ visit.node ∈ program.nodes := by
  simp only [visitNode] at saw
  cases found : program.node? nodeId with
  | none => simp [found] at saw
  | some node =>
      obtain ⟨member, same⟩ := node_lookup_some program nodeId node found
      simp only [found] at saw
      cases outcome : observe engine branchId node (decide (nodeId ∈ state.blocked))
          ((predecessors nodeId).filterMap state.resultsByNode) with
      | error raised => simp [outcome, Except.map] at saw
      | ok seen =>
          simp only [outcome, Except.map, Except.ok.injEq] at saw
          rw [← saw]
          exact ⟨same, member⟩

theorem visit_observed (engine : Engine) (program : SemanticProgram) (predecessors : Predecessors)
    (branchId : String) (state : RunState) (visit : Visit)
    (saw : visitNode engine program predecessors branchId state visit.nodeId = .ok visit) :
    observe engine branchId visit.node (decide (visit.nodeId ∈ state.blocked))
      ((predecessors visit.nodeId).filterMap state.resultsByNode) = .ok visit.outcome := by
  have member := (visit_node_id engine program predecessors branchId state _ visit saw).2
  have found : program.node? visit.nodeId = some visit.node := node_lookup program visit.node member
  simp only [visitNode, found] at saw
  generalize observe engine branchId visit.node _ _ = outcome at saw ⊢
  cases outcome with
  | error raised => cases saw
  | ok outcome =>
      have same : Visit.mk visit.node outcome = visit := Except.ok.inj saw
      exact congrArg Except.ok (congrArg Visit.outcome same)

theorem history_ids (engine : Engine) (program : SemanticProgram) (predecessors : Predecessors)
    (branchId : String) (start : RunState) (visited : List String) (seen : List Visit)
    (history : IsHistory (visitNode engine program predecessors branchId) Visit.fails recordVisit start visited seen) :
    seen.map Visit.nodeId = visited := by
  induction seen generalizing start visited with
  | nil =>
      cases visited with
      | nil => rfl
      | cons nodeId rest => exact absurd history (by simp [IsHistory])
  | cons visit seen ih =>
      cases visited with
      | nil => exact absurd history (by simp [IsHistory])
      | cons nodeId rest =>
          obtain ⟨saw, _, tail⟩ := history
          have first := (visit_node_id engine program predecessors branchId start nodeId visit saw).1
          rw [List.map_cons, first, ih _ rest tail]

theorem node_loop_recording (engine : Engine) (program : SemanticProgram) (branchId : String)
    (items : List String) (known : ∀ nodeId ∈ items, nodeId ∈ program.nodeIds) (start : RunState) :
    sweep (nodeLoop engine program branchId) items start =
      sweep (recording (visitNode engine program program.predecessors branchId) Visit.fails recordVisit)
        items start := by
  apply sweep_congr
  intro nodeId member state
  exact visit_body engine program program.predecessors branchId state nodeId (known nodeId member)

section Acyclic

variable (engine : Engine) (program : SemanticProgram) (branchId : String) (acyclic : program.Acyclic)

include acyclic

theorem order_known (nodeId : String) (member : nodeId ∈ program.order) : nodeId ∈ program.nodeIds :=
  acyclic.complete.mem_iff.mp member

theorem order_distinct : program.order.Nodup := acyclic.complete.nodup_iff.mpr program.distinctIds

theorem run_exists (flow : ForInStep RunState)
    (ran : sweep (nodeLoop engine program branchId) program.order {} = .ok flow) :
    ∃ seen, RunOf engine program branchId seen ∧ exitState flow = tables seen := by
  rw [node_loop_recording engine program branchId _ (order_known program acyclic)] at ran
  obtain ⟨visited, left, seen, split, history, exit, ended⟩ := sweep_history _ _ _ ran
  have ids := history_ids engine program program.predecessors branchId {} visited seen history
  rw [← ids] at split history
  refine ⟨seen, ⟨⟨⟨left, split⟩, history⟩, ?_⟩, ?_⟩
  · intro wentOn
    rw [split, ended wentOn, List.append_nil]
  rw [exit, exitOf]
  split <;> rfl

variable (seen : List Visit) (run : VisitsOf engine program branchId seen)

include run

theorem run_distinct : (seen.map Visit.nodeId).Nodup := by
  obtain ⟨left, covers⟩ := run.covers
  have distinct := order_distinct program acyclic
  rw [covers] at distinct
  exact (List.nodup_append.mp distinct).1

theorem run_same_id (a b : Visit) (inA : a ∈ seen) (inB : b ∈ seen) (same : a.nodeId = b.nodeId) : a = b :=
  List.inj_on_of_nodup_map (run_distinct engine program branchId acyclic seen run) inA inB same

theorem run_sorted : TopoSorted program.Edge (seen.map Visit.nodeId) := by
  obtain ⟨left, covers⟩ := run.covers
  have sorted := acyclic.sorted
  rw [covers] at sorted
  exact topo_sorted_front _ left sorted

omit acyclic in
theorem run_cut (early late : List Visit) (visit : Visit) (split : seen = early ++ visit :: late) :
    visitNode engine program program.predecessors branchId (tables early) visit.nodeId = .ok visit ∧
      (∀ earlier ∈ early, earlier.fails = false) ∧ (late ≠ [] → visit.fails = false) := by
  have history := run.history
  rw [split] at history
  obtain ⟨pre, item, post, _, earlier, saw, quiet, last⟩ := history_split _ _ early late visit history
  have same := (visit_node_id engine program program.predecessors branchId _ item visit saw).1
  exact ⟨same ▸ saw, quiet, last⟩

omit acyclic in
theorem run_node (visit : Visit) (member : visit ∈ seen) : visit.node ∈ program.nodes := by
  obtain ⟨early, late, split⟩ := List.append_of_mem member
  have saw := (run_cut engine program branchId seen run early late visit split).1
  exact (visit_node_id engine program program.predecessors branchId _ _ visit saw).2

omit acyclic in
theorem run_same_node (visit : Visit) (member : visit ∈ seen) (node : CastNode) (known : node ∈ program.nodes)
    (sameId : visit.nodeId = node.nodeId) : visit.node = node :=
  node_unique program visit.node node (run_node engine program branchId seen run visit member) known sameId

omit acyclic in
theorem run_front (early late : List Visit) (visit : Visit) (split : seen = early ++ visit :: late) :
    VisitsOf engine program branchId early := by
  obtain ⟨left, covers⟩ := run.covers
  have history := run.history
  rw [split] at history
  obtain ⟨pre, _, _, _, earlier, _⟩ := history_split _ _ early late visit history
  have ids := history_ids engine program program.predecessors branchId {} pre early earlier
  exact ⟨⟨visit.nodeId :: (late.map Visit.nodeId ++ left), by rw [covers, split]; simp⟩, ids ▸ earlier⟩

theorem cut_predecessor (early late : List Visit) (visit : Visit) (split : seen = early ++ visit :: late)
    (source : String) (link : program.Edge source visit.nodeId) : source ∈ early.map Visit.nodeId := by
  have sorted := run_sorted engine program branchId acyclic seen run
  rw [split, List.map_append, List.map_cons] at sorted
  exact sorted _ _ _ rfl source link

theorem cut_blocked (early late : List Visit) (visit : Visit) (split : seen = early ++ visit :: late) :
    visit.nodeId ∈ (tables early).blocked ↔ visit.nodeId ∈ (tables seen).blocked := by
  rw [tables_blocked, tables_blocked]
  constructor
  · rintro ⟨other, member, shuts, link⟩
    exact ⟨other, split ▸ List.mem_append_left _ member, shuts, link⟩
  · rintro ⟨other, member, shuts, link⟩
    have edge : program.Edge other.nodeId visit.nodeId :=
      ⟨other.node, run_node engine program branchId seen run other member, rfl, link⟩
    obtain ⟨earlier, inEarly, same⟩ := List.mem_map.mp
      (cut_predecessor engine program branchId acyclic seen run early late visit split _ edge)
    have equal := run_same_id engine program branchId acyclic seen run earlier other
      (split ▸ List.mem_append_left _ inEarly) member same
    exact ⟨earlier, inEarly, equal ▸ ⟨shuts, link⟩⟩

theorem cut_results (early late : List Visit) (visit : Visit) (split : seen = early ++ visit :: late) :
    (program.predecessors visit.nodeId).filterMap (tables early).resultsByNode =
      (program.predecessors visit.nodeId).filterMap (tables seen).resultsByNode := by
  apply List.filterMap_congr
  intro source member
  obtain ⟨earlier, inEarly, same⟩ := List.mem_map.mp (cut_predecessor engine program branchId acyclic seen run
    early late visit split source ((mem_predecessors program source visit.nodeId).mp member))
  have distinct := run_distinct engine program branchId acyclic seen run
  have inSeen : earlier ∈ seen := split ▸ List.mem_append_left _ inEarly
  have distinctEarly : (early.map Visit.nodeId).Nodup := by
    rw [split, List.map_append] at distinct
    exact (List.nodup_append.mp distinct).1
  rw [← same, tables_results early distinctEarly earlier inEarly, tables_results seen distinct earlier inSeen]

theorem run_equation (visit : Visit) (member : visit ∈ seen) :
    observe engine branchId visit.node (decide (visit.nodeId ∈ (tables seen).blocked))
      ((program.predecessors visit.nodeId).filterMap (tables seen).resultsByNode) = .ok visit.outcome := by
  obtain ⟨early, late, split⟩ := List.append_of_mem member
  have saw := visit_observed engine program program.predecessors branchId _ visit
    (run_cut engine program branchId seen run early late visit split).1
  have blocked := cut_blocked engine program branchId acyclic seen run early late visit split
  rw [← cut_results engine program branchId acyclic seen run early late visit split,
    show decide (visit.nodeId ∈ (tables seen).blocked) = decide (visit.nodeId ∈ (tables early).blocked) from
      decide_eq_decide.mpr blocked.symm]
  exact saw

theorem visit_reached (early late : List Visit) (visit : Visit) (split : seen = early ++ visit :: late) :
    Reaches (nodeLoop engine program branchId) program.order {} (early.map Visit.nodeId) visit.nodeId
      (tables early) := by
  obtain ⟨left, covers⟩ := run.covers
  have cut : program.order = early.map Visit.nodeId ++ visit.nodeId :: (late.map Visit.nodeId ++ left) := by
    rw [covers, split]
    simp
  refine ⟨⟨_, cut⟩, ?_⟩
  have knownPre : ∀ item ∈ early.map Visit.nodeId, item ∈ program.nodeIds := fun item member =>
    order_known program acyclic item (cut ▸ List.mem_append_left _ member)
  have history := run.history
  rw [split] at history
  obtain ⟨pre, item, post, _, earlier, _, quiet, _⟩ := history_split _ _ early late visit history
  have ids := history_ids engine program program.predecessors branchId {} pre early earlier
  rw [node_loop_recording engine program branchId _ knownPre, ids]
  exact history_sweep _ pre early earlier quiet

end Acyclic

theorem reached_visits (engine : Engine) (program : SemanticProgram) (branchId : String)
    (acyclic : program.Acyclic) (pre : List String) (nodeId : String) (state : RunState)
    (reached : Reaches (nodeLoop engine program branchId) program.order {} pre nodeId state) :
    ∃ early, VisitsOf engine program branchId early ∧ early.map Visit.nodeId = pre ∧ state = tables early := by
  obtain ⟨⟨rest, cut⟩, before⟩ := reached
  have knownPre : ∀ item ∈ pre, item ∈ program.nodeIds := fun item member =>
    order_known program acyclic item (cut ▸ List.mem_append_left _ member)
  rw [node_loop_recording engine program branchId pre knownPre] at before
  obtain ⟨visited, left, early, split, history, exit, ended⟩ := sweep_history _ _ _ before
  have ids := history_ids engine program program.predecessors branchId {} visited early history
  have wentOn : broke Visit.fails early = false := by
    cases stopped : broke Visit.fails early with
    | false => rfl
    | true => simp [exitOf, stopped] at exit
  simp only [exitOf, wentOn, Bool.false_eq_true, if_false, ForInStep.yield.injEq] at exit
  rw [ended wentOn, List.append_nil] at split
  subst split
  exact ⟨early, ⟨⟨nodeId :: rest, by rw [ids, cut]⟩, by rw [ids]; exact history⟩, ids, exit⟩

theorem run_reaches (engine : Engine) (program : SemanticProgram) (branchId : String)
    (acyclic : program.Acyclic) (seen : List Visit) (run : RunOf engine program branchId seen)
    (pre : List String) (nodeId : String) (state : RunState)
    (reached : Reaches (nodeLoop engine program branchId) program.order {} pre nodeId state) :
    ∃ early visit late, seen = early ++ visit :: late ∧ visit.nodeId = nodeId ∧
      early.map Visit.nodeId = pre ∧ state = tables early := by
  obtain ⟨⟨rest, cut⟩, before⟩ := reached
  have knownPre : ∀ item ∈ pre, item ∈ program.nodeIds := fun item member =>
    order_known program acyclic item (cut ▸ List.mem_append_left _ member)
  rw [node_loop_recording engine program branchId pre knownPre] at before
  obtain ⟨left, covers⟩ := run.covers
  have ended : broke Visit.fails seen = false → left = [] := fun wentOn => by
    simpa [run.ended wentOn] using covers
  obtain ⟨early, visit, late, split, history, stateEq, saw⟩ := reaches_history program.order {} pre nodeId state
    _ left seen covers run.history ended ⟨⟨rest, cut⟩, before⟩
  exact ⟨early, visit, late, split, (visit_node_id engine program program.predecessors branchId _ _ visit saw).1,
    history_ids engine program program.predecessors branchId {} pre early history, stateEq⟩

theorem link_program (program : SemanticProgram) (closed : program.Closed)
    (missing : CastNode → String → PyError) :
    linkNodes program.nodeIds missing program.nodes (fun _ => []) = .ok program.predecessors := by
  rw [link_nodes_known _ _ _ _ closed]
  rfl

theorem execute_program_eq (engine : Engine) (runtime : Runtime) (program : SemanticProgram)
    (acyclic : program.Acyclic) (isCompiled : program.status = .compiled) :
    executeProgram engine runtime program =
      if (validateProgram program).warnings ≠ [] ∧ runtime.denyWarnings then
        .error (.valueError
          ("program validation warnings: " ++ "; ".intercalate (validateProgram program).warnings))
      else
        match sweep (nodeLoop engine program runtime.branchId) program.order {} with
        | .error raised => .error raised
        | .ok flow =>
            match signReceiptIfConfigured runtime.signer (receiptOf runtime program (exitState flow)) with
            | .error raised => .error raised
            | .ok receipt => .ok (executionOf runtime program (exitState flow), receipt) := by
  have ordered : topologicalOrder program program.predecessors = .ok program.order := by
    rcases topological_order_cases program acyclic.closed with cyclic | ⟨ordered, _⟩
    · have accepted := compile_program_complete program acyclic
      simp only [compileProgram, validate_program_errors, ne_eq, not_true_eq_false, if_false,
        link_program program acyclic.closed, cyclic, reduceCtorEq] at accepted
    · exact ordered
  simp only [executeProgram, compiledProgram, isCompiled, if_true, link_program program acyclic.closed, ordered]
  rfl

theorem sign_receipt_fields (signer : Option Signer) (receipt signed : ExecutionReceipt)
    (ok : signReceiptIfConfigured signer receipt = .ok signed) :
    ∃ signature keyId, signed = { receipt with signature := signature, signingKeyId := keyId } := by
  cases signer with
  | none =>
      simp only [signReceiptIfConfigured, Except.ok.injEq] at ok
      exact ⟨receipt.signature, receipt.signingKeyId, ok.symm⟩
  | some signer =>
      cases loaded : signer.privateKey with
      | error raised => simp [signReceiptIfConfigured, loaded] at ok
      | ok sign =>
          simp only [signReceiptIfConfigured, loaded, Except.ok.injEq] at ok
          exact ⟨some (sign receipt), some signer.keyId, ok.symm⟩

theorem execution_run (engine : Engine) (runtime : Runtime) (program : SemanticProgram)
    (acyclic : program.Acyclic) (isCompiled : program.status = .compiled) (execution : ProgramExecution)
    (receipt : ExecutionReceipt) (ok : executeProgram engine runtime program = .ok (execution, receipt)) :
    ∃ seen, RunOf engine program runtime.branchId seen ∧ execution = executionOf runtime program (tables seen) ∧
      receipt.nodes = (tables seen).receiptNodes ∧ receipt.status = (tables seen).status ∧
      receipt.executionId = runtime.executionId := by
  rw [execute_program_eq engine runtime program acyclic isCompiled] at ok
  split at ok
  · cases ok
  · cases ran : sweep (nodeLoop engine program runtime.branchId) program.order {} with
    | error raised => simp [ran] at ok
    | ok flow =>
        obtain ⟨seen, run, exit⟩ := run_exists engine program runtime.branchId acyclic flow ran
        simp only [ran, exit] at ok
        cases signed : signReceiptIfConfigured runtime.signer (receiptOf runtime program (tables seen)) with
        | error raised => simp [signed] at ok
        | ok final =>
            simp only [signed, Except.ok.injEq, Prod.mk.injEq] at ok
            obtain ⟨sameExecution, sameReceipt⟩ := ok
            obtain ⟨signature, keyId, fields⟩ := sign_receipt_fields runtime.signer _ final signed
            rw [← sameReceipt, fields]
            exact ⟨seen, run, sameExecution.symm, rfl, rfl, rfl⟩

end Vermyth
