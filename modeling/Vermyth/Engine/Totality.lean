import Vermyth.Engine.Containment

set_option autoImplicit false

namespace Vermyth

open Foundation

structure ProgramStore where
  programs : String → Option SemanticProgram
  executions : String → Option ProgramExecution
  receipts : String → Option ExecutionReceipt

def ProgramStore.writeExecution (store : ProgramStore) (execution : ProgramExecution) : ProgramStore :=
  { store with executions := Function.update store.executions execution.executionId (some execution) }

def ProgramStore.writeExecutionReceipt (store : ProgramStore) (receipt : ExecutionReceipt) : ProgramStore :=
  { store with receipts := Function.update store.receipts receipt.receiptId (some receipt) }

def toolExecuteProgram (engine : Engine) (runtime : Runtime) (programId : String) (store : ProgramStore) :
    Except PyError ProgramExecution × ProgramStore :=
  match store.programs programId with
  | none => (.error (.keyError programId), store)
  | some program =>
      match executeProgram engine runtime program with
      | .error raised => (.error raised, store)
      | .ok (execution, receipt) =>
          (.ok execution, (store.writeExecution execution).writeExecutionReceipt receipt)

def CastNode.PreTyped (node : CastNode) : Prop :=
  ∀ condition ∈ node.preconditions, condition.WellTyped preContextType

def CastNode.PostTyped (node : CastNode) : Prop :=
  ∀ condition ∈ node.postconditions, condition.WellTyped postContextType

theorem pre_typed_iff (node : CastNode) (results : List CastResult) :
    (∃ pre, evalConditions (preContext results) node.preconditions = .ok pre) ↔ node.PreTyped := by
  rw [eval_conditions_ok, pre_context_type]
  rfl

theorem post_typed_iff (node : CastNode) (result : CastResult) :
    (∃ post, evalConditions (postContext result) node.postconditions = .ok post) ↔ node.PostTyped := by
  rw [eval_conditions_ok, post_context_type]
  rfl

def Evaluates (engine : Engine) (node : CastNode) (results : List CastResult) : Prop :=
  node.PreTyped ∧ (node.nodeType.isCast = true → conditionsHold (preContext results) node.preconditions = true →
    Succeeds engine node → node.PostTyped)

theorem cast_outcome_ok (engine : Engine) (branchId : String) (node : CastNode) (results : List CastResult)
    (pre : List ConditionResult) :
    (∃ outcome, castOutcome engine branchId node results pre = .ok outcome) ↔
      (Succeeds engine node → node.PostTyped) := by
  rw [succeeds_iff]
  simp only [castOutcome]
  cases value : (retry (castNode engine node) node.attempts).value with
  | none => simp
  | some base =>
      rw [← post_typed_iff node (withParent base results branchId)]
      cases evaluated : evalConditions (postContext (withParent base results branchId)) node.postconditions <;>
        simp [evaluated]

theorem observe_ok (engine : Engine) (branchId : String) (node : CastNode) (isBlocked : Bool)
    (results : List CastResult) :
    (∃ outcome, observe engine branchId node isBlocked results = .ok outcome) ↔
      (isBlocked = false → Evaluates engine node results) := by
  cases isBlocked with
  | true => simp [observe]
  | false =>
      simp only [observe, Bool.false_eq_true, if_false, forall_const, Evaluates, ← pre_typed_iff node results]
      cases evaluated : evalConditions (preContext results) node.preconditions with
      | error raised => simp
      | ok pre =>
          rw [conditions_hold_ok _ _ pre evaluated]
          cases passed : pre.all ConditionResult.ok with
          | false =>
              simp only [passed, Bool.false_eq_true, if_false]
              simp
          | true =>
              have cast := cast_outcome_ok engine branchId node results pre
              simp only [passed, if_true]
              cases type : node.nodeType with
              | gate => simp [NodeType.isCast]
              | merge => cases mergeResult node results <;> simp [NodeType.isCast]
              | cast | fluidCast | autoCast => simpa [NodeType.isCast] using cast

def SignerLoads (runtime : Runtime) : Prop :=
  ∀ signer ∈ runtime.signer, ∃ sign, signer.privateKey = .ok sign

theorem sign_receipt_ok (runtime : Runtime) (receipt : ExecutionReceipt) :
    (∃ signed, signReceiptIfConfigured runtime.signer receipt = .ok signed) ↔ SignerLoads runtime := by
  simp only [SignerLoads]
  cases runtime.signer with
  | none => simp [signReceiptIfConfigured]
  | some signer => cases loaded : signer.privateKey <;> simp [signReceiptIfConfigured, loaded]

theorem node_loop_ok (engine : Engine) (program : SemanticProgram) (branchId : String) (acyclic : program.Acyclic) :
    (∃ flow, sweep (nodeLoop engine program branchId) program.order {} = .ok flow) ↔
      ∀ node state, ComesTo engine program branchId node state → node.nodeId ∉ state.blocked →
        Evaluates engine node (predResults program node state) := by
  have step : ∀ (node : CastNode) (state : RunState), node ∈ program.nodes →
      ((∃ flow, nodeLoop engine program branchId state node.nodeId = .ok flow) ↔
        (node.nodeId ∉ state.blocked → Evaluates engine node (predResults program node state))) := by
    intro node state known
    have observed := observe_ok engine branchId node (decide (node.nodeId ∈ state.blocked))
      (predResults program node state)
    rw [decide_eq_false_iff_not] at observed
    rw [← observed, nodeLoop, process_node_eq engine program program.predecessors branchId state node
      (node_lookup program node known)]
    cases outcome : observe engine branchId node (decide (node.nodeId ∈ state.blocked))
        (predResults program node state) with
    | error raised =>
        simp only [predResults] at outcome
        simp [outcome, bodyOf]
    | ok outcome' =>
        simp only [predResults] at outcome
        simp [outcome, bodyOf]
  constructor
  · rintro ⟨flow, ran⟩ node state comes free
    obtain ⟨pre, reached⟩ := comes.2
    cases body : nodeLoop engine program branchId state node.nodeId with
    | error raised =>
        have failed := (sweep_raises _ _ _ raised).mpr ⟨pre, node.nodeId, state, reached, body⟩
        rw [ran] at failed
        cases failed
    | ok flow => exact (step node state comes.1).mp ⟨flow, body⟩ free
  · intro evaluates
    cases ran : sweep (nodeLoop engine program branchId) program.order {} with
    | ok flow => exact ⟨flow, rfl⟩
    | error raised =>
        obtain ⟨pre, nodeId, state, reached, raises⟩ := (sweep_raises _ _ _ raised).mp ran
        have reach := reached
        obtain ⟨⟨rest, cut⟩, _⟩ := reach
        have known : nodeId ∈ program.nodeIds :=
          order_known program acyclic nodeId (cut ▸ List.mem_append_right _ List.mem_cons_self)
        obtain ⟨node, member, same, _⟩ := node_lookup_known program nodeId known
        subst same
        obtain ⟨flow, body⟩ := (step node state member).mpr (evaluates node state ⟨member, pre, reached⟩)
        rw [raises] at body
        cases body

def Refused (runtime : Runtime) (program : SemanticProgram) : Prop :=
  (validateProgram program).warnings ≠ [] ∧ runtime.denyWarnings = true

theorem execution_returns (engine : Engine) (runtime : Runtime) (program compiled : SemanticProgram)
    (accepted : compileProgram program = .ok compiled) (allowed : ¬ Refused runtime compiled) :
    (∃ out, executeProgram engine runtime program = .ok out) ↔ SignerLoads runtime ∧
      ∃ flow, sweep (nodeLoop engine compiled runtime.branchId) compiled.order {} = .ok flow := by
  have executes := (execute_accepted engine runtime program compiled accepted).trans
    (execute_program_eq engine runtime compiled (compiled_acyclic program compiled accepted)
      (compiled_status program compiled accepted))
  unfold Refused at allowed
  rw [executes, if_neg allowed]
  cases ran : sweep (nodeLoop engine compiled runtime.branchId) compiled.order {} with
  | error raised => simp
  | ok flow =>
      rw [← sign_receipt_ok runtime (receiptOf runtime compiled (exitState flow))]
      cases signed : signReceiptIfConfigured runtime.signer (receiptOf runtime compiled (exitState flow)) <;>
        simp [signed]

def Recorded (engine : Engine) (runtime : Runtime) (program : SemanticProgram) (store : ProgramStore) : Prop :=
  ∃ execution receipt, executeProgram engine runtime program = .ok (execution, receipt) ∧
    (execution.status = .completed ∨ execution.status = .failed) ∧ receipt.executionId = execution.executionId ∧
    ∃ after, toolExecuteProgram engine runtime program.programId store = (.ok execution, after) ∧
      after.executions execution.executionId = some execution ∧ after.receipts receipt.receiptId = some receipt

theorem execution_recorded_iff (engine : Engine) (runtime : Runtime) (program compiled : SemanticProgram)
    (accepted : compileProgram program = .ok compiled) (allowed : runtime.denyWarnings = false)
    (store : ProgramStore) (stored : store.programs program.programId = some program) :
    Recorded engine runtime program store ↔ SignerLoads runtime ∧
      ∀ node state, ComesTo engine compiled runtime.branchId node state → node.nodeId ∉ state.blocked →
        Evaluates engine node (predResults compiled node state) := by
  have acyclic := compiled_acyclic program compiled accepted
  have free : ¬ Refused runtime compiled := by simp [Refused, allowed]
  rw [← node_loop_ok engine compiled runtime.branchId acyclic,
    ← execution_returns engine runtime program compiled accepted free]
  constructor
  · rintro ⟨execution, receipt, returned, _⟩
    exact ⟨_, returned⟩
  · rintro ⟨⟨execution, receipt⟩, returned⟩
    obtain ⟨seen, _, executionEq, _, _, sameId⟩ :=
      accepted_run engine runtime program compiled accepted execution receipt returned
    refine ⟨execution, receipt, returned, ?_, ?_,
      (store.writeExecution execution).writeExecutionReceipt receipt, ?_, ?_, ?_⟩
    · rw [executionEq]
      have either := tables_status seen
      cases failed : seen.any Visit.fails <;> simp [executionOf, either, failed]
    · rw [executionEq, sameId]
      rfl
    · simp only [toolExecuteProgram, stored, returned]
    · simp [ProgramStore.writeExecution, ProgramStore.writeExecutionReceipt]
    · simp [ProgramStore.writeExecutionReceipt]

def mistyped : SemanticProgram where
  programId := "mistyped"
  nodes := [castOf "a" ["b"], { castOf "b" [] with
    preconditions := [{
      predicate := "enough predecessors"
      expr := some { op := .compare .gt, key := "pred_count", value := .str "0" } }] }]
  entryNodeIds := ["a"]
  nodesNonempty := by simp
  entriesNonempty := entered
  distinctIds := by decide
  entriesKnown := by decide

def storeOf (program : SemanticProgram) : ProgramStore where
  programs := fun programId => if programId = program.programId then some program else none
  executions := fun _ => none
  receipts := fun _ => none

theorem store_of_holds (program : SemanticProgram) :
    (storeOf program).programs program.programId = some program := by
  simp [storeOf]

theorem execution_recorded_iff_mistyped :
    (sampleRuntime.denyWarnings = false ∧ (storeOf mistyped).programs mistyped.programId = some mistyped) ∧
      (Recorded agreeing sampleRuntime mistyped (storeOf mistyped) ↔
        SignerLoads sampleRuntime ∧
          ∀ node state, ComesTo agreeing { mistyped with status := .compiled }
              sampleRuntime.branchId node state → node.nodeId ∉ state.blocked →
            Evaluates agreeing node
              (predResults { mistyped with status := .compiled } node state)) :=
  ⟨⟨rfl, store_of_holds mistyped⟩, execution_recorded_iff agreeing sampleRuntime mistyped _
    (compile_of_ok mistyped (by decide +kernel)) rfl (storeOf mistyped) (store_of_holds mistyped)⟩

-- a has run when the comparison raises, and nothing of it is recorded.
theorem run_lost_to_type_error :
    compileProgram mistyped = .ok { mistyped with status := .compiled } ∧
      (sweep (nodeLoop agreeing mistyped sampleRuntime.branchId) ["a"] {}).map
        (fun flow => (exitState flow).nodeResults.keys) = .ok ["a"] ∧
      (executeProgram agreeing sampleRuntime mistyped).map (fun _ => ()) =
        .error (.typeError "'>' not supported between instances of 'int' and 'str'") ∧
      ¬ Recorded agreeing sampleRuntime mistyped (storeOf mistyped) := by
  have raises : (executeProgram agreeing sampleRuntime mistyped).map (fun _ => ()) =
      .error (.typeError "'>' not supported between instances of 'int' and 'str'") := by decide +kernel
  refine ⟨compile_of_ok mistyped (by decide +kernel), by decide +kernel, raises, ?_⟩
  rintro ⟨execution, receipt, returned, _⟩
  rw [returned] at raises
  cases raises

end Vermyth
