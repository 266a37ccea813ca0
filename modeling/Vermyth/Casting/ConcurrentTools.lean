import Vermyth.Casting.DecisionRecords
import Vermyth.Casting.Programs
import Vermyth.Foundation.Interleaving

set_option autoImplicit false

namespace Vermyth

open Foundation

namespace CastProcess

variable (process : CastProcess)

def judge (model : PolicyModel) (arguments : DecideArguments) (request : DecideRequest) (draws : CallDraws) :
    Except PyError (PolicyDecision × CastRecord) := do
  let result ← process.decideCast request draws
  let status ← process.decideStatus arguments result draws
  let input : DecisionInput :=
    { verdict := result.verdict.verdict, divergenceStatus := status,
      narrativeCoherence := process.narrativeOf arguments, effects := request.settings.effects,
      coherenceInRange := process.narrative_of_unit arguments }
  let decision ← policyDecision model request.settings.thresholds input result.castId request.intent
    arguments.parentCastId { decisionId := draws.decisionId, timestamp := draws.now }
  return (decision, result)

def keepDecision (decision : PolicyDecision) (result : CastRecord) : CallOutcome CastRecord :=
  match process.writeCast result with
  | .error raised => (.error raised, process)
  | .ok written =>
      match written.writePolicyDecision decision with
      | .error raised => (.error raised, written)
      | .ok after => (.ok result, after)

theorem tool_decide_steps (arguments : DecideArguments) (draws : CallDraws) :
    process.toolDecide arguments draws =
      match process.decideRequest arguments with
      | .error raised => (.error raised, process)
      | .ok request =>
          match process.judge (request.settings.policyModel.getD process.policyModel) arguments request draws with
          | .error raised => (.error raised, process)
          | .ok (decision, result) => process.keepDecision decision result := by
  rw [toolDecide, beginDecide]
  cases process.decideRequest arguments <;> rfl

end CastProcess

-- What the tools of one server share: the store with the engine's
-- _policy_model, the programs, and the engine's _last_execution_receipt.
structure SharedTools where
  casting : CastProcess
  programs : ProgramStore
  lastReceipt : Option ExecutionReceipt := none

def SharedTools.select (shared : SharedTools) (model : PolicyModel) : SharedTools :=
  { shared with casting := { shared.casting with policyModel := model } }

-- A tool_decide request, with the model its policy_model and
-- tuned_thresholds_path come to.
structure DecideCall where
  arguments : CastProcess.DecideArguments
  selection : Except PyError (Option PolicyModel) := .ok none
  draws : CallDraws

inductive ToolRequest where
  | decide (call : DecideCall)
  | execute (engine : Engine) (runtime : Runtime) (programId : String)

inductive ToolReturn where
  | cast (result : CastRecord)
  | execution (execution : ProgramExecution)

inductive ToolPhase where
  | arrived
  | saved (previous : PolicyModel) (request : CastProcess.DecideRequest)
  | selected (previous : PolicyModel) (request : CastProcess.DecideRequest)
  | ruled (previous : PolicyModel) (decision : PolicyDecision) (result : CastRecord)
  | named (previous : PolicyModel) (decision : PolicyDecision) (result : CastRecord)
  | judged (previous : PolicyModel) (outcome : Except PyError (PolicyDecision × CastRecord))
  | restored (outcome : Except PyError (PolicyDecision × CastRecord))
  | executed (execution : ProgramExecution)
  | stored (execution : ProgramExecution)
  | fetched (execution : ProgramExecution) (receipt : Option ExecutionReceipt)
  | done (returned : Except PyError ToolReturn)

-- Of _policy_model a decide reads the one it saves, the one that rules, its
-- name and its version, and it writes the one selected and the one saved.
def decideStep (call : DecideCall) (shared : SharedTools) : ToolPhase → SharedTools × ToolPhase
  | .arrived =>
      match shared.casting.decideRequest call.arguments with
      | .error raised => (shared, .done (.error raised))
      | .ok request => (shared, .saved shared.casting.policyModel request)
  | .saved previous request =>
      match call.selection with
      | .error raised => (shared, .judged previous (.error raised))
      | .ok none => (shared, .selected previous request)
      | .ok (some model) => (shared.select model, .selected previous request)
  | .selected previous request =>
      match shared.casting.judge shared.casting.policyModel call.arguments request call.draws with
      | .error raised => (shared, .judged previous (.error raised))
      | .ok (decision, result) => (shared, .ruled previous decision result)
  | .ruled previous decision result =>
      (shared, .named previous { decision with modelName := shared.casting.policyModel.name } result)
  | .named previous decision result =>
      (shared, .judged previous
        (.ok ({ decision with modelVersion := some shared.casting.policyModel.version }, result)))
  | .judged previous outcome => (shared.select previous, .restored outcome)
  | .restored (.error raised) => (shared, .done (.error raised))
  | .restored (.ok (decision, result)) =>
      let kept := shared.casting.keepDecision decision result
      ({ shared with casting := kept.2 }, .done (kept.1.map ToolReturn.cast))
  | phase => (shared, phase)

def executeStep (engine : Engine) (runtime : Runtime) (programId : String) (shared : SharedTools) :
    ToolPhase → SharedTools × ToolPhase
  | .arrived =>
      match shared.programs.programs programId with
      | none => (shared, .done (.error (.keyError programId)))
      | some program =>
          match executeProgram engine runtime program with
          | .error raised => (shared, .done (.error raised))
          | .ok (execution, receipt) => ({ shared with lastReceipt := some receipt }, .executed execution)
  | .executed execution =>
      ({ shared with programs := shared.programs.writeExecution execution }, .stored execution)
  | .stored execution => (shared, .fetched execution shared.lastReceipt)
  | .fetched execution none => (shared, .done (.ok (.execution execution)))
  | .fetched execution (some receipt) =>
      ({ shared with programs := shared.programs.writeExecutionReceipt receipt }, .done (.ok (.execution execution)))
  | phase => (shared, phase)

variable (requests : Nat → ToolRequest)

def toolStep (i : Nat) (shared : SharedTools) (phase : ToolPhase) : SharedTools × ToolPhase :=
  match requests i with
  | .decide call => decideStep call shared phase
  | .execute engine runtime programId => executeStep engine runtime programId shared phase

abbrev ToolParties := Parties Nat SharedTools ToolPhase

def newParties (start : SharedTools) : ToolParties where
  shared := start
  phases := fun _ => .arrived

def ToolRequest.selection : ToolRequest → Except PyError (Option PolicyModel)
  | .decide call => call.selection
  | .execute _ _ _ => .ok none

def ToolRequest.own (request : ToolRequest) (configured : PolicyModel) : PolicyModel :=
  match request.selection with
  | .ok (some model) => model
  | _ => configured

def MadeByOwn (reached : CastProcess → Prop) (configured : PolicyModel) (call : DecideCall)
    (decision : PolicyDecision) : Prop :=
  ∃ first later request result, reached first ∧ reached later ∧ first.decideRequest call.arguments = .ok request ∧
    later.judge ((ToolRequest.decide call).own configured) call.arguments request call.draws = .ok (decision, result)

def ToolPhase.saved? : ToolPhase → Option PolicyModel
  | .saved previous _ => some previous
  | .selected previous _ => some previous
  | .ruled previous _ _ => some previous
  | .named previous _ _ => some previous
  | .judged previous _ => some previous
  | _ => none

def ToolPhase.InSwap (phase : ToolPhase) : Prop := phase.saved?.isSome

-- The execution whose receipt is left in the engine.
def ToolPhase.awaited? : ToolPhase → Option ProgramExecution
  | .executed execution => some execution
  | .stored execution => some execution
  | _ => none

def ToolPhase.Awaits (phase : ToolPhase) : Prop := phase.awaited?.isSome

def ToolPhase.unpaired? : ToolPhase → Option ProgramExecution
  | .stored execution => some execution
  | .fetched execution _ => some execution
  | _ => none

def ToolPhase.Idle : ToolPhase → Prop
  | .arrived => True
  | .done _ => True
  | _ => False

def HasReceipt (store : ProgramStore) (executionId : String) : Prop :=
  ∃ receiptId receipt, store.receipts receiptId = some receipt ∧ receipt.executionId = executionId

structure Unleaked (reached : CastProcess → Prop) (start : SharedTools) (parties : ToolParties) : Prop where
  decisions : ∀ row ∈ parties.shared.casting.decisions.rows, row ∈ start.casting.decisions.rows ∨
    ∃ i call decision, requests i = .decide call ∧
      MadeByOwn reached start.casting.policyModel call decision ∧ row = decision.row
  executions : ∀ executionId, (parties.shared.programs.executions executionId).isSome →
    HasReceipt parties.shared.programs executionId ∨
      ∃ i execution, (parties.phases i).unpaired? = some execution ∧ execution.executionId = executionId
  model : (∀ i, (parties.phases i).Idle) → parties.shared.casting.policyModel = start.casting.policyModel

def Swaps (configured : PolicyModel) (i : Nat) : Prop :=
  ∃ model, (requests i).selection = .ok (some model) ∧ model ≠ configured

def SwapsClash (configured : PolicyModel) (i j : Nat) : Prop := Swaps requests configured i ∨ Swaps requests configured j

-- The step is not the save of the model while another request is between its
-- save and its restoration, where one of the two puts another model in; and it
-- is not a run that leaves its receipt while that of another one waits to be
-- read back.
def Apart (configured : PolicyModel) (parties : ToolParties) (i : Nat) : Prop :=
  let after := act (toolStep requests) parties i
  parties.phases i = .arrived →
    ((after.phases i).InSwap → Vacant ToolPhase.InSwap (SwapsClash requests configured) parties i) ∧
    ((after.phases i).Awaits → Vacant ToolPhase.Awaits (fun _ _ => True) parties i)

structure FreshStart (start : SharedTools) : Prop where
  own : ∀ i j engine engine' runtime runtime' programId programId', requests i = .execute engine runtime programId →
    requests j = .execute engine' runtime' programId' → runtime.receiptId = runtime'.receiptId → i = j
  unwritten : ∀ i engine runtime programId, requests i = .execute engine runtime programId →
    start.programs.receipts runtime.receiptId = none
  paired : ∀ executionId, (start.programs.executions executionId).isSome → HasReceipt start.programs executionId

theorem keep_decision_only (process : CastProcess) (decision : PolicyDecision) (result : CastRecord) :
    ∃ casts decisions, (process.keepDecision decision result).2 =
      { process with casts := casts, decisions := decisions } ∧
        ∀ row ∈ decisions.rows, row ∈ process.decisions.rows ∨ row = decision.row := by
  rw [CastProcess.keepDecision]
  cases wrote : process.writeCast result with
  | error raised => exact ⟨process.casts, process.decisions, rfl, fun row member => Or.inl member⟩
  | ok written =>
      obtain ⟨casts, rfl⟩ := process.write_cast_only result written wrote
      simp only [CastProcess.writePolicyDecision]
      by_cases stored : casts.Has decision.castId
      · rw [if_pos stored]
        refine ⟨casts, process.decisions.put decision.row, rfl, ?_⟩
        intro row member
        exact ((Table.mem_put _ _ _).mp member).imp_left And.left
      · rw [if_neg stored]
        exact ⟨casts, process.decisions, rfl, fun row member => Or.inl member⟩

theorem keep_decision_model (process : CastProcess) (decision : PolicyDecision) (result : CastRecord) :
    (process.keepDecision decision result).2.policyModel = process.policyModel := by
  obtain ⟨casts, decisions, after, -⟩ := keep_decision_only process decision result
  rw [after]

theorem judged_model (process : CastProcess) (model : PolicyModel) (arguments : CastProcess.DecideArguments)
    (request : CastProcess.DecideRequest) (draws : CallDraws) (decision : PolicyDecision) (result : CastRecord)
    (judged : process.judge model arguments request draws = .ok (decision, result)) :
    decision.modelName = model.name ∧ decision.modelVersion = some model.version := by
  obtain ⟨_, -, judged⟩ := (bind_ok _ _ _).mp judged
  obtain ⟨_, -, judged⟩ := (bind_ok _ _ _).mp judged
  obtain ⟨made, decided, judged⟩ := (bind_ok _ _ _).mp judged
  obtain ⟨_, -, decided⟩ := (bind_ok _ _ _).mp decided
  obtain rfl := Except.ok.inj decided
  obtain ⟨rfl, -⟩ := Prod.mk.inj (Except.ok.inj judged)
  exact ⟨rfl, rfl⟩

def DecideCall.whole (call : DecideCall) : CastProcess.DecideArguments :=
  { call.arguments with
    settings := do
      let settings ← call.arguments.settings
      let selected ← call.selection
      return { settings with policyModel := selected } }

theorem decide_saves (call : DecideCall) (i : Nat) (served : requests i = .decide call) (shared : SharedTools)
    (request : CastProcess.DecideRequest) (asked : shared.casting.decideRequest call.arguments = .ok request) :
    toolStep requests i shared .arrived = (shared, .saved shared.casting.policyModel request) := by
  rw [toolStep, served]
  change decideStep call shared .arrived = _
  rw [decideStep, asked]

theorem decide_from_selected (call : DecideCall) (i : Nat) (served : requests i = .decide call)
    (shared : SharedTools) (previous : PolicyModel) (request : CastProcess.DecideRequest) :
    (alone (toolStep requests) i)^[5] (shared, .selected previous request) =
      match shared.casting.judge shared.casting.policyModel call.arguments request call.draws with
      | .error raised => (shared.select previous, .done (.error raised))
      | .ok (decision, result) =>
          let kept := (shared.select previous).casting.keepDecision decision result
          ({ shared with casting := kept.2 }, .done (kept.1.map ToolReturn.cast)) := by
  cases judged : shared.casting.judge shared.casting.policyModel call.arguments request call.draws with
  | error raised => simp [Function.iterate_succ_apply, alone, toolStep, served, decideStep, judged]
  | ok made =>
      obtain ⟨decision, result⟩ := made
      obtain ⟨name, version⟩ := judged_model _ _ _ _ _ decision result judged
      simp [Function.iterate_succ_apply, alone, toolStep, served, decideStep, judged, ← name, ← version, SharedTools.select]

theorem decide_request_whole (process : CastProcess) (call : DecideCall) :
    process.decideRequest call.whole = do
      let request ← process.decideRequest call.arguments
      let selected ← call.selection
      return { request with settings := { request.settings with policyModel := selected } } := by
  rw [CastProcess.decideRequest, CastProcess.decideRequest]
  change (if call.arguments.requireCausalRoot ∧ call.arguments.causalRootCastId.getD "" = "" then _ else _) = _
  by_cases gated : call.arguments.requireCausalRoot ∧ call.arguments.causalRootCastId.getD "" = ""
  · rw [if_pos gated, if_pos gated]
    rfl
  · rw [if_neg gated, if_neg gated]
    simp only [DecideCall.whole]
    cases call.arguments.intent with
    | error raised => rfl
    | ok intent =>
        cases call.arguments.aspects.mapM (askedSet process.env) with
        | error raised => rfl
        | ok aspects =>
            cases call.arguments.vector.mapM fun components => SemanticVector.make components none with
            | error raised => rfl
            | ok vector =>
                cases call.arguments.settings with
                | error raised => rfl
                | ok settings => cases call.selection <;> rfl

theorem decide_alone (call : DecideCall) (i : Nat) (served : requests i = .decide call) (shared : SharedTools) :
    let called := shared.casting.toolDecide call.whole call.draws
    (alone (toolStep requests) i)^[7] (shared, .arrived) =
      ({ shared with casting := called.2 }, .done (called.1.map ToolReturn.cast)) := by
  cases asked : shared.casting.decideRequest call.arguments with
  | error raised =>
      have whole : shared.casting.decideRequest call.whole = .error raised := by
        rw [decide_request_whole, asked]
        rfl
      simp [CastProcess.tool_decide_steps, whole, Function.iterate_succ_apply, alone, toolStep, served, decideStep,
        asked, Except.map]
  | ok request =>
      cases selection : call.selection with
      | error raised =>
          have whole : shared.casting.decideRequest call.whole = .error raised := by
            rw [decide_request_whole, asked, selection]
            rfl
          simp [CastProcess.tool_decide_steps, whole, Function.iterate_succ_apply, alone, toolStep, served, decideStep,
            asked, selection, SharedTools.select, Except.map]
      | ok chosen =>
          have whole : shared.casting.decideRequest call.whole =
              .ok { request with settings := { request.settings with policyModel := chosen } } := by
            rw [decide_request_whole, asked, selection]
            rfl
          have opens : ∃ ready : SharedTools, ready.casting.policyModel = chosen.getD shared.casting.policyModel ∧
              ready = shared.select (chosen.getD shared.casting.policyModel) ∧
                alone (toolStep requests) i (alone (toolStep requests) i (shared, .arrived)) =
                  (ready, .selected shared.casting.policyModel request) := by
            cases chosen with
            | none => exact ⟨shared, rfl, rfl, by simp [alone, toolStep, served, decideStep, asked, selection]⟩
            | some model =>
                exact ⟨shared.select model, rfl, rfl, by simp [alone, toolStep, served, decideStep, asked, selection]⟩
          obtain ⟨ready, model, selected, opens⟩ := opens
          rw [CastProcess.tool_decide_steps, whole, Function.iterate_succ_apply, Function.iterate_succ_apply, opens,
            decide_from_selected requests call i served, model, selected]
          generalize isModel : chosen.getD shared.casting.policyModel = ruling
          cases judged : shared.casting.judge ruling call.arguments request call.draws with
          | error raised =>
              have apart : (shared.select ruling).casting.judge ruling call.arguments request call.draws =
                  .error raised := judged
              have together : shared.casting.judge ruling call.whole
                  { request with settings := { request.settings with policyModel := chosen } } call.draws =
                    .error raised := judged
              simp only [isModel, apart, together]
              rfl
          | ok made =>
              have apart : (shared.select ruling).casting.judge ruling call.arguments request call.draws =
                  .ok made := judged
              have together : shared.casting.judge ruling call.whole
                  { request with settings := { request.settings with policyModel := chosen } } call.draws =
                    .ok made := judged
              simp only [isModel, apart, together]
              rfl

theorem execute_alone (engine : Engine) (runtime : Runtime) (programId : String) (i : Nat)
    (served : requests i = .execute engine runtime programId) (shared : SharedTools) :
    let called := toolExecuteProgram engine runtime programId shared.programs
    let ended := (alone (toolStep requests) i)^[4] (shared, .arrived)
    ended.1.programs = called.2 ∧ ended.1.casting = shared.casting ∧
      ended.2 = .done (called.1.map ToolReturn.execution) := by
  cases found : shared.programs.programs programId with
  | none =>
      simp [Function.iterate_succ_apply, alone, toolStep, served, executeStep, toolExecuteProgram, found, Except.map]
  | some program =>
      cases returned : executeProgram engine runtime program with
      | error raised =>
          simp [Function.iterate_succ_apply, alone, toolStep, served, executeStep, toolExecuteProgram, found,
            returned, Except.map]
      | ok out =>
          simp [Function.iterate_succ_apply, alone, toolStep, served, executeStep, toolExecuteProgram, found,
            returned, Except.map]

theorem decide_ends (call : DecideCall) (i : Nat) (served : requests i = .decide call) (parties : ToolParties)
    (previous : PolicyModel) (request : CastProcess.DecideRequest)
    (stands : parties.phases i = .selected previous request) :
    let ended := run (act (toolStep requests)) parties (List.replicate 5 i)
    ended.shared.casting.policyModel = previous ∧ (∃ returned, ended.phases i = .done returned) ∧
      ∀ j, j ≠ i → ended.phases j = parties.phases j := by
  obtain ⟨shared, phases⟩ := run_alone (toolStep requests) parties i 5
  rw [stands, decide_from_selected requests call i served] at shared phases
  simp only [shared, phases]
  refine ⟨?_, ?_, fun j other => Function.update_of_ne other ..⟩
  · cases parties.shared.casting.judge parties.shared.casting.policyModel call.arguments request call.draws with
    | error raised => rfl
    | ok made => exact keep_decision_model _ _ _
  · rw [Function.update_self]
    cases parties.shared.casting.judge parties.shared.casting.policyModel call.arguments request call.draws with
    | error raised => exact ⟨_, rfl⟩
    | ok made => exact ⟨_, rfl⟩

end Vermyth
