import Mathlib.Data.Finset.Basic
import Vermyth.Engine.Compile
import Vermyth.Engine.Condition
import Vermyth.Foundation.Loop

set_option autoImplicit false

namespace Vermyth

open Foundation

-- One call of the engine. A run asks for each node and attempt at most once,
-- so an engine that answers by call is free to answer differently each time.
structure Call where
  nodeId : String
  attempt : Nat
deriving DecidableEq, Repr

structure Engine where
  resolve : Call → String → Except PyError String
  compose : Call → Finset String → Except PyError Sigil
  evaluate : Call → Sigil → Intent → Except PyError Verdict
  freshCastId : Call → String
  fluidCast : Call → SemanticVector → Intent → Except PyError CastResult
  autoCast : Call → SemanticVector → Intent → Except PyError (CastResult × List CastResult)

def castNode (engine : Engine) (node : CastNode) (attempt : Nat) : Except PyError CastResult :=
  let call : Call := { nodeId := node.nodeId, attempt := attempt }
  match node.nodeType with
  | .cast => do
      let resolved ← (node.aspects.getD []).mapM (engine.resolve call)
      let sigil ← engine.compose call resolved.toFinset
      let verdict ← engine.evaluate call sigil node.intent
      .ok { castId := engine.freshCastId call, intent := node.intent, sigil := sigil, verdict := verdict }
  | .fluidCast =>
      match node.vector with
      | none => .error (.valueError "FLUID_CAST node missing vector")
      | some vector => engine.fluidCast call vector node.intent
  | .autoCast =>
      match node.vector with
      | none => .error (.valueError "AUTO_CAST node missing vector")
      | some vector => (engine.autoCast call vector node.intent).map Prod.fst
  | .gate => .error (.valueError "unsupported node type GATE")
  | .merge => .error (.valueError "unsupported node type MERGE")

structure RunState where
  blocked : Finset String := ∅
  resultsByNode : String → Option CastResult := fun _ => none
  status : ProgramStatus := .completed
  nodeResults : NodeResults := ∅
  receiptNodes : List NodeExecutionReceipt := []
  rollbackQueue : List CastNode := []

def skipReceipt (node : CastNode) (pre : List ConditionResult) : NodeExecutionReceipt where
  nodeId := node.nodeId
  status := .skipped
  preconditionResults := pre
  effectSummary := node.effects
  error := some "precondition_failed"

def skipNode (node : CastNode) (pre : List ConditionResult) (state : RunState) : RunState :=
  { state with
    blocked := state.blocked ∪ node.successors.toFinset
    receiptNodes := state.receiptNodes ++ [skipReceipt node pre] }

def gateOk (node : CastNode) (predResults : List CastResult) : Bool :=
  predResults.any fun result => some result.verdict.verdictType == node.gateCondition

def gateReceipt (node : CastNode) (pre : List ConditionResult) (retries : Nat) (ok : Bool) :
    NodeExecutionReceipt where
  nodeId := node.nodeId
  status := if ok then .ok else .skipped
  preconditionResults := pre
  retries := retries
  effectSummary := node.effects

def gateNode (node : CastNode) (predResults : List CastResult) (pre : List ConditionResult) (retries : Nat)
    (state : RunState) : RunState :=
  let ok := gateOk node predResults
  { state with
    blocked := if ok then state.blocked else state.blocked ∪ node.successors.toFinset
    receiptNodes := state.receiptNodes ++ [gateReceipt node pre retries ok] }

def mergeResult (node : CastNode) (predResults : List CastResult) : Option CastResult :=
  match node.mergeStrategy with
  | some .firstCoherent =>
      (predResults.find? fun result => result.verdict.verdictType == .coherent).orElse fun _ => predResults.head?
  | _ => bestResonance predResults

def mergeReceipt (node : CastNode) (pre : List ConditionResult) (retries : Nat) : NodeExecutionReceipt where
  nodeId := node.nodeId
  status := .ok
  preconditionResults := pre
  retries := retries
  effectSummary := node.effects

def mergeNode (node : CastNode) (predResults : List CastResult) (pre : List ConditionResult) (retries : Nat)
    (state : RunState) : RunState :=
  match mergeResult node predResults with
  | none => state
  | some merged =>
      { state with
        resultsByNode := Function.update state.resultsByNode node.nodeId (some merged)
        nodeResults := state.nodeResults.insert node.nodeId merged.castId
        receiptNodes := state.receiptNodes ++ [mergeReceipt node pre retries] }

-- The try block: a gate or merge leaves no base result and cannot raise.
def tryNode (engine : Engine) (node : CastNode) (predResults : List CastResult) (pre : List ConditionResult)
    (state : RunState) (attempt : Nat) : Except PyError (RunState × Option CastResult) :=
  match node.nodeType with
  | .gate => .ok (gateNode node predResults pre (attempt - 1) state, none)
  | .merge => .ok (mergeNode node predResults pre (attempt - 1) state, none)
  | _ => (castNode engine node attempt).map fun base => (state, some base)

def failReceipt (node : CastNode) (pre : List ConditionResult) (retries : Nat) (error : String) :
    NodeExecutionReceipt where
  nodeId := node.nodeId
  status := .failed
  preconditionResults := pre
  retries := retries
  effectSummary := node.effects
  error := some error

def rollbackReceipt (prev : CastNode) : NodeExecutionReceipt where
  nodeId := prev.nodeId
  status := .rolledBack
  error := some (match prev.rollback with
    | none => "rollback:none"
    | some strategy => "rollback:" ++ strategy.lower)

-- run_error or "execution_failed"
def errorText (lastError : Option PyError) : String :=
  match lastError with
  | none => "execution_failed"
  | some raised => if raised.text = "" then "execution_failed" else raised.text

def failNode (node : CastNode) (pre : List ConditionResult) (retries : Nat) (error : String)
    (state : RunState) : RunState :=
  { state with
    status := .failed
    receiptNodes := state.receiptNodes ++ [failReceipt node pre retries error] ++
      state.rollbackQueue.reverse.map rollbackReceipt }

def okReceipt (node : CastNode) (pre post : List ConditionResult) (retries : Nat) : NodeExecutionReceipt where
  nodeId := node.nodeId
  status := .ok
  preconditionResults := pre
  postconditionResults := post
  retries := retries
  effectSummary := node.effects

def finishNode (node : CastNode) (pre post : List ConditionResult) (retries : Nat) (result : CastResult)
    (state : RunState) : RunState :=
  { state with
    resultsByNode := Function.update state.resultsByNode node.nodeId (some result)
    nodeResults := state.nodeResults.insert node.nodeId result.castId
    rollbackQueue := state.rollbackQueue ++ [node]
    receiptNodes := state.receiptNodes ++ [okReceipt node pre post retries] }

def withParent (base : CastResult) (predResults : List CastResult) (branchId : String) : CastResult :=
  match bestResonance predResults with
  | some parent => castResultWithLineage base parent branchId
  | none => base

-- The body of the node loop. Postconditions are evaluated outside the try
-- block, so what they raise ends the whole execution.
def processNode (engine : Engine) (program : SemanticProgram) (predecessors : Predecessors) (branchId : String)
    (state : RunState) (nodeId : String) : Except PyError (ForInStep RunState) :=
  if nodeId ∈ state.blocked then .ok (.yield state)
  else
    match program.node? nodeId with
    | none => .error (.keyError nodeId)
    | some node =>
        let predResults := (predecessors nodeId).filterMap state.resultsByNode
        match evalConditions (preContext predResults) node.preconditions with
        | .error raised => .error raised
        | .ok pre =>
            if pre.all ConditionResult.ok then
              let tried := retry (tryNode engine node predResults pre state) node.attempts
              let left := (tried.value.map Prod.fst).getD state
              if node.nodeType = .gate ∨ node.nodeType = .merge then .ok (.yield left)
              else
                match tried.value.bind Prod.snd with
                | none => .ok (.done (failNode node pre tried.retries (errorText tried.lastError) left))
                | some base =>
                    let result := withParent base predResults branchId
                    match evalConditions (postContext result) node.postconditions with
                    | .error raised => .error raised
                    | .ok post => .ok (.yield (finishNode node pre post tried.retries result left))
            else .ok (.yield (skipNode node pre state))

-- The configured key. Loading it raises without the crypto package or when
-- the PEM holds no Ed25519 key; signing with it does not.
structure Signer where
  keyId : String
  privateKey : Except PyError (ExecutionReceipt → String)

def signReceiptIfConfigured (signer : Option Signer) (receipt : ExecutionReceipt) :
    Except PyError ExecutionReceipt :=
  match signer with
  | none => .ok receipt
  | some signer =>
      match signer.privateKey with
      | .error raised => .error raised
      | .ok sign => .ok { receipt with signature := some (sign receipt), signingKeyId := some signer.keyId }

structure Runtime where
  denyWarnings : Bool := false
  branchId : String
  executionId : String
  receiptId : String
  correlationId : Option String := none
  principalId : Option String := none
  signer : Option Signer := none

-- metadata.get("arcane"), kept when it is a dict.
def arcaneProvenance (program : SemanticProgram) : Option (List (String × Json)) :=
  match program.metadata.lookup "arcane" with
  | some (.obj fields) => some fields
  | _ => none

def executionOf (runtime : Runtime) (program : SemanticProgram) (final : RunState) : ProgramExecution where
  executionId := runtime.executionId
  programId := program.programId
  status := final.status
  nodeResults := final.nodeResults
  branchId := runtime.branchId

def receiptOf (runtime : Runtime) (program : SemanticProgram) (final : RunState) : ExecutionReceipt where
  receiptId := runtime.receiptId
  executionId := runtime.executionId
  programId := program.programId
  status := final.status
  nodes := final.receiptNodes
  correlationId := runtime.correlationId
  principalId := runtime.principalId
  arcaneProvenance := arcaneProvenance program

def compiledProgram (program : SemanticProgram) : Except PyError SemanticProgram :=
  if program.status = .compiled then .ok program else compileProgram program

-- The execution and the receipt left in engine._last_execution_receipt.
def executeProgram (engine : Engine) (runtime : Runtime) (program : SemanticProgram) :
    Except PyError (ProgramExecution × ExecutionReceipt) :=
  match compiledProgram program with
  | .error raised => .error raised
  | .ok compiled =>
      let report := validateProgram compiled
      if report.warnings ≠ [] ∧ runtime.denyWarnings then
        .error (.valueError ("program validation warnings: " ++ "; ".intercalate report.warnings))
      else
        match linkNodes compiled.nodeIds (fun _ succ => .keyError succ) compiled.nodes (fun _ => []) with
        | .error raised => .error raised
        | .ok predecessors =>
            match topologicalOrder compiled predecessors with
            | .error raised => .error raised
            | .ok order =>
                match sweep (processNode engine compiled predecessors runtime.branchId) order {} with
                | .error raised => .error raised
                | .ok flow =>
                    let final := exitState flow
                    match signReceiptIfConfigured runtime.signer (receiptOf runtime compiled final) with
                    | .error raised => .error raised
                    | .ok receipt => .ok (executionOf runtime compiled final, receipt)

end Vermyth
