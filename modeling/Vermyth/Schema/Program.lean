import Mathlib.Data.List.AList
import Vermyth.Schema.Cast

set_option autoImplicit false

namespace Vermyth

inductive NodeType where
  | cast
  | fluidCast
  | autoCast
  | gate
  | merge
deriving DecidableEq, Repr

def NodeType.isCast : NodeType → Bool
  | .cast => true
  | .fluidCast => true
  | .autoCast => true
  | .gate => false
  | .merge => false

inductive ProgramStatus where
  | draft
  | compiled
  | running
  | completed
  | failed
deriving DecidableEq, Repr

inductive EffectType where
  | read
  | write
  | network
  | exec
  | compute
  | observe
  | none
deriving DecidableEq, Repr

def EffectType.value : EffectType → String
  | .read => "READ"
  | .write => "WRITE"
  | .network => "NETWORK"
  | .exec => "EXEC"
  | .compute => "COMPUTE"
  | .observe => "OBSERVE"
  | .none => "NONE"

inductive RollbackStrategy where
  | none
  | compensate
  | undoLog
  | checkpointRestore
deriving DecidableEq, Repr

-- rollback.value.lower()
def RollbackStrategy.lower : RollbackStrategy → String
  | .none => "none"
  | .compensate => "compensate"
  | .undoLog => "undo_log"
  | .checkpointRestore => "checkpoint_restore"

inductive MergeStrategy where
  | firstCoherent
  | bestResonance
  | all
deriving DecidableEq, Repr

inductive ConditionOp where
  | eq
  | neq
  | compare (order : Order)
  | contains
  | present
deriving DecidableEq, Repr

structure ConditionExpr where
  op : ConditionOp
  key : String
  value : Json := .null
  keyNonempty : key ≠ "" := by decide
deriving Repr

structure Condition where
  predicate : String
  expr : Option ConditionExpr := none
deriving Repr

structure ResourceRef where
  kind : String
  uri : String
  scope : String
  access : String := "READ"
deriving DecidableEq, Repr

structure Effect where
  effectType : EffectType
  target : Option ResourceRef := none
  reversible : Bool := true
  costHint : ℚ := 0
deriving DecidableEq, Repr

structure RetryPolicy where
  maxAttempts : Nat := 1
  backoffMs : Nat := 0
  attemptsRange : 1 ≤ maxAttempts ∧ maxAttempts ≤ 20 := by decide
  backoffRange : backoffMs ≤ 60000 := by decide
deriving DecidableEq, Repr

-- CastNode._validate_node_payload
def NodePayload (nodeType : NodeType) (aspects : Option (List String)) (vector : Option SemanticVector)
    (gateCondition : Option VerdictType) (mergeStrategy : Option MergeStrategy) : Prop :=
  match nodeType with
  | .cast => aspects.getD [] ≠ [] ∧ vector = none
  | .fluidCast => vector.isSome ∧ aspects = none
  | .autoCast => vector.isSome ∧ aspects = none
  | .gate => gateCondition.isSome
  | .merge => mergeStrategy.isSome

instance (nodeType : NodeType) (aspects : Option (List String)) (vector : Option SemanticVector)
    (gateCondition : Option VerdictType) (mergeStrategy : Option MergeStrategy) :
    Decidable (NodePayload nodeType aspects vector gateCondition mergeStrategy) :=
  match nodeType with
  | .cast => inferInstanceAs (Decidable (aspects.getD [] ≠ [] ∧ vector = none))
  | .fluidCast => inferInstanceAs (Decidable (vector.isSome ∧ aspects = none))
  | .autoCast => inferInstanceAs (Decidable (vector.isSome ∧ aspects = none))
  | .gate => inferInstanceAs (Decidable (gateCondition.isSome = true))
  | .merge => inferInstanceAs (Decidable (mergeStrategy.isSome = true))

-- An absent list of conditions or effects reads as the empty list: the code
-- only ever tests these fields for truth or iterates over them.
structure CastNode where
  nodeId : String
  nodeType : NodeType
  aspects : Option (List String) := none
  vector : Option SemanticVector := none
  intent : Intent
  successors : List String := []
  gateCondition : Option VerdictType := none
  mergeStrategy : Option MergeStrategy := none
  preconditions : List Condition := []
  postconditions : List Condition := []
  effects : List Effect := []
  retryPolicy : Option RetryPolicy := none
  rollback : Option RollbackStrategy := none
  timeoutMs : Option Nat := none
  timeoutRange : ∀ ms ∈ timeoutMs, 1 ≤ ms ∧ ms ≤ 3600000 := by decide
  payloadValid : NodePayload nodeType aspects vector gateCondition mergeStrategy := by decide
deriving Repr

def CastNode.attempts (node : CastNode) : Nat :=
  match node.retryPolicy with
  | some policy => policy.maxAttempts
  | none => 1

theorem attempts_pos (node : CastNode) : 1 ≤ node.attempts := by
  unfold CastNode.attempts
  split
  · rename_i policy _
    exact policy.attemptsRange.1
  · exact Nat.le_refl 1

-- SemanticProgram._validate_program_graph and the min_length of its lists are
-- the four closing fields.
structure SemanticProgram where
  programId : String
  status : ProgramStatus := .draft
  nodes : List CastNode
  entryNodeIds : List String
  metadata : List (String × Json) := []
  nodesNonempty : nodes ≠ []
  entriesNonempty : entryNodeIds ≠ []
  distinctIds : (nodes.map CastNode.nodeId).Nodup
  entriesKnown : ∀ entry ∈ entryNodeIds, entry ∈ nodes.map CastNode.nodeId
deriving Repr

def SemanticProgram.nodeIds (program : SemanticProgram) : List String :=
  program.nodes.map CastNode.nodeId

def SemanticProgram.node? (program : SemanticProgram) (nodeId : String) : Option CastNode :=
  program.nodes.find? fun node => node.nodeId == nodeId

theorem node_lookup (program : SemanticProgram) (node : CastNode) (member : node ∈ program.nodes) :
    program.node? node.nodeId = some node := by
  have distinct := program.distinctIds
  unfold SemanticProgram.node?
  generalize program.nodes = nodes at member distinct
  induction nodes with
  | nil => simp at member
  | cons head tail ih =>
      simp only [List.map_cons, List.nodup_cons] at distinct
      rcases List.mem_cons.mp member with same | later
      · subst same
        simp
      · have different : head.nodeId ≠ node.nodeId := by
          intro same
          exact distinct.1 (same ▸ List.mem_map_of_mem later)
        rw [List.find?_cons_of_neg (by simpa using different)]
        exact ih later distinct.2

theorem node_unique (program : SemanticProgram) (a b : CastNode) (inA : a ∈ program.nodes) (inB : b ∈ program.nodes)
    (same : a.nodeId = b.nodeId) : a = b :=
  List.inj_on_of_nodup_map program.distinctIds inA inB same

theorem node_lookup_some (program : SemanticProgram) (nodeId : String) (node : CastNode)
    (found : program.node? nodeId = some node) : node ∈ program.nodes ∧ node.nodeId = nodeId := by
  refine ⟨List.mem_of_find?_eq_some found, ?_⟩
  simpa using List.find?_some found

theorem node_lookup_known (program : SemanticProgram) (nodeId : String) (known : nodeId ∈ program.nodeIds) :
    ∃ node ∈ program.nodes, node.nodeId = nodeId ∧ program.node? nodeId = some node := by
  obtain ⟨node, member, same⟩ := List.mem_map.mp known
  exact ⟨node, member, same, same ▸ node_lookup program node member⟩

inductive NodeExecutionStatus where
  | skipped
  | running
  | ok
  | failed
  | rolledBack
deriving DecidableEq, Repr

structure ConditionResult where
  predicate : String
  ok : Bool
deriving DecidableEq, Repr

structure NodeExecutionReceipt where
  nodeId : String
  status : NodeExecutionStatus
  preconditionResults : List ConditionResult := []
  postconditionResults : List ConditionResult := []
  retries : Nat := 0
  effectSummary : List Effect := []
  error : Option String := none
deriving DecidableEq, Repr

abbrev NodeResults := AList fun _ : String => String

structure ProgramExecution where
  executionId : String
  programId : String
  status : ProgramStatus
  nodeResults : NodeResults
  branchId : String

structure ExecutionReceipt where
  receiptId : String
  executionId : String
  programId : String
  status : ProgramStatus
  nodes : List NodeExecutionReceipt
  signature : Option String := none
  signingKeyId : Option String := none
  correlationId : Option String := none
  principalId : Option String := none
  arcaneProvenance : Option (List (String × Json)) := none

end Vermyth
