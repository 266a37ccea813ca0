import Vermyth.Schema.Program

set_option autoImplicit false

namespace Vermyth

structure ProgramValidationReport where
  errors : List String := []
  warnings : List String := []
deriving DecidableEq, Repr

def ProgramValidationReport.ok (report : ProgramValidationReport) : Bool := report.errors.isEmpty

def ProgramValidationReport.append (a b : ProgramValidationReport) : ProgramValidationReport where
  errors := a.errors ++ b.errors
  warnings := a.warnings ++ b.warnings

def destructive : EffectType → Bool
  | .write => true
  | .exec => true
  | .network => true
  | _ => false

-- node.rollback in (None, RollbackStrategy.NONE)
def lacksRollback (rollback : Option RollbackStrategy) : Bool :=
  rollback == none || rollback == some .none

def effectWarnings (node : CastNode) : List String :=
  (node.effects.filter fun effect =>
    destructive effect.effectType && lacksRollback node.rollback && node.nodeType != .gate).map
    fun effect => "node " ++ node.nodeId ++ ": destructive effect " ++ effect.effectType.value
      ++ " without rollback strategy"

-- An effect without a type cannot be built here, so its error has no branch.
def validateNode (node : CastNode) : ProgramValidationReport where
  errors :=
    (if (node.timeoutMs.any fun ms => 3600000 < ms) then
      ["node " ++ node.nodeId ++ ": timeout_ms exceeds maximum (1h)"] else []) ++
    (if (node.retryPolicy.any fun policy => 20 < policy.maxAttempts) then
      ["node " ++ node.nodeId ++ ": retry_policy.max_attempts too large"] else [])
  warnings :=
    (if (node.retryPolicy.any fun policy => 600000 < policy.backoffMs) then
      ["node " ++ node.nodeId ++ ": very large backoff_ms"] else []) ++
    effectWarnings node ++
    (if (node.postconditions.map Condition.predicate).dedup.length < node.postconditions.length then
      ["node " ++ node.nodeId ++ ": duplicate postcondition keys"] else [])

def deadEndWarnings (node : CastNode) : List String :=
  if node.nodeType = .gate ∧ node.successors = [] then
    ["node " ++ node.nodeId ++ ": GATE with no successors (dead end)"]
  else []

def validateProgram (program : SemanticProgram) : ProgramValidationReport :=
  let report := (program.nodes.map validateNode).foldl ProgramValidationReport.append {}
  { report with warnings := report.warnings ++ program.nodes.flatMap deadEndWarnings }

theorem validate_node_errors (node : CastNode) : (validateNode node).errors = [] := by
  have timeout : (node.timeoutMs.any fun ms => decide (3600000 < ms)) = false := by
    cases present : node.timeoutMs with
    | none => rfl
    | some ms =>
        have bound := (node.timeoutRange ms (by simp [present])).2
        simpa using bound
  have attempts : (node.retryPolicy.any fun policy => decide (20 < policy.maxAttempts)) = false := by
    cases node.retryPolicy with
    | none => rfl
    | some policy => simpa using policy.attemptsRange.2
  simp [validateNode, timeout, attempts]

theorem append_field (field : ProgramValidationReport → List String)
    (additive : ∀ a b, field (a.append b) = field a ++ field b) (reports : List ProgramValidationReport)
    (start : ProgramValidationReport) :
    field (reports.foldl ProgramValidationReport.append start) = field start ++ reports.flatMap field := by
  induction reports generalizing start with
  | nil => simp
  | cons head tail ih => simp [ih, additive, List.append_assoc]

-- The schema's own field bounds already exclude every error this pass reports.
theorem validate_program_errors (program : SemanticProgram) : (validateProgram program).errors = [] := by
  simp only [validateProgram, append_field ProgramValidationReport.errors fun _ _ => rfl, List.nil_append,
    List.flatMap_map]
  rw [List.flatMap_eq_nil_iff]
  exact fun node _ => validate_node_errors node

theorem validate_program_warnings (program : SemanticProgram) :
    (validateProgram program).warnings =
      (program.nodes.flatMap fun node => (validateNode node).warnings) ++ program.nodes.flatMap deadEndWarnings := by
  simp only [validateProgram, append_field ProgramValidationReport.warnings fun _ _ => rfl, List.nil_append,
    List.flatMap_map]

end Vermyth
