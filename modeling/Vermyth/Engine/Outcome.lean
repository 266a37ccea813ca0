import Vermyth.Engine.Execute

set_option autoImplicit false

namespace Vermyth

open Foundation

-- What visiting a node comes to, apart from how the executor's tables record
-- it. Gates and merges never use a retry.
inductive Outcome where
  | blocked
  | preconditionFailed (pre : List ConditionResult)
  | gate (pre : List ConditionResult) (ok : Bool)
  | nothingToMerge
  | merged (pre : List ConditionResult) (result : CastResult)
  | failed (pre : List ConditionResult) (retries : Nat) (error : String)
  | ran (pre post : List ConditionResult) (retries : Nat) (result : CastResult)

structure Visit where
  node : CastNode
  outcome : Outcome

def castOutcome (engine : Engine) (branchId : String) (node : CastNode) (predResults : List CastResult)
    (pre : List ConditionResult) : Except PyError Outcome :=
  let tried := retry (castNode engine node) node.attempts
  match tried.value with
  | none => .ok (.failed pre tried.retries (errorText tried.lastError))
  | some base =>
      let result := withParent base predResults branchId
      match evalConditions (postContext result) node.postconditions with
      | .error raised => .error raised
      | .ok post => .ok (.ran pre post tried.retries result)

def observe (engine : Engine) (branchId : String) (node : CastNode) (isBlocked : Bool)
    (predResults : List CastResult) : Except PyError Outcome :=
  if isBlocked then .ok .blocked
  else
    match evalConditions (preContext predResults) node.preconditions with
    | .error raised => .error raised
    | .ok pre =>
        if pre.all ConditionResult.ok then
          match node.nodeType with
          | .gate => .ok (.gate pre (gateOk node predResults))
          | .merge =>
              match mergeResult node predResults with
              | none => .ok .nothingToMerge
              | some result => .ok (.merged pre result)
          | _ => castOutcome engine branchId node predResults pre
        else .ok (.preconditionFailed pre)

inductive Observed (engine : Engine) (branchId : String) (node : CastNode) (predResults : List CastResult) :
    Bool → Outcome → Prop where
  | blocked : Observed engine branchId node predResults true .blocked
  | preconditionFailed (pre : List ConditionResult)
      (evaluated : evalConditions (preContext predResults) node.preconditions = .ok pre)
      (refused : pre.all ConditionResult.ok = false) :
      Observed engine branchId node predResults false (.preconditionFailed pre)
  | gate (pre : List ConditionResult)
      (evaluated : evalConditions (preContext predResults) node.preconditions = .ok pre)
      (passed : pre.all ConditionResult.ok = true) (type : node.nodeType = .gate) :
      Observed engine branchId node predResults false (.gate pre (gateOk node predResults))
  | nothingToMerge (pre : List ConditionResult)
      (evaluated : evalConditions (preContext predResults) node.preconditions = .ok pre)
      (passed : pre.all ConditionResult.ok = true) (type : node.nodeType = .merge)
      (nothing : mergeResult node predResults = none) :
      Observed engine branchId node predResults false .nothingToMerge
  | merged (pre : List ConditionResult) (result : CastResult)
      (evaluated : evalConditions (preContext predResults) node.preconditions = .ok pre)
      (passed : pre.all ConditionResult.ok = true) (type : node.nodeType = .merge)
      (merges : mergeResult node predResults = some result) :
      Observed engine branchId node predResults false (.merged pre result)
  | failed (pre : List ConditionResult)
      (evaluated : evalConditions (preContext predResults) node.preconditions = .ok pre)
      (passed : pre.all ConditionResult.ok = true) (type : node.nodeType.isCast = true)
      (exhausted : (retry (castNode engine node) node.attempts).value = none) :
      Observed engine branchId node predResults false
        (.failed pre (retry (castNode engine node) node.attempts).retries
          (errorText (retry (castNode engine node) node.attempts).lastError))
  | ran (pre post : List ConditionResult) (base : CastResult)
      (evaluated : evalConditions (preContext predResults) node.preconditions = .ok pre)
      (passed : pre.all ConditionResult.ok = true) (type : node.nodeType.isCast = true)
      (succeeded : (retry (castNode engine node) node.attempts).value = some base)
      (evaluatedPost : evalConditions (postContext (withParent base predResults branchId))
        node.postconditions = .ok post) :
      Observed engine branchId node predResults false
        (.ran pre post (retry (castNode engine node) node.attempts).retries (withParent base predResults branchId))

theorem cast_observed (engine : Engine) (branchId : String) (node : CastNode) (predResults : List CastResult)
    (pre : List ConditionResult) (outcome : Outcome)
    (evaluated : evalConditions (preContext predResults) node.preconditions = .ok pre)
    (passed : pre.all ConditionResult.ok = true) (type : node.nodeType.isCast = true)
    (ok : castOutcome engine branchId node predResults pre = .ok outcome) :
    Observed engine branchId node predResults false outcome := by
  simp only [castOutcome] at ok
  cases value : (retry (castNode engine node) node.attempts).value with
  | none =>
      simp only [value, Except.ok.injEq] at ok
      exact ok ▸ .failed pre evaluated passed type value
  | some base =>
      simp only [value] at ok
      cases evaluatedPost : evalConditions (postContext (withParent base predResults branchId))
          node.postconditions with
      | error raised => simp [evaluatedPost] at ok
      | ok post =>
          simp only [evaluatedPost, Except.ok.injEq] at ok
          exact ok ▸ .ran pre post base evaluated passed type value evaluatedPost

theorem observe_observed (engine : Engine) (branchId : String) (node : CastNode) (isBlocked : Bool)
    (predResults : List CastResult) (outcome : Outcome)
    (ok : observe engine branchId node isBlocked predResults = .ok outcome) :
    Observed engine branchId node predResults isBlocked outcome := by
  cases isBlocked with
  | true =>
      simp only [observe, if_true, Except.ok.injEq] at ok
      exact ok ▸ .blocked
  | false =>
      simp only [observe, Bool.false_eq_true, if_false] at ok
      cases evaluated : evalConditions (preContext predResults) node.preconditions with
      | error raised => simp [evaluated] at ok
      | ok pre =>
          cases passed : pre.all ConditionResult.ok with
          | false =>
              simp only [evaluated, passed, Bool.false_eq_true, if_false, Except.ok.injEq] at ok
              exact ok ▸ .preconditionFailed pre evaluated passed
          | true =>
              simp only [evaluated, passed, if_true] at ok
              cases type : node.nodeType with
              | gate =>
                  simp only [type, Except.ok.injEq] at ok
                  exact ok ▸ .gate pre evaluated passed type
              | merge =>
                  cases merges : mergeResult node predResults with
                  | none =>
                      simp only [type, merges, Except.ok.injEq] at ok
                      exact ok ▸ .nothingToMerge pre evaluated passed type merges
                  | some result =>
                      simp only [type, merges, Except.ok.injEq] at ok
                      exact ok ▸ .merged pre result evaluated passed type merges
              | cast | fluidCast | autoCast =>
                  simp only [type] at ok
                  exact cast_observed engine branchId node predResults pre outcome evaluated passed
                    (by rw [type]; rfl) ok

def recordVisit (state : RunState) (visit : Visit) : RunState :=
  match visit.outcome with
  | .blocked => state
  | .preconditionFailed pre => skipNode visit.node pre state
  | .gate pre ok =>
      { state with
        blocked := if ok then state.blocked else state.blocked ∪ visit.node.successors.toFinset
        receiptNodes := state.receiptNodes ++ [gateReceipt visit.node pre 0 ok] }
  | .nothingToMerge => state
  | .merged pre result =>
      { state with
        resultsByNode := Function.update state.resultsByNode visit.node.nodeId (some result)
        nodeResults := state.nodeResults.insert visit.node.nodeId result.castId
        receiptNodes := state.receiptNodes ++ [mergeReceipt visit.node pre 0] }
  | .failed pre retries error => failNode visit.node pre retries error state
  | .ran pre post retries result => finishNode visit.node pre post retries result state

def Outcome.fails : Outcome → Bool
  | .failed _ _ _ => true
  | _ => false

def Visit.fails (visit : Visit) : Bool := visit.outcome.fails

def visitNode (engine : Engine) (program : SemanticProgram) (predecessors : Predecessors) (branchId : String)
    (state : RunState) (nodeId : String) : Except PyError Visit :=
  match program.node? nodeId with
  | none => .error (.keyError nodeId)
  | some node =>
      (observe engine branchId node (decide (nodeId ∈ state.blocked))
        ((predecessors nodeId).filterMap state.resultsByNode)).map fun outcome => ⟨node, outcome⟩

theorem gate_step (engine : Engine) (node : CastNode) (predResults : List CastResult)
    (pre : List ConditionResult) (state : RunState) (isGate : node.nodeType = .gate) :
    retry (tryNode engine node predResults pre state) node.attempts =
      { value := some (recordVisit state ⟨node, .gate pre (gateOk node predResults)⟩, none) } := by
  apply retry_first _ _ _ (attempts_pos node)
  simp [tryNode, isGate, gateNode, recordVisit]

theorem merge_step (engine : Engine) (node : CastNode) (predResults : List CastResult)
    (pre : List ConditionResult) (state : RunState) (isMerge : node.nodeType = .merge) :
    retry (tryNode engine node predResults pre state) node.attempts =
      { value := some (mergeNode node predResults pre 0 state, none) } := by
  apply retry_first _ _ _ (attempts_pos node)
  simp [tryNode, isMerge]

theorem cast_step (engine : Engine) (node : CastNode) (predResults : List CastResult)
    (pre : List ConditionResult) (state : RunState) (isCast : node.nodeType.isCast) :
    retry (tryNode engine node predResults pre state) node.attempts =
      (retry (castNode engine node) node.attempts).map fun base => (state, some base) := by
  rw [← retry_map]
  congr 1
  funext attempt
  cases type : node.nodeType <;> simp [type, NodeType.isCast] at isCast <;> simp [tryNode, type]

def flowOf (state : RunState) (visit : Visit) : ForInStep RunState :=
  if visit.fails then .done (recordVisit state visit) else .yield (recordVisit state visit)

def bodyOf (state : RunState) (node : CastNode) : Except PyError Outcome → Except PyError (ForInStep RunState)
  | .error raised => .error raised
  | .ok outcome => .ok (flowOf state ⟨node, outcome⟩)

theorem cast_body (engine : Engine) (program : SemanticProgram) (predecessors : Predecessors) (branchId : String)
    (state : RunState) (node : CastNode) (pre : List ConditionResult)
    (found : program.node? node.nodeId = some node) (isCast : node.nodeType.isCast)
    (free : node.nodeId ∉ state.blocked)
    (evaluated : evalConditions (preContext ((predecessors node.nodeId).filterMap state.resultsByNode))
      node.preconditions = .ok pre)
    (passed : pre.all ConditionResult.ok) :
    processNode engine program predecessors branchId state node.nodeId =
      bodyOf state node (castOutcome engine branchId node
        ((predecessors node.nodeId).filterMap state.resultsByNode) pre) := by
  have plain : ¬ (node.nodeType = .gate ∨ node.nodeType = .merge) := by
    rintro (type | type) <;> simp [type, NodeType.isCast] at isCast
  simp only [processNode, if_neg free, found, evaluated, passed, if_true, if_neg plain,
    cast_step engine node _ pre state isCast, Attempts.map, castOutcome]
  cases (retry (castNode engine node) node.attempts).value with
  | none => rfl
  | some base =>
      simp only [Option.map_some, Option.bind_some, Option.getD_some]
      cases evalConditions (postContext (withParent base
        ((predecessors node.nodeId).filterMap state.resultsByNode) branchId)) node.postconditions with
      | error raised => rfl
      | ok post => rfl

theorem process_node_eq (engine : Engine) (program : SemanticProgram) (predecessors : Predecessors)
    (branchId : String) (state : RunState) (node : CastNode) (found : program.node? node.nodeId = some node) :
    processNode engine program predecessors branchId state node.nodeId =
      bodyOf state node (observe engine branchId node (decide (node.nodeId ∈ state.blocked))
        ((predecessors node.nodeId).filterMap state.resultsByNode)) := by
  by_cases isBlocked : node.nodeId ∈ state.blocked
  · simp [processNode, observe, isBlocked, bodyOf, flowOf, Visit.fails, Outcome.fails, recordVisit]
  · simp only [observe, isBlocked, decide_false, Bool.false_eq_true, if_false]
    cases evaluated : evalConditions (preContext ((predecessors node.nodeId).filterMap state.resultsByNode))
        node.preconditions with
    | error raised => simp only [processNode, if_neg isBlocked, found, evaluated, bodyOf]
    | ok pre =>
        cases passed : pre.all ConditionResult.ok with
        | false =>
            simp only [processNode, if_neg isBlocked, found, evaluated, passed, Bool.false_eq_true, if_false]
            rfl
        | true =>
            simp only [passed, if_true]
            cases type : node.nodeType with
            | gate =>
                simp only [processNode, if_neg isBlocked, found, evaluated, passed, if_true, type, true_or,
                  gate_step engine node _ pre state type, Option.map_some, Option.getD_some]
                rfl
            | merge =>
                simp only [processNode, if_neg isBlocked, found, evaluated, passed, if_true, type, or_true,
                  merge_step engine node _ pre state type, Option.map_some, Option.getD_some, mergeNode]
                cases mergeResult node ((predecessors node.nodeId).filterMap state.resultsByNode) with
                | none => rfl
                | some merged => rfl
            | cast | fluidCast | autoCast =>
                exact cast_body engine program predecessors branchId state node pre found
                  (by simp [type, NodeType.isCast]) isBlocked evaluated passed

theorem visit_body (engine : Engine) (program : SemanticProgram) (predecessors : Predecessors)
    (branchId : String) (state : RunState) (nodeId : String) (known : nodeId ∈ program.nodeIds) :
    processNode engine program predecessors branchId state nodeId =
      recording (visitNode engine program predecessors branchId) Visit.fails recordVisit state nodeId := by
  obtain ⟨node, _, same, found⟩ := node_lookup_known program nodeId known
  subst same
  rw [process_node_eq engine program predecessors branchId state node found]
  simp only [recording, visitNode, found]
  cases observe engine branchId node (decide (node.nodeId ∈ state.blocked))
      ((predecessors node.nodeId).filterMap state.resultsByNode) with
  | error raised => rfl
  | ok outcome =>
      simp only [bodyOf, flowOf, Except.map]
      split <;> rfl

end Vermyth
