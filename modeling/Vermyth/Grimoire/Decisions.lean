import Vermyth.Engine.Policy
import Vermyth.Foundation.Table

set_option autoImplicit false

namespace Vermyth

-- The columns of policy_decisions. A JSON column and a time are held as what
-- their text is of.
structure DecisionRow where
  decisionId : String
  action : String
  castId : String
  parentCastId : Option String
  divergenceStatus : Option String
  narrativeCoherence : Option ℚ
  thresholdsJson : PolicyThresholds
  rationale : String
  suggestedIntentJson : Option Intent
  policyModelName : String
  policyModelVersion : Option String
  createdAt : Datetime

def PolicyDecision.row (decision : PolicyDecision) : DecisionRow where
  decisionId := decision.decisionId
  action := decision.action.value
  castId := decision.castId
  parentCastId := decision.parentCastId
  divergenceStatus := decision.divergenceStatus.map DivergenceStatus.value
  narrativeCoherence := decision.narrativeCoherence
  thresholdsJson := decision.thresholds
  rationale := decision.rationale
  suggestedIntentJson := decision.suggestedIntent
  policyModelName := decision.modelName
  policyModelVersion := decision.modelVersion
  createdAt := decision.timestamp

def PolicyAction.ofValue (text : String) : Except PyError PolicyAction :=
  match [PolicyAction.allow, .reshape, .deny].find? fun action => action.value = text with
  | some action => .ok action
  | none => .error (.valueError ("'" ++ text ++ "' is not a valid PolicyAction"))

def DivergenceStatus.ofValue (text : String) : Except PyError DivergenceStatus :=
  match [DivergenceStatus.stable, .drifting, .diverged].find? fun status => status.value = text with
  | some status => .ok status
  | none => .error (.valueError ("'" ++ text ++ "' is not a valid DivergenceStatus"))

def DecisionRow.decision (row : DecisionRow) : Except PyError PolicyDecision := do
  let action ← PolicyAction.ofValue row.action
  let status ← row.divergenceStatus.mapM DivergenceStatus.ofValue
  if range : ∀ coherence ∈ row.narrativeCoherence, InUnit coherence then
    return {
      decisionId := row.decisionId
      action := action
      rationale := row.rationale
      castId := row.castId
      suggestedIntent := row.suggestedIntentJson
      parentCastId := row.parentCastId
      divergenceStatus := status
      narrativeCoherence := row.narrativeCoherence
      thresholds := row.thresholdsJson
      modelName := row.policyModelName
      modelVersion := row.policyModelVersion
      timestamp := row.createdAt
      coherenceInRange := range }
  else .error (invalid "PolicyDecision" "narrative_coherence")

def PolicyDecision.bare (decision : PolicyDecision) : PolicyDecision :=
  { decision with scores := [], explanation := none }

theorem action_of_value (action : PolicyAction) : PolicyAction.ofValue action.value = .ok action := by
  cases action <;> rfl

theorem status_of_value (status : DivergenceStatus) : DivergenceStatus.ofValue status.value = .ok status := by
  cases status <;> rfl

theorem row_decision (decision : PolicyDecision) : decision.row.decision = .ok decision.bare := by
  have status : (decision.divergenceStatus.map DivergenceStatus.value).mapM DivergenceStatus.ofValue =
      Except.ok decision.divergenceStatus := by
    cases decision.divergenceStatus with
    | none => rfl
    | some status =>
        rw [Option.map_some, Option.mapM_some, status_of_value]
        rfl
  unfold DecisionRow.decision PolicyDecision.row
  simp only [action_of_value, status, bind, Except.bind]
  rw [dif_pos decision.coherenceInRange]
  rfl

theorem row_decision_bare (row : DecisionRow) (decision : PolicyDecision) (read : row.decision = .ok decision) :
    decision.scores = [] ∧ decision.explanation = none := by
  obtain ⟨_, -, read⟩ := (bind_ok _ _ _).mp read
  obtain ⟨_, -, read⟩ := (bind_ok _ _ _).mp read
  by_cases range : ∀ coherence ∈ row.narrativeCoherence, InUnit coherence
  · rw [dif_pos range] at read
    cases read
    exact ⟨rfl, rfl⟩
  · rw [dif_neg range] at read
    contradiction

end Vermyth
