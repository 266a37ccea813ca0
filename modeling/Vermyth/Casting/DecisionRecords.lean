import Vermyth.Casting.BasisMismatch
import Vermyth.Engine.DecisionReplay

set_option autoImplicit false

namespace Vermyth

open Foundation

namespace CastProcess

variable (process : CastProcess)

def writePolicyDecisions (decisions : List PolicyDecision) : Except PyError CastProcess :=
  decisions.foldlM CastProcess.writePolicyDecision process

theorem write_decision_ok (decision : PolicyDecision) (written : CastProcess)
    (wrote : process.writePolicyDecision decision = .ok written) :
    written.decisions = process.decisions.put decision.row := by
  rw [writePolicyDecision] at wrote
  by_cases stored : process.casts.Has decision.castId
  · rw [if_pos stored] at wrote
    rw [← Except.ok.inj wrote]
  · rw [if_neg stored] at wrote
    contradiction

theorem find_written_decision (decision : PolicyDecision) (written : CastProcess)
    (wrote : process.writePolicyDecision decision = .ok written) :
    written.decisions.find? decision.decisionId = some decision.row := by
  rw [process.write_decision_ok decision written wrote]
  exact Table.find_row _ _ ((Table.mem_put _ _ _).mpr (Or.inr rfl))

theorem find_other_decision (decision : PolicyDecision) (written : CastProcess) (row : DecisionRow)
    (wrote : process.writePolicyDecision decision = .ok written) (different : decision.decisionId ≠ row.decisionId)
    (found : process.decisions.find? row.decisionId = some row) :
    written.decisions.find? row.decisionId = some row := by
  rw [process.write_decision_ok decision written wrote]
  refine Table.find_row _ _ ((Table.mem_put _ _ _).mpr (Or.inl ⟨?_, ?_⟩))
  · exact Table.find_mem _ _ _ found
  · exact different.symm

theorem find_after_decisions (others : List PolicyDecision) (final : CastProcess) (row : DecisionRow)
    (wrote : process.writePolicyDecisions others = .ok final)
    (different : ∀ other ∈ others, other.decisionId ≠ row.decisionId)
    (found : process.decisions.find? row.decisionId = some row) : final.decisions.find? row.decisionId = some row := by
  induction others generalizing process with
  | nil =>
      obtain rfl := Except.ok.inj wrote
      exact found
  | cons other rest ih =>
      obtain ⟨next, first, wrote⟩ := (bind_ok _ _ _).mp wrote
      refine ih next wrote (fun later member => different later (List.mem_cons_of_mem _ member)) ?_
      exact process.find_other_decision other next row first (different other List.mem_cons_self) found

theorem read_written_decision (decision : PolicyDecision) (written final : CastProcess) (others : List PolicyDecision)
    (wrote : process.writePolicyDecision decision = .ok written) (after : written.writePolicyDecisions others = .ok final)
    (different : ∀ other ∈ others, other.decisionId ≠ decision.decisionId) :
    final.readPolicyDecision decision.decisionId = .ok decision.bare := by
  have found := written.find_after_decisions others final decision.row after different
    (process.find_written_decision decision written wrote)
  rw [readPolicyDecision]
  simp only [show decision.row.decisionId = decision.decisionId from rfl] at found
  rw [found]
  exact row_decision decision

theorem read_decision_bare (decisionId : String) (decision : PolicyDecision)
    (read : process.readPolicyDecision decisionId = .ok decision) :
    decision.scores = [] ∧ decision.explanation = none := by
  rw [readPolicyDecision] at read
  cases found : process.decisions.find? decisionId with
  | none =>
      rw [found] at read
      contradiction
  | some row =>
      rw [found] at read
      exact row_decision_bare row decision read

theorem queried_decision_bare (action : Option PolicyAction) (since : Option Datetime) (limit : Int)
    (read : List PolicyDecision) (queried : process.queryPolicyDecisions action since limit = .ok read)
    (decision : PolicyDecision) (member : decision ∈ read) :
    decision.scores = [] ∧ decision.explanation = none := by
  obtain ⟨_, -, queried⟩ := (bind_ok _ _ _).mp queried
  obtain ⟨row, -, made⟩ := map_m_mem _ _ read queried decision member
  exact process.read_decision_bare row.decisionId decision made

end CastProcess

def GivesBack (process : CastProcess) (decision : PolicyDecision) : Prop :=
  process.readPolicyDecision decision.decisionId = .ok decision ∨
    ∃ action since limit read, process.queryPolicyDecisions action since limit = .ok read ∧ decision ∈ read

theorem decided_unlike_bare (model : PolicyModel) (thresholds : PolicyThresholds) (input : DecisionInput)
    (castId : String) (intent : Intent) (parentCastId : Option String) (stamp : DecisionStamp)
    (decision : PolicyDecision)
    (made : policyDecision model thresholds input castId intent parentCastId stamp = .ok decision) :
    decision.scores ≠ [] ∧ decision.explanation ≠ none := by
  obtain ⟨given, ruled, made⟩ := (bind_ok _ _ _).mp made
  cases made
  obtain ⟨scored, -, -⟩ := ruling_ok model thresholds input given ruled
  have length := (scorers_scored thresholds input given.scores scored).length_eq
  refine ⟨?_, Option.some_ne_none _⟩
  intro empty
  have none : given.scores = [] := empty
  rw [none] at length
  contradiction

theorem decided_cast (model : PolicyModel) (thresholds : PolicyThresholds) (input : DecisionInput)
    (castId : String) (intent : Intent) (parentCastId : Option String) (stamp : DecisionStamp)
    (decision : PolicyDecision)
    (made : policyDecision model thresholds input castId intent parentCastId stamp = .ok decision) :
    decision.castId = castId := by
  obtain ⟨given, -, made⟩ := (bind_ok _ _ _).mp made
  rw [← Except.ok.inj made]

theorem decision_never_lossless (model : PolicyModel) (thresholds : PolicyThresholds) (input : DecisionInput)
    (castId : String) (intent : Intent) (parentCastId : Option String) (stamp : DecisionStamp)
    (decision : PolicyDecision)
    (made : policyDecision model thresholds input castId intent parentCastId stamp = .ok decision)
    (process written final : CastProcess) (others : List PolicyDecision)
    (wrote : process.writePolicyDecision decision = .ok written)
    (after : written.writePolicyDecisions others = .ok final) :
    ¬ GivesBack final decision ∧ ((∀ other ∈ others, other.decisionId ≠ decision.decisionId) →
      final.readPolicyDecision decision.decisionId = .ok decision.bare) := by
  have unlike := decided_unlike_bare model thresholds input castId intent parentCastId stamp decision made
  constructor
  · rintro (read | ⟨action, since, limit, read, queried, member⟩)
    · exact unlike.1 (final.read_decision_bare _ _ read).1
    · exact unlike.1 (final.queried_decision_bare action since limit read queried decision member).1
  · exact process.read_written_decision decision written final others wrote after

def unprojected : IntentVector where
  vector := { components := [1, 0, 0, 0, 0, 0], atLeastSix := first_axis_six }
  projectionMethod := .partially
  constraintComponent := { components := [1, 0, 0, 0, 0, 0], atLeastSix := first_axis_six }
  semanticComponent := none
  confidence := 1 / 2

def revealed : CastRecord where
  castId := "cast"
  timestamp := sampleTime
  intent := revealing
  sigil := longSigil
  verdict :=
    { verdictType := .coherent, effectDescription := "revelation", intentVector := unprojected,
      effectFits := by decide,
      resonance :=
        { raw := 9 / 10, adjusted := 9 / 10, ceilingApplied := false, proof := "cosine",
          rawInRange := coherent_in_unit, adjustedInRange := coherent_in_unit, proofFits := by decide } }

def revealedProcess : CastProcess :=
  { newProcess {} with casts := Table.empty.append revealed (by decide) }

theorem revealed_written (decision : PolicyDecision) (same : decision.castId = "cast") :
    ∃ written, revealedProcess.writePolicyDecision decision = .ok written := by
  refine ⟨_, if_pos ?_⟩
  rw [same]
  decide

theorem first_decision_bare : ∃ decision written,
    policyDecision {} {} coherentInput "cast" revealing none firstStamp = .ok decision ∧
      revealedProcess.writePolicyDecision decision = .ok written ∧ ¬ GivesBack written decision := by
  obtain ⟨decision, made, -⟩ := decision_made {} {} coherentInput (by decide +kernel)
  obtain ⟨written, wrote⟩ := revealed_written decision (decided_cast _ _ _ _ _ _ _ _ made)
  exact ⟨decision, written, made, wrote, (decision_never_lossless {} {} coherentInput "cast" revealing none firstStamp
    decision made revealedProcess written written [] wrote rfl).1⟩

-- The cast was scored and explained, and neither comes back.
theorem scores_unread : ∃ decision written,
    policyDecision {} {} coherentInput "cast" revealing none firstStamp = .ok decision ∧
      revealedProcess.writePolicyDecision decision = .ok written ∧ decision.scores ≠ [] ∧ decision.explanation ≠ none ∧
        ∃ read, written.readPolicyDecision decision.decisionId = .ok read ∧ read.scores = [] ∧
          read.explanation = none := by
  obtain ⟨decision, made, -⟩ := decision_made {} {} coherentInput (by decide +kernel)
  obtain ⟨written, wrote⟩ := revealed_written decision (decided_cast _ _ _ _ _ _ _ _ made)
  obtain ⟨scores, explanation⟩ := decided_unlike_bare _ _ _ _ _ _ _ _ made
  refine ⟨decision, written, made, wrote, scores, explanation, decision.bare, ?_, rfl, rfl⟩
  exact revealedProcess.read_written_decision decision written written [] wrote rfl (fun _ none => by contradiction)

end Vermyth
