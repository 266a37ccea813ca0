import Vermyth.Adapters.DivinationGate
import Vermyth.Engine.DecisionReplay

set_option autoImplicit false

namespace Vermyth

def ruledUnder (thresholds : PolicyThresholds) (verdict : Verdict) (decision : PolicyDecision) : PolicyAction :=
  replayed verdict { decision with thresholds := thresholds }

def judged (call : EngineCall) (decision : PolicyDecision) (result : CastRecord) : DecisionInput where
  verdict := result.verdict.verdict
  divergenceStatus := decision.divergenceStatus
  narrativeCoherence := decision.narrativeCoherence
  effects := call.effects
  coherenceInRange := decision.coherenceInRange

def BoundBy (own active : PolicyThresholds) (input : DecisionInput) : Prop :=
  DeniedOutright input ∨
    EffectGated (own.scored .effectRisk) (Scorer.value input .effectRisk) active.effectRiskMinScore ∨
    (¬ Gated own input ∧ (input.verdict.verdictType = .coherent → Lets active input (aggregateOf own input) →
      Lets own input (aggregateOf own input)))

theorem bound_by_itself (own : PolicyThresholds) (input : DecisionInput) : BoundBy own own input := by
  by_cases gated : Gated own input
  · exact Or.inr (Or.inl gated)
  · exact Or.inr (Or.inr ⟨gated, fun _ lets => lets⟩)

theorem action_bound_iff (model : PolicyModel) (own active : PolicyThresholds) (input : DecisionInput)
    (tuned : model.active own = active) :
    model.action own input ≤ PolicyModel.action {} own input ↔ BoundBy own active input := by
  rw [action_le_iff, rule_based_action, PolicyModel.action, tuned, BoundBy]
  by_cases outright : DeniedOutright input
  · rw [ruleAction, if_pos outright, ruleAction, if_pos outright, ite_self, ite_self]
    exact ⟨fun _ => Or.inl outright, fun _ => ⟨id, id⟩⟩
  rw [or_iff_right outright]
  by_cases shut : EffectGated (own.scored .effectRisk) (Scorer.value input .effectRisk) active.effectRiskMinScore
  · rw [if_pos shut]
    exact ⟨fun _ => Or.inl shut, fun _ => ⟨fun allowed => by contradiction, fun _ => rfl⟩⟩
  rw [if_neg shut, or_iff_right shut]
  have open_ := rule_action_spared input (aggregateOf own input) active outright
  by_cases gated : Gated own input
  · rw [if_pos gated]
    exact ⟨fun ordered => absurd (ordered.2 rfl) open_, fun bound => absurd gated bound.1⟩
  rw [if_neg gated, rule_action_eq input _ active outright, rule_action_eq input _ own outright]
  have spared := rule_action_spared input (aggregateOf own input) own outright
  constructor
  · rintro ⟨allows, -⟩
    exact ⟨gated, fun coherent lets => (allows ⟨coherent, lets⟩).2⟩
  · rintro ⟨-, allows⟩
    refine ⟨?_, fun denied => absurd denied spared⟩
    rintro ⟨coherent, lets⟩
    exact ⟨coherent, allows coherent lets⟩

theorem expanded_thresholds {ω : Type} (gateway : GatewayEnv ω) (tools : DecideEnv) (process : CastProcess)
    (manifest : SemanticBundleManifest) (params : List (String × Json)) (own : PolicyThresholds)
    (explicit : bundleThresholds gateway tools manifest params = .ok (some own)) (skillId tool : String)
    (inp ref merged : List (String × Json)) (provenance : Option (List (String × Json))) (call : EngineCall)
    (extracted : extractSemanticBundleRef inp = some ref) (names : BundleOf gateway ref manifest params)
    (expanded : expandTaskInput gateway skillId inp = .ok (tool, merged, provenance))
    (reached : decideCall tools process merged = .ok call) : call.thresholds = some own := by
  have named := bundle_of_named gateway ref manifest params names
  obtain ⟨inv, compiled, same⟩ := (expand_bundle gateway skillId inp ref extracted named _).mp expanded
  obtain ⟨rfl, rfl, -⟩ : tool = inv.skillId ∧ merged = dictMerge (stripBundleKeys inp) inv.input ∧ _ = _ := by
    simpa using same
  have compiles := compile_ref_bundle gateway ref manifest params inv names compiled
  obtain ⟨-, validated⟩ := call_gated tools process _ call reached
  obtain ⟨other, again, set⟩ := (bind_ok _ _ _).mp explicit
  obtain rfl := Except.ok.inj (again.symm.trans compiles)
  cases held : (dictOf other.input).lookup "thresholds" with
  | none =>
      rw [held] at set
      have unset : none = some own := Except.ok.inj set
      contradiction
  | some value =>
      rw [held, Option.getD_some] at set
      rw [payloadGet, dictMerge, lookup_dict_update, held, Option.some_or, Option.getD_some, set] at validated
      exact (Except.ok.inj validated).symm

theorem engine_decided (env : DecideEnv) (process : CastProcess) (call : EngineCall) (draws : CallDraws)
    (decision : PolicyDecision) (result : CastRecord)
    (decided : engineDecide env process call draws = .ok (decision, result)) :
    decision.thresholds = call.given ∧
      decision.action = (call.model process).action call.given (judged call decision result) ∧
      replayed result.verdict.verdict decision =
        PolicyModel.action {} call.given (judged call decision result) := by
  obtain ⟨pair, judges, decided⟩ := (bind_ok _ _ _).mp decided
  obtain ⟨-, -, decided⟩ := (bind_ok _ _ _).mp decided
  obtain ⟨-, -, decided⟩ := (bind_ok _ _ _).mp decided
  obtain rfl := Except.ok.inj decided
  obtain ⟨cast, -, judges⟩ := (bind_ok _ _ _).mp judges
  obtain ⟨status, -, judges⟩ := (bind_ok _ _ _).mp judges
  obtain ⟨made, ruled, judges⟩ := (bind_ok _ _ _).mp judges
  obtain ⟨rfl, rfl⟩ := Prod.mk.inj (Except.ok.inj judges)
  obtain ⟨action, replay⟩ := replayed_action _ _ _ _ _ _ _ made ruled
  obtain ⟨given, -, same⟩ := (bind_ok _ _ _).mp ruled
  obtain rfl := Except.ok.inj same
  exact ⟨rfl, action, replay⟩

theorem dispatch_decided (env : DecideEnv) (process : CastProcess) (arguments : List (String × Json))
    (draws : CallDraws) (call : EngineCall) (decision : PolicyDecision) (result : CastRecord)
    (reached : decideCall env process arguments = .ok call)
    (returned : (dispatchDecide env process arguments draws).1 = .ok (decision, result)) :
    engineDecide env process call draws = .ok (decision, result) := by
  have bound : (decideCall env process arguments >>= fun call => engineDecide env process call draws) =
      engineDecide env process call draws := by
    rw [reached]
    rfl
  rw [dispatchDecide, bound] at returned
  cases decided : engineDecide env process call draws with
  | error raised =>
      rw [decided] at returned
      contradiction
  | ok made =>
      simp only [decided, Foundation.map_ok] at returned
      obtain ⟨-, -, rfl⟩ := returned
      rfl

-- The action of a bundle that sets thresholds stays within the rules under
-- them only where what is in force for the call is no looser: the caller
-- names the model, and the file whose thresholds take their place.
theorem ward_binds_iff {ω : Type} (gateway : GatewayEnv ω) (tools : DecideEnv) (process : CastProcess)
    (manifest : SemanticBundleManifest) (params : List (String × Json)) (own : PolicyThresholds)
    (explicit : bundleThresholds gateway tools manifest params = .ok (some own)) (skillId tool : String)
    (inp ref merged : List (String × Json)) (provenance : Option (List (String × Json))) (call : EngineCall)
    (draws : CallDraws) (decision : PolicyDecision) (result : CastRecord)
    (extracted : extractSemanticBundleRef inp = some ref) (names : BundleOf gateway ref manifest params)
    (expanded : expandTaskInput gateway skillId inp = .ok (tool, merged, provenance))
    (reached : decideCall tools process merged = .ok call)
    (returned : (dispatchDecide tools process merged draws).1 = .ok (decision, result)) :
    decision.action ≤ ruledUnder own result.verdict.verdict decision ↔
      BoundBy own ((call.model process).active own) (judged call decision result) := by
  have passed := expanded_thresholds gateway tools process manifest params own explicit skillId tool inp ref merged
    provenance call extracted names expanded reached
  have decided := dispatch_decided tools process merged draws call decision result reached returned
  obtain ⟨recorded, action, replay⟩ := engine_decided tools process call draws decision result decided
  have given : call.given = own := by rw [EngineCall.given, passed, Option.getD_some]
  rw [given] at recorded action replay
  have under : ruledUnder own result.verdict.verdict decision = replayed result.verdict.verdict decision := by
    rw [ruledUnder, ← recorded]
  rw [under, action, replay]
  exact action_bound_iff _ own _ _ rfl

def wardedBuild : SemanticBundleManifest where
  id := "warded_build"
  version := 1
  kind := .decide
  template := [("intent", .obj [("objective", .str "build"), ("scope", .str "all"), ("reversibility", .str "REVERSIBLE"),
      ("side_effect_tolerance", .str "LOW")]),
    ("aspects", .arr [.str "FORM"]), ("thresholds", .obj [("allow_min_resonance", .float (9 / 10))])]

def wardedEnv : GatewayEnv Unit :=
  { auditEnv with
    loadBundle := fun bundleId version =>
      if bundleId = wardedBuild.id ∧ version = 1 then .ok wardedBuild
      else .error (.valueError ("semantic bundle not found: " ++ bundleId)) }

def lenientFiles : DecideEnv :=
  { plainDecideEnv with
    readThresholdsFile := fun path =>
      if path.text? = some "/srv/lenient.json" then .ok (.obj [("allow_min_resonance", .float 0)])
      else .error (.fileNotFoundError "No such file or directory") }

def wardedRef : List (String × Json) := [("bundle_id", .str "warded_build"), ("version", .int 1)]

def wardedInput (extra : List (String × Json)) : List (String × Json) := ("semantic_bundle", .obj wardedRef) :: extra

def tunedKeys : List (String × Json) :=
  [("policy_model", .str "threshold_tuned"), ("tuned_thresholds_path", .str "/srv/lenient.json")]

theorem warded_build_of : BundleOf wardedEnv wardedRef wardedBuild [] :=
  ⟨.str "warded_build", .int 1, 1, rfl, rfl, rfl, rfl, rfl⟩

structure WardedRun where
  own : PolicyThresholds
  tool : String
  merged : List (String × Json)
  provenance : Option (List (String × Json))
  call : EngineCall
  decision : PolicyDecision
  result : CastRecord

def wardedRun (extra : List (String × Json)) : Except PyError WardedRun := do
  let own ← bundleThresholds wardedEnv lenientFiles wardedBuild []
  let (tool, merged, provenance) ← expandTaskInput wardedEnv "decide" (wardedInput extra)
  let call ← decideCall lenientFiles (newProcess {}) merged
  let (decision, result) ← (dispatchDecide lenientFiles (newProcess {}) merged (drawsNamed "warded")).1
  match own with
  | some own => return { own, tool, merged, provenance, call, decision, result }
  | none => .error (.keyError "thresholds")

structure WardedRun.Of (run : WardedRun) (extra : List (String × Json)) : Prop where
  explicit : bundleThresholds wardedEnv lenientFiles wardedBuild [] = .ok (some run.own)
  expanded : expandTaskInput wardedEnv "decide" (wardedInput extra) = .ok (run.tool, run.merged, run.provenance)
  reached : decideCall lenientFiles (newProcess {}) run.merged = .ok run.call
  returned : (dispatchDecide lenientFiles (newProcess {}) run.merged (drawsNamed "warded")).1 =
    .ok (run.decision, run.result)

theorem warded_run_of (extra : List (String × Json)) (run : WardedRun) (made : wardedRun extra = .ok run) :
    run.Of extra := by
  obtain ⟨own, explicit, made⟩ := (bind_ok _ _ _).mp made
  obtain ⟨⟨tool, merged, provenance⟩, expanded, made⟩ := (bind_ok _ _ _).mp made
  obtain ⟨call, reached, made⟩ := (bind_ok _ _ _).mp made
  obtain ⟨⟨decision, result⟩, returned, made⟩ := (bind_ok _ _ _).mp made
  cases own with
  | none => contradiction
  | some own =>
      obtain rfl := Except.ok.inj made
      exact ⟨explicit, expanded, reached, returned⟩

theorem ward_binds_plain : ∃ run : WardedRun, run.Of [] ∧ run.call.policyModel.isNone = true ∧
    run.decision.action ≤ ruledUnder run.own run.result.verdict.verdict run.decision := by
  have plain : ((wardedRun []).map fun run => run.call.policyModel.isNone) = .ok true := by decide +kernel
  obtain ⟨run, made, unset⟩ := (Foundation.map_ok _ _ _).mp plain
  have own := warded_run_of [] run made
  refine ⟨run, own, unset, ?_⟩
  refine (ward_binds_iff wardedEnv lenientFiles (newProcess {}) wardedBuild [] run.own own.explicit "decide" run.tool
    (wardedInput []) wardedRef run.merged run.provenance run.call (drawsNamed "warded") run.decision run.result rfl
    warded_build_of own.expanded own.reached own.returned).mpr ?_
  rw [EngineCall.model, Option.isNone_iff_eq_none.mp unset]
  exact bound_by_itself _ _

theorem tuned_file_loosens : ∃ run : WardedRun, run.Of tunedKeys ∧ run.decision.action = .allow ∧
    ruledUnder run.own run.result.verdict.verdict run.decision = .reshape ∧
    ¬ run.decision.action ≤ ruledUnder run.own run.result.verdict.verdict run.decision := by
  have loosened : ((wardedRun tunedKeys).map fun run =>
      (run.decision.action, ruledUnder run.own run.result.verdict.verdict run.decision)) = .ok (.allow, .reshape) := by
    decide +kernel
  obtain ⟨run, made, actions⟩ := (Foundation.map_ok _ _ _).mp loosened
  obtain ⟨action, rules⟩ := Prod.mk.inj actions
  refine ⟨run, warded_run_of tunedKeys run made, action, rules, ?_⟩
  rw [action, rules]
  decide

end Vermyth
