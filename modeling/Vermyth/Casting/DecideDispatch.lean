import Vermyth.Casting.ConcurrentTools
import Vermyth.Schema.PolicyDocuments
import Vermyth.Session.Tools

set_option autoImplicit false

namespace Vermyth

-- What decide rests on beside its process: pydantic, str(), float(), and the
-- thresholds files of the server, as json.loads reads the one at a path.
structure DecideEnv where
  coerce : Coercions
  pyStr : Json → String
  pyFloat : Json → Except PyError ℚ
  readThresholdsFile : Json → Except PyError Json

-- The arguments that engine.decide is given, with the policy model that was put
-- in for the call.
structure EngineCall where
  intent : Intent
  aspects : Option AspectSet
  vector : Option SemanticVector
  parentCastId : Json
  causalRootCastId : Json
  thresholds : Option PolicyThresholds
  effects : List Effect
  policyModel : Option PolicyModel

def resolveIntent (arguments : List (String × Json)) : Json :=
  match arguments.lookup "intent" with
  | some (.obj intent) => .obj intent
  | _ =>
      .obj [("objective", payloadGet arguments "objective" (.str "")), ("scope", payloadGet arguments "scope" (.str "")),
        ("reversibility", payloadGet arguments "reversibility" (.str "PARTIAL")),
        ("side_effect_tolerance", payloadGet arguments "side_effect_tolerance" (.str "MEDIUM"))]

def missingRoot : PyError :=
  .valueError "divination gate: causal_root_cast_id required when ritual/bundle requires causal context"

-- f(value), where the value is not None.
def given {α : Type} (read : Json → Except PyError α) : Json → Except PyError (Option α)
  | .null => .ok none
  | value => (read value).map some

section Dispatch

variable (env : DecideEnv) (process : CastProcess)

def decideAspect (name : Json) : Except PyError Aspect :=
  match name with
  | .str _ => requestAspect process.env.registry name
  | .arr _ => .error (.typeError "unhashable type: 'list'")
  | .obj _ => .error (.typeError "unhashable type: 'dict'")
  | other => .error (.valueError ("Unknown aspect: " ++ env.pyStr other))

def decideAspects (value : Json) : Except PyError AspectSet := do
  let resolved ← (← iterate value).mapM (decideAspect env process)
  return .build process.env.order (resolved.map Aspect.name)

def decideVector (value : Json) : Except PyError SemanticVector := do
  SemanticVector.make (← (← iterate value).mapM env.pyFloat) none

def decideEffects (value : Json) : Except PyError (List Effect) := do
  (← iterate value).mapM (Effect.modelValidate env.coerce)

-- ThresholdTunedPolicyModel(thresholds_path=path)
def thresholdTuned (path : Json) : Except PyError PolicyModel := do
  let thresholdsOverride ← given (fun path => do
    let payload ← env.readThresholdsFile path
    match payload with
    | .obj fields => PolicyThresholds.modelValidate env.coerce (payloadGet fields "thresholds" payload)
    | other => .error (.attributeError ("'" ++ other.typeName ++ "' object has no attribute 'get'"))) path
  return { name := "threshold_tuned", thresholdsOverride }

def selectModel (tunedThresholdsPath policyModel : Json) : Except PyError PolicyModel :=
  match env.pyStr policyModel with
  | "rule_based" => .ok {}
  | "threshold_tuned" => thresholdTuned env tunedThresholdsPath
  | other => .error (.valueError ("Unknown policy model: " ++ other))

-- dispatch_decide and tool_decide, up to engine.decide.
def decideCall (arguments : List (String × Json)) : Except PyError EngineCall :=
  let argument := fun name => payloadGet arguments name .null
  if (argument "__require_causal_root__").truthy ∧ ¬ (argument "causal_root_cast_id").truthy then .error missingRoot
  else do
    let intent ← BoundedIntent.modelValidate (resolveIntent arguments)
    let aspects ← given (decideAspects env process) (argument "aspects")
    let vector ← given (decideVector env) (argument "vector")
    let thresholds ← given (PolicyThresholds.modelValidate env.coerce) (argument "thresholds")
    let effects ← given (decideEffects env) (argument "effects")
    let policyModel ← given (selectModel env (argument "tuned_thresholds_path")) (argument "policy_model")
    return { intent := intent.toIntent, aspects, vector, parentCastId := argument "parent_cast_id"
             causalRootCastId := argument "causal_root_cast_id", thresholds, effects := effects.getD [], policyModel }

def EngineCall.model (call : EngineCall) : PolicyModel := call.policyModel.getD process.policyModel

def EngineCall.given (call : EngineCall) : PolicyThresholds := call.thresholds.getD {}

-- str(value), where the value is not None.
def castIdOf : Json → Option String
  | .null => none
  | value => some (env.pyStr value)

-- An id that a model of pydantic takes: a text or None.
def idField (model field : String) : Json → Except PyError (Option String)
  | .null => .ok none
  | .str castId => .ok (some castId)
  | _ => .error (invalid model field)

def EngineCall.arguments (call : EngineCall) : CastProcess.DecideArguments where
  intent := .ok call.intent
  parentCastId := castIdOf env call.parentCastId
  causalRootCastId := castIdOf env call.causalRootCastId

def EngineCall.request (call : EngineCall) : CastProcess.DecideRequest where
  intent := call.intent
  aspects := call.aspects
  vector := call.vector
  settings := { thresholds := call.given, effects := call.effects, policyModel := call.policyModel }

-- engine.decide
def engineDecide (call : EngineCall) (draws : CallDraws) : Except PyError (PolicyDecision × CastRecord) := do
  let made ← process.judge (call.model process) (call.arguments env) call.request draws
  let _ ← idField "PolicyDecision" "parent_cast_id" call.parentCastId
  let _ ← idField "CastProvenance" "causal_root_cast_id" call.causalRootCastId
  return made

def dispatchDecide (arguments : List (String × Json)) (draws : CallDraws) : CallOutcome (PolicyDecision × CastRecord) :=
  match decideCall env process arguments >>= fun call => engineDecide env process call draws with
  | .error raised => (.error raised, process)
  | .ok made =>
      let kept := process.keepDecision made.1 made.2
      (kept.1.map fun _ => made, kept.2)

-- A call with the arguments of another one, where pydantic has read them.
def EngineCall.of (arguments : CastProcess.DecideArguments) (request : CastProcess.DecideRequest) : EngineCall where
  intent := request.intent
  aspects := request.aspects
  vector := request.vector
  parentCastId := orNull .str arguments.parentCastId
  causalRootCastId := orNull .str arguments.causalRootCastId
  thresholds := some request.settings.thresholds
  effects := request.settings.effects
  policyModel := request.settings.policyModel

theorem cast_id_of_text (texts : ∀ text, env.pyStr (.str text) = text) (castId : Option String) :
    castIdOf env (orNull .str castId) = castId := by
  cases castId with
  | none => rfl
  | some own => exact congrArg some (texts own)

theorem id_field_text (model field : String) (castId : Option String) :
    idField model field (orNull .str castId) = .ok castId := by
  cases castId <;> rfl

theorem engine_decide_of (texts : ∀ text, env.pyStr (.str text) = text) (arguments : CastProcess.DecideArguments)
    (request : CastProcess.DecideRequest) (asked : process.decideRequest arguments = .ok request) (draws : CallDraws) :
    engineDecide env process (.of arguments request) draws = process.beginDecide arguments draws := by
  have parent : castIdOf env (EngineCall.of arguments request).parentCastId = arguments.parentCastId :=
    cast_id_of_text env texts _
  have root : castIdOf env (EngineCall.of arguments request).causalRootCastId = arguments.causalRootCastId :=
    cast_id_of_text env texts _
  have judges : process.judge ((EngineCall.of arguments request).model process)
      ((EngineCall.of arguments request).arguments env) (EngineCall.of arguments request).request draws =
      process.judge (request.settings.policyModel.getD process.policyModel) arguments request draws := by
    simp only [CastProcess.judge, CastProcess.decideStatus, CastProcess.narrativeOf, EngineCall.arguments, parent, root]
    rfl
  rw [engineDecide, judges, CastProcess.beginDecide, asked]
  change (process.judge _ arguments request draws >>= fun made =>
    idField _ _ (orNull .str arguments.parentCastId) >>= fun _ =>
      idField _ _ (orNull .str arguments.causalRootCastId) >>= fun _ => pure made) =
        process.judge (request.settings.policyModel.getD process.policyModel) arguments request draws
  simp only [id_field_text]
  cases process.judge (request.settings.policyModel.getD process.policyModel) arguments request draws <;> rfl

end Dispatch

end Vermyth
