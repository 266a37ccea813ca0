import Vermyth.Adapters.Security
import Vermyth.Protocol.JsonText
import Vermyth.Session.Tools

set_option autoImplicit false

namespace Vermyth

inductive GlobItem where
  | star
  | any
  | literal (c : Char)
  | set (negated : Bool) (ranges : List (Char × Char))

def GlobItem.holds : GlobItem → Char → Bool
  | .star, _ => false
  | .any, _ => true
  | .literal own, c => own == c
  | .set negated ranges, c => (ranges.any fun range => range.1 ≤ c && c ≤ range.2) != negated

def globRanges : List Char → List (Char × Char)
  | low :: '-' :: high :: rest => (low, high) :: globRanges rest
  | c :: rest => (c, c) :: globRanges rest
  | [] => []

-- What stands between [ and ], where a ] that comes first is one of the set.
def globSet (chars : List Char) : Option (GlobItem × List Char) :=
  let negated := chars.head? = some '!'
  let chars := if negated then chars.tail else chars
  let own := if chars.head? = some ']' then [']'] else []
  let chars := chars.drop own.length
  match chars.dropWhile (· ≠ ']') with
  | [] => none
  | _ :: rest => some (.set negated (globRanges (own ++ chars.takeWhile (· ≠ ']'))), rest)

def globItems : Nat → List Char → List GlobItem
  | 0, _ => []
  | _ + 1, [] => []
  | fuel + 1, '*' :: rest => .star :: globItems fuel rest
  | fuel + 1, '?' :: rest => .any :: globItems fuel rest
  | fuel + 1, '[' :: rest =>
      match globSet rest with
      | none => .literal '[' :: globItems fuel rest
      | some (item, rest) => item :: globItems fuel rest
  | fuel + 1, c :: rest => .literal c :: globItems fuel rest

def globMatch : List GlobItem → List Char → Bool
  | [], chars => chars.isEmpty
  | .star :: rest, chars => chars.tails.any (globMatch rest)
  | item :: rest, chars =>
      match chars with
      | [] => false
      | c :: chars => item.holds c && globMatch rest chars

-- fnmatch.fnmatch(name, pat), where file names keep their case.
def fnmatch (name pat : String) : Bool := globMatch (globItems (pat.length + 1) pat.toList) name.toList

example : fnmatch "query_seeds" "query*" = true ∧ fnmatch "cast" "[a-b]ast" = false ∧
    fnmatch "cast" "[!x]?s*" = true := by
  decide

inductive BundleKind where
  | decide
  | cast
  | compileProgram
deriving DecidableEq, Repr

def BundleKind.skillId : BundleKind → String
  | .decide => "decide"
  | .cast => "cast"
  | .compileProgram => "compile_program"

structure SemanticBundleManifest where
  id : String
  version : Nat
  kind : BundleKind
  template : List (String × Json)
  paramKeys : List String := []

structure CompiledInvocation where
  skillId : String
  input : List (String × Json)
  arcaneProvenance : List (String × Json)

-- What a task's expansion and dispatch rest on outside the adapters: the
-- bundle files, str() and str.format, the thresholds of a ward laid over
-- others, the tools and the scope they were built with.
structure GatewayEnv (ω : Type) extends SecurityEnv where
  loadBundle (bundleId : String) (version : Int) : Except PyError SemanticBundleManifest
  pyStr : Json → String
  formatText (text : String) (params : List (String × Json)) : Except PyError String
  mergeWard (thresholds ward : Json) : Except PyError Json
  toolDispatch : List (String × Handler ω)
  allowedToolScope : Option (List String) := some ["*"]
  freshUlid : ω → String × ω

variable {ω : Type}

def semanticBundleExtension : String := "vermyth.io/v1/semantic_bundle"

def extractSemanticBundleRef (inp : List (String × Json)) : Option (List (String × Json)) :=
  match inp.lookup "semantic_bundle" with
  | some (.obj ref) => some ref
  | some _ => none
  | none =>
      match inp.lookup "extensions" with
      | some (.obj ext) =>
          match ext.lookup semanticBundleExtension with
          | some (.obj ref) => some ref
          | _ => none
      | _ => none

def stripBundleKeys (inp : List (String × Json)) : List (String × Json) :=
  let out := dictPop "semantic_bundle" inp
  match out.lookup "extensions" with
  | some (.obj ext) =>
      if (ext.lookup semanticBundleExtension).isSome then
        let ext := dictPop semanticBundleExtension ext
        if ext.isEmpty then dictPop "extensions" out else dictSet out ("extensions", .obj ext)
      else out
  | _ => out

-- {**base, **other}
def dictMerge (base other : List (String × Json)) : List (String × Json) := other.foldl dictSet base

-- A text whose format misses a parameter stays as it is.
mutual

def formatTemplate (env : GatewayEnv ω) (params : List (String × Json)) : Json → Except PyError Json
  | .str text =>
      match env.formatText text params with
      | .ok formatted => .ok (.str formatted)
      | .error (.keyError _) => .ok (.str text)
      | .error raised => .error raised
  | .obj fields => do return .obj (← formatFields env params fields)
  | .arr items => do return .arr (← formatItems env params items)
  | other => .ok other

def formatItems (env : GatewayEnv ω) (params : List (String × Json)) : List Json → Except PyError (List Json)
  | [] => .ok []
  | item :: rest => do
      let item ← formatTemplate env params item
      return item :: (← formatItems env params rest)

def formatFields (env : GatewayEnv ω) (params : List (String × Json)) :
    List (String × Json) → Except PyError (List (String × Json))
  | [] => .ok []
  | (key, value) :: rest => do
      let value ← formatTemplate env params value
      return (key, value) :: (← formatFields env params rest)

end

def applyDivination (env : GatewayEnv ω) (body : List (String × Json)) : Except PyError (List (String × Json)) :=
  let inp := dictPop "_divination" body
  match body.lookup "_divination" with
  | some (.obj div) =>
      let inp := if (payloadGet div "require_causal_context" .null).truthy then
          dictSet inp ("__require_causal_root__", .bool true)
        else inp
      let ward := payloadGet div "thresholds" .null
      if ward.truthy then do
        let thresholds := payloadGet inp "thresholds" .null
        let merged ← env.mergeWard (if thresholds.truthy then thresholds else .obj []) ward
        return dictSet inp ("thresholds", merged)
      else .ok inp
  | _ => .ok inp

def compileManifest (env : GatewayEnv ω) (manifest : SemanticBundleManifest) (params : List (String × Json)) :
    Except PyError CompiledInvocation := do
  let body ← formatFields env params manifest.template
  let inp ← match manifest.kind with
    | .decide => applyDivination env body
    | .cast => .ok body
    | .compileProgram => .ok body
  return { skillId := manifest.kind.skillId, input := inp,
           arcaneProvenance := [("bundle_id", .str manifest.id), ("bundle_version", .int manifest.version),
             ("kind", .str manifest.kind.skillId)] }

-- dict(value or {}): a list has to be one of pairs.
def dictPair : Json → Except PyError (String × Json)
  | .arr [.str key, value] => .ok (key, value)
  | .str text =>
      match text.toList with
      | [key, value] => .ok (String.singleton key, .str (String.singleton value))
      | _ => .error (.valueError "dictionary update sequence element has the wrong length; 2 is required")
  | _ => .error (.typeError "cannot convert dictionary update sequence element to a sequence")

def pyDict (value : Json) : Except PyError (List (String × Json)) :=
  if !value.truthy then .ok []
  else
    match value with
    | .obj fields => .ok fields
    | .arr items => do return dictOf (← items.mapM dictPair)
    | .str _ => .error (.valueError "dictionary update sequence element #0 has length 1; 2 is required")
    | other => .error (.typeError ("'" ++ other.typeName ++ "' object is not iterable"))

def compileSemanticBundleRef (env : GatewayEnv ω) (bundleRef : List (String × Json)) :
    Except PyError CompiledInvocation := do
  let bundleId ← match bundleRef.lookup "bundle_id" with
    | some value => .ok (env.pyStr value)
    | none => .error (.keyError "bundle_id")
  let version ← match bundleRef.lookup "version" with
    | some value => pyInt value
    | none => .error (.keyError "version")
  let params ← pyDict (payloadGet bundleRef "params" .null)
  let manifest ← env.loadBundle bundleId version
  let missing := manifest.paramKeys.filter fun key => (params.lookup key).isNone
  if !missing.isEmpty then
    .error (.valueError ("bundle " ++ bundleId ++ " missing params: " ++ toString missing))
  compileManifest env manifest params

-- Bundle telemetry is left out.
def expandTaskInput (env : GatewayEnv ω) (skillId : String) (inp : List (String × Json)) :
    Except PyError (String × List (String × Json) × Option (List (String × Json))) :=
  match extractSemanticBundleRef inp with
  | none | some [] => .ok (skillId, inp, none)
  | some ref => do
      let inv ← compileSemanticBundleRef env ref
      return (inv.skillId, dictMerge (stripBundleKeys inp) inv.input, some inv.arcaneProvenance)

def presentedToken (env : SecurityEnv) (inp : List (String × Json)) : Except PyError CapabilityToken :=
  match inp.lookup "capability_token" with
  | some (.obj tokenPayload) => verifyCapabilityToken env tokenPayload
  | _ => .error (.valueError "missing_capability_token")

-- What both entry points ask of a token: the gateway for the task as it was
-- sent, the executor for the task as it was expanded.
def authorize (env : SecurityEnv) (skillId : String) (inp : List (String × Json)) : Except PyError CapabilityToken := do
  let token ← presentedToken env inp
  if fnmatch skillId token.toolScope then .ok token else .error (.valueError "capability_scope_denied")

inductive PartType where
  | text
  | data
  | artifact
deriving DecidableEq, Repr

inductive MessageRole where
  | user
  | assistant
  | system
deriving DecidableEq, Repr

structure Part where
  partType : PartType := .data
  content : Json

structure Message where
  role : MessageRole := .user
  parts : List Part := []

structure Task where
  taskId : String
  skillId : String
  input : List (String × Json) := []
  messages : List Message := []

def allowedFields (model : String) (known : List String) : Json → Except PyError (List (String × Json))
  | .obj fields =>
      if fields.all fun field => field.1 ∈ known then .ok fields else .error (invalid model "extra")
  | _ => .error (invalid model "")

def listField (fields : List (String × Json)) (model field : String) : Except PyError (List Json) :=
  match fields.lookup field with
  | none => .ok []
  | some (.arr items) => .ok items
  | some _ => .error (invalid model field)

def Part.modelValidate (payload : Json) : Except PyError Part := do
  let fields ← allowedFields "Part" ["part_type", "content"] payload
  let partType ← match fields.lookup "part_type" with
    | none => .ok PartType.data
    | some (.str "text") => .ok PartType.text
    | some (.str "data") => .ok PartType.data
    | some (.str "artifact") => .ok PartType.artifact
    | some _ => .error (invalid "Part" "part_type")
  match fields.lookup "content" with
  | some content => .ok { partType := partType, content := content }
  | none => .error (invalid "Part" "content")

def Message.modelValidate (payload : Json) : Except PyError Message := do
  let fields ← allowedFields "Message" ["role", "parts"] payload
  let role ← match fields.lookup "role" with
    | none => .ok MessageRole.user
    | some (.str "user") => .ok MessageRole.user
    | some (.str "assistant") => .ok MessageRole.assistant
    | some (.str "system") => .ok MessageRole.system
    | some _ => .error (invalid "Message" "role")
  let parts ← (← listField fields "Message" "parts").mapM Part.modelValidate
  return { role := role, parts := parts }

-- Task.model_validate, with the id a task without one draws.
def Task.modelValidate (drawn : String) (payload : Json) : Except PyError Task := do
  let fields ← allowedFields "Task" ["task_id", "skill_id", "input", "messages"] payload
  let taskId ← match fields.lookup "task_id" with
    | none => .ok drawn
    | some _ => textField fields "Task" "task_id"
  let skillId ← textField fields "Task" "skill_id"
  let input ← match fields.lookup "input" with
    | none => .ok []
    | some (.obj input) => .ok input
    | some _ => .error (invalid "Task" "input")
  let messages ← (← listField fields "Task" "messages").mapM Message.modelValidate
  return { taskId := taskId, skillId := skillId, input := input, messages := messages }

inductive TaskStatus where
  | queued
  | running
  | completed
  | failed
deriving DecidableEq, Repr

structure Artifact where
  artifactId : String
  mimeType : String := "application/json"
  content : Json

structure TaskResult where
  taskId : String
  status : TaskStatus
  artifact : Option Artifact := none
  error : Option String := none
  updatedAt : Datetime

structure GatewayState (ω : Type) where
  world : ω
  idempotencyStore : Option (List (String × TaskResult))
  dispatched : List (String × List (String × Json)) := []

def failedTask (env : GatewayEnv ω) (task : Task) (error : String) : TaskResult where
  taskId := task.taskId
  status := .failed
  error := some error
  updatedAt := env.now

-- f"{idempotency_key}:{json.dumps(payload, sort_keys=True)}", where there is a
-- store and a key.
def compositeKey (env : GatewayEnv ω) (idempotencyKey : Option String) (payload : Json) (state : GatewayState ω) :
    Option String :=
  match state.idempotencyStore, idempotencyKey.filter (· ≠ "") with
  | some _, some key =>
      some (key ++ ":" ++ String.ofList (dumps .default env.platform.floatRepr payload.sorted))
  | _, _ => none

def storedResult (composite : Option String) (state : GatewayState ω) : Option TaskResult :=
  match state.idempotencyStore, composite with
  | some store, some key => store.lookup key
  | _, _ => none

def storeResult (composite : Option String) (result : TaskResult) (state : GatewayState ω) : GatewayState ω :=
  match state.idempotencyStore, composite with
  | some store, some key =>
      { state with idempotencyStore := some ((key, result) :: store.filter fun old => old.1 ≠ key) }
  | _, _ => state

def toolInScope (env : GatewayEnv ω) (skillId : String) : Bool :=
  env.allowedToolScope.all fun patterns => patterns.any (fnmatch skillId)

def dispatchTask (env : GatewayEnv ω) (composite : Option String) (task : Task) (skillId : String)
    (inp : List (String × Json)) (arcProv : Option (List (String × Json))) (state : GatewayState ω) :
    TaskResult × GatewayState ω :=
  match env.toolDispatch.lookup skillId with
  | none => (failedTask env task "unknown_skill", state)
  | some handler =>
      if !toolInScope env skillId then (failedTask env task ("tool_scope_denied:" ++ skillId), state)
      else
        let called := handler inp state.world
        let state := { state with world := called.2, dispatched := state.dispatched ++ [(skillId, inp)] }
        match called.1 with
        | .error raised => (failedTask env task raised.text, state)
        | .ok out =>
            let out := match arcProv with
              | some arcProv => .obj [("result", out), ("arcane_provenance", .obj arcProv)]
              | none => out
            let drawn := env.freshUlid state.world
            let result : TaskResult :=
              { taskId := task.taskId, status := .completed,
                artifact := some { artifactId := drawn.1, content := out }, updatedAt := env.now }
            (result, storeResult composite result { state with world := drawn.2 })

def checkTask (env : GatewayEnv ω) (task : Task) : Except PyError Unit :=
  if env.requireCapability then (authorize env.toSecurityEnv task.skillId task.input).map fun _ => () else .ok ()

-- TaskGateway.execute_task: the token is checked before the bundle is expanded.
def executeTask (env : GatewayEnv ω) (idempotencyKey : Option String) (payload : Json) (state : GatewayState ω) :
    Except PyError TaskResult × GatewayState ω :=
  let composite := compositeKey env idempotencyKey payload state
  match storedResult composite state with
  | some result => (.ok result, state)
  | none =>
      let drawn := env.freshUlid state.world
      let state := { state with world := drawn.2 }
      match Task.modelValidate drawn.1 payload with
      | .error raised => (.error raised, state)
      | .ok task =>
          match checkTask env task with
          | .error raised => (.ok (failedTask env task raised.text), state)
          | .ok () =>
              match expandTaskInput env task.skillId task.input with
              | .error raised => (.error raised, state)
              | .ok (skillId, inp, arcProv) =>
                  let done := dispatchTask env composite task skillId inp arcProv state
                  (.ok done.1, done.2)

-- What VermythAgentExecutor.execute does to an invocation up to its dispatch:
-- a bundle in the metadata goes over the input's own, and the token is checked
-- after the expansion.
def executorAdmits (env : GatewayEnv ω) (skillId : String) (inp : List (String × Json))
    (metadataBundle : Option Json) :
    Except PyError (String × List (String × Json) × Option (List (String × Json))) := do
  let inp := match metadataBundle with
    | some bundle => dictSet inp ("semantic_bundle", bundle)
    | none => inp
  let expanded ← expandTaskInput env skillId inp
  if env.requireCapability then
    let _ ← authorize env.toSecurityEnv expanded.1 expanded.2.1
  return expanded

end Vermyth
