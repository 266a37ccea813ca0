import Vermyth.Adapters.Gateway
import Vermyth.Mcp.BinaryTransport

set_option autoImplicit false

namespace Vermyth

-- What the servers rest on beside the gateway: json.loads, whether an engine and
-- a grimoire were configured, whether the experimental surface is on, and the
-- tool methods that a frame can call without the dispatch table.
structure ServerEnv (ω : Type) extends GatewayEnv ω where
  jsonLoads : String → Option Json
  configured : Bool := true
  experimental : Bool := false
  sessionTools : Tools ω
  toolGossipSync : Json → ω → Except PyError Json × ω
  toolAddCausalEdge : Handler ω

structure ServerState (ω : Type) where
  world : ω
  ran : List String := []

variable {ω : Type}

def runTool (name : String) (call : ω → Except PyError Json × ω) (state : ServerState ω) :
    Except PyError Json × ServerState ω :=
  let called := call state.world
  (called.1, { world := called.2, ran := state.ran ++ [name] })

def noEngine : String := "No engine or grimoire configured."

section Calls

variable (env : ServerEnv ω)

-- json.dumps(value).encode("utf-8")
def jsonBytes (value : Json) : Bytes :=
  (String.ofList (dumps .default env.platform.floatRepr value)).toUTF8.data.toList

-- json.loads(payload.decode("utf-8"))
def loadPayload (payload : Bytes) : Option Json := (String.fromUTF8? ⟨payload.toArray⟩).bind env.jsonLoads

def skipSemanticExpansion : List String :=
  ["expand_semantic_bundle", "compile_ritual", "list_semantic_bundles", "inspect_semantic_bundle",
    "recommend_semantic_bundles"]

def resolveToolInvocation (toolName : String) (arguments : List (String × Json)) :
    Except PyError (String × List (String × Json) × Option (List (String × Json))) :=
  if toolName ∈ skipSemanticExpansion then .ok (toolName, arguments, none)
  else expandTaskInput env.toGatewayEnv toolName arguments

def attachArcaneProvenance (arcaneProvenance : Option (List (String × Json))) (result : Json) : Json :=
  match arcaneProvenance, result with
  | some provenance, .obj fields => .obj (dictSet fields ("arcane_provenance", .obj provenance))
  | _, result => result

-- PermissionDenied is a RuntimeError.
def enforceToolScope (toolName : String) : Except PyError Unit :=
  if toolInScope env.toGatewayEnv toolName then .ok ()
  else .error (.runtimeError ("tool_scope_denied:" ++ toolName))

end Calls

end Vermyth
