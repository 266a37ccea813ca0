import Vermyth.Mcp.JsonRpc

set_option autoImplicit false

namespace Vermyth

-- What the HTTP server rests on beside the tools: VERMYTH_HTTP_TOKEN, and the
-- text of what decoding a body raises.
structure HttpEnv (ω : Type) extends RpcEnv ω where
  httpToken : Option String := none
  bodyErrorText : Bytes → String

-- The store and the registry with the tools that ran, and the results that
-- POST /a2a/tasks keeps.
structure HttpState (ω : Type) where
  server : ServerState ω
  idempotencyStore : List (String × TaskResult) := []

-- A status with a JSON body; a task result stands for its model_dump.
inductive HttpReply where
  | json (status : Nat) (payload : Json)
  | task (result : TaskResult)

structure HttpPost where
  authorization : String := ""
  idempotencyKey : Option String := none
  body : Bytes := []

variable {ω : Type} (env : HttpEnv ω)

def authorized (post : HttpPost) : Bool :=
  match env.httpToken.filter (· ≠ "") with
  | none => true
  | some expected => post.authorization = "Bearer " ++ expected

def unauthorized : HttpReply := .json 401 (.obj [("error", .str "unauthorized")])

def badRequest (text : String) : HttpReply := .json 400 (.obj [("error", .str text)])

-- self.rfile.read(size) if size > 0 else b"{}"
def HttpPost.raw (post : HttpPost) : Bytes := if post.body = [] then "{}".toUTF8.data.toList else post.body

-- The JSON body of POST /tools/<name>.
def toolPayload (post : HttpPost) : Except PyError (List (String × Json)) :=
  match loadPayload env.toServerEnv post.raw with
  | none => .error (.valueError (env.bodyErrorText post.raw))
  | some .null => .ok []
  | some (.obj payload) => .ok payload
  | some _ => .error (.valueError "JSON body must be an object")

-- _handle_post_inner, of /tools/<name>.
def postTool (toolName : String) (post : HttpPost) (state : ServerState ω) : HttpReply × ServerState ω :=
  if !authorized env post then (unauthorized, state)
  else
    match toolPayload env post >>= resolveToolInvocation env.toServerEnv toolName with
    | .error raised => (badRequest raised.text, state)
    | .ok (resolved, merged, provenance) =>
        match env.toolDispatch.lookup resolved with
        | none => (.json 404 (.obj [("error", .str "unknown_tool")]), state)
        | some handler =>
            match enforceToolScope env.toServerEnv resolved with
            | .error raised => (badRequest raised.text, state)
            | .ok _ =>
                let called := runTool resolved (handler merged) state
                match called.1 with
                | .error raised => (badRequest raised.text, called.2)
                | .ok result =>
                    (.json 200 (.obj [("result", attachArcaneProvenance provenance result)]), called.2)

def HttpState.gateway (state : HttpState ω) : GatewayState ω where
  world := state.server.world
  idempotencyStore := some state.idempotencyStore

def HttpState.after (state : HttpState ω) (gateway : GatewayState ω) : HttpState ω where
  server := { world := gateway.world, ran := state.server.ran ++ gateway.dispatched.map Prod.fst }
  idempotencyStore := gateway.idempotencyStore.getD []

-- _handle_post_inner, of /a2a/tasks.
def postTask (post : HttpPost) (state : HttpState ω) : HttpReply × HttpState ω :=
  if !authorized env post then (unauthorized, state)
  else
    match loadPayload env.toServerEnv post.raw with
    | none => (badRequest (env.bodyErrorText post.raw), state)
    | some payload =>
        match executeTask env.toGatewayEnv post.idempotencyKey payload state.gateway with
        | (.error raised, gateway) => (badRequest raised.text, state.after gateway)
        | (.ok result, gateway) => (.task result, state.after gateway)

end Vermyth
