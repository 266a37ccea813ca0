import Vermyth.Adapters.Principal
import Vermyth.Adapters.Scope
import Vermyth.Foundation.Transition
import Vermyth.Mcp.BinaryServer

set_option autoImplicit false

namespace Vermyth

open Foundation

inductive TransportRequest where
  | toolsCall (message : JsonMessage)
  | frame (frame : BinaryFrame)
  | postTool (toolName : String) (post : HttpPost)
  | postTask (post : HttpPost)

variable {ω : Type}

-- VermythTools(..., allowed_tool_scope=scope): list(scope or ["*"])
def AuthEnv.scopedTo (env : AuthEnv ω) (scope : List String) : AuthEnv ω :=
  { env with allowedToolScope := some (if scope = [] then ["*"] else scope) }

def InScope (scope : List String) (name : String) : Prop := ∃ pattern ∈ scope, fnmatch name pattern = true

-- The dispatch name of the tool that a request asks for, once its bundle is
-- expanded, and whether the scope is asked before the tool runs.
structure ToolTarget where
  name : String
  checked : Bool

section Serve

variable (env : HttpEnv ω)

def dispatchTarget (toolName : String) (arguments : List (String × Json)) : Option ToolTarget :=
  match resolveToolInvocation env.toServerEnv toolName arguments with
  | .error _ => none
  | .ok (resolved, _, _) =>
      if (env.toolDispatch.lookup resolved).isSome then some { name := resolved, checked := true } else none

def messageTarget (message : JsonMessage) : Option ToolTarget :=
  let params := getParams message
  match payloadGet params "arguments" (.obj []) with
  | .obj arguments =>
      if env.configured then dispatchTarget env (env.pyStr (payloadGet params "name" .null)) arguments else none
  | _ => none

def packetTarget (fields : List (String × Json)) : Option ToolTarget :=
  let tool := env.pyStr (payloadGet fields "tool" .null)
  match binaryHandler env.toServerEnv tool with
  | some _ => some { name := tool, checked := true }
  | none =>
      dispatchTarget env tool
        (match payloadGet fields "arguments" (.obj []) with
          | .obj args => args
          | _ => [])

-- add_causal_edge takes an object with both ends.
def hasBothEnds : Json → Bool
  | .obj fields => (fields.lookup "source_cast_id").isSome && (fields.lookup "target_cast_id").isSome
  | _ => false

def frameTarget (frame : BinaryFrame) : Option ToolTarget :=
  match loadPayload env.toServerEnv frame.payload with
  | none => none
  | some value =>
      if !env.configured then none
      else if frame.frameType = FrameType.gossipPush ∨ frame.frameType = FrameType.gossipPull then
        if env.experimental then some { name := "gossip_sync", checked := false } else none
      else if frame.frameType = FrameType.causalSync then
        if hasBothEnds value then some { name := "add_causal_edge", checked := false } else none
      else if frame.frameType = FrameType.packet then
        match value with
        | .obj fields => packetTarget env fields
        | _ => none
      else none

def postTarget (toolName : String) (post : HttpPost) : Option ToolTarget :=
  if authorized env post then
    match toolPayload env post with
    | .ok payload => dispatchTarget env toolName payload
    | .error _ => none
  else none

-- The skill that a task comes to, where its result is not one that is kept and
-- its token passes.
def taskTarget (post : HttpPost) (state : HttpState ω) : Option ToolTarget :=
  if authorized env post then
    match loadPayload env.toServerEnv post.raw with
    | none => none
    | some payload =>
        match storedResult (compositeKey env.toGatewayEnv post.idempotencyKey payload state.gateway) state.gateway with
        | some _ => none
        | none =>
            match (do
              let task ← payloadTask env.toGatewayEnv payload state.gateway
              checkTask env.toGatewayEnv task
              expandTaskInput env.toGatewayEnv task.skillId task.input) with
            | .error _ => none
            | .ok (skillId, _, _) =>
                if (env.toolDispatch.lookup skillId).isSome then some { name := skillId, checked := true } else none
  else none

def ToolTarget.Passes (target : ToolTarget) : Prop :=
  target.checked = true → toolInScope env.toGatewayEnv target.name = true

instance (target : ToolTarget) : Decidable (target.Passes env) := inferInstanceAs (Decidable (_ → _))

def toolsRun (target : Option ToolTarget) : List String :=
  (target.filter fun own => decide (own.Passes env)).toList.map ToolTarget.name

end Serve

section Requests

variable (env : AuthEnv ω)

def serveRequest (state : HttpState ω) : TransportRequest → HttpState ω
  | .toolsCall message =>
      { state with server := (handleToolsCall env.toRpcEnv message { server := state.server }).server }
  | .frame frame => { state with server := (serveFrame env.toServerEnv frame state.server).state }
  | .postTool toolName post => (doPost env (.tools toolName) post state).2
  | .postTask post => (doPost env .tasks post state).2

-- A POST comes to a tool where its caller is one that is resolved.
def principalTarget (post : HttpPost) (target : Option ToolTarget) : Option ToolTarget :=
  match resolvePrincipal env post.authorization with
  | .error _ => none
  | .ok _ => target

def requestTarget (state : HttpState ω) : TransportRequest → Option ToolTarget
  | .toolsCall message => messageTarget env.toHttpEnv message
  | .frame frame => frameTarget env.toHttpEnv frame
  | .postTool toolName post => principalTarget env post (postTarget env.toHttpEnv toolName post)
  | .postTask post => principalTarget env post (taskTarget env.toHttpEnv post state)

end Requests

section Runs

variable (env : HttpEnv ω) {σ : Type} (store : ω → σ)

structure RunsTarget (target : Option ToolTarget) (before after : ServerState ω) : Prop where
  ran : after.ran = before.ran ++ toolsRun env target
  kept : toolsRun env target = [] → store after.world = store before.world

theorem runs_none (state : ServerState ω) : RunsTarget env store none state state :=
  ⟨(List.append_nil _).symm, fun _ => rfl⟩

theorem runs_denied (target : ToolTarget) (state : ServerState ω) (denied : ¬ target.Passes env) :
    RunsTarget env store (some target) state state := by
  have nothing : toolsRun env (some target) = [] := by simp [toolsRun, denied]
  exact ⟨by rw [nothing, List.append_nil], fun _ => rfl⟩

theorem runs_passed (target : ToolTarget) (call : ω → Except PyError Json × ω) (state : ServerState ω)
    (passes : target.Passes env) : RunsTarget env store (some target) state (runTool target.name call state).2 := by
  have itself : toolsRun env (some target) = [target.name] := by simp [toolsRun, passes]
  exact ⟨by rw [itself]; rfl, fun nothing => absurd (itself.symm.trans nothing) (List.cons_ne_nil _ _)⟩

theorem enforce_ok (toolName : String) :
    enforceToolScope env.toServerEnv toolName = .ok () ↔ toolInScope env.toGatewayEnv toolName = true := by
  rw [enforceToolScope]
  by_cases allowed : toolInScope env.toGatewayEnv toolName = true
  · rw [if_pos allowed]
    exact iff_of_true rfl allowed
  · rw [if_neg allowed]
    exact iff_of_false (fun same => by contradiction) allowed

theorem asked_runs (name : String) (state after : ServerState ω)
    (denied : ∀ raised, enforceToolScope env.toServerEnv name = .error raised → after = state)
    (passed : enforceToolScope env.toServerEnv name = .ok () → ∃ call, after = (runTool name call state).2) :
    RunsTarget env store (some { name, checked := true }) state after := by
  cases scope : enforceToolScope env.toServerEnv name with
  | error raised =>
      rw [denied raised scope]
      apply runs_denied
      intro passes
      rw [(enforce_ok env name).mpr (passes rfl)] at scope
      contradiction
  | ok _ =>
      obtain ⟨call, rfl⟩ := passed scope
      exact runs_passed env store { name, checked := true } call state fun _ => (enforce_ok env name).mp scope

theorem call_tool_runs (id : Json) (toolName : String) (arguments : JsonMessage) (state : RpcState ω) :
    RunsTarget env store (dispatchTarget env toolName arguments) state.server
      (callTool env.toRpcEnv id toolName arguments state).2.server := by
  rw [callTool, dispatchTarget]
  cases resolveToolInvocation env.toServerEnv toolName arguments with
  | error raised => exact runs_none env store _
  | ok invocation =>
      obtain ⟨resolved, merged, provenance⟩ := invocation
      simp only []
      cases found : env.toolDispatch.lookup resolved with
      | none => exact runs_none env store _
      | some handler =>
          simp only [Option.isSome_some, if_true]
          refine asked_runs env store resolved _ _ (fun raised scope => ?_) fun scope => ⟨handler merged, ?_⟩
          · simp only [scope]
          · simp only [scope]
            cases (runTool resolved (handler merged) state.server).1 <;> rfl

theorem tools_call_runs (message : JsonMessage) (state : RpcState ω) :
    RunsTarget env store (messageTarget env message) state.server
      (handleToolsCall env.toRpcEnv message state).server := by
  rw [handleToolsCall, messageTarget]
  cases payloadGet (getParams message) "arguments" (.obj []) with
  | obj arguments =>
      simp only []
      cases configured : env.configured with
      | false => exact runs_none env store _
      | true =>
          have ran := call_tool_runs env store (getId message) (env.pyStr (payloadGet (getParams message) "name" .null))
            arguments state
          simp only [Bool.not_true, Bool.false_eq_true, if_false, if_true]
          rcases called : callTool env.toRpcEnv (getId message)
            (env.pyStr (payloadGet (getParams message) "name" .null)) arguments state with ⟨outcome, after⟩
          rw [called] at ran
          cases outcome <;> exact ran
  | _ => exact runs_none env store _

theorem post_tool_runs (toolName : String) (post : HttpPost) (state : ServerState ω) :
    RunsTarget env store (postTarget env toolName post) state (postTool env toolName post state).2 := by
  rw [postTool, postTarget]
  cases authorized env post with
  | false => exact runs_none env store _
  | true =>
      simp only [Bool.not_true, Bool.false_eq_true, if_false, if_true]
      cases toolPayload env post with
      | error raised => exact runs_none env store _
      | ok payload =>
          simp only [bind, Except.bind, dispatchTarget]
          cases resolveToolInvocation env.toServerEnv toolName payload with
          | error raised => exact runs_none env store _
          | ok invocation =>
              obtain ⟨resolved, merged, provenance⟩ := invocation
              simp only []
              cases found : env.toolDispatch.lookup resolved with
              | none => exact runs_none env store _
              | some handler =>
                  simp only [Option.isSome_some, if_true]
                  refine asked_runs env store resolved _ _ (fun raised scope => ?_) fun scope => ⟨handler merged, ?_⟩
                  · simp only [scope]
                  · simp only [scope]
                    cases (runTool resolved (handler merged) state).1 <;> rfl

theorem write_frame_state (frameType : UInt8) (value : Json) (state : ServerState ω) :
    (writeFrame env.toServerEnv frameType value state).state = state := by
  rw [writeFrame]
  cases encodeFrame frameType (jsonBytes env.toServerEnv value) <;> rfl

theorem write_error_state (text : String) (state : ServerState ω) :
    (writeError env.toServerEnv text state).state = state := write_frame_state env _ _ state

theorem write_result_state (frameType : UInt8) (outcome : Except PyError Json × ServerState ω) :
    (writeResult env.toServerEnv frameType outcome).state = outcome.2 := by
  rw [writeResult]
  cases outcome.1 with
  | error raised => exact write_error_state env _ _
  | ok result =>
      simp only []
      cases encodeFrame frameType (jsonBytes env.toServerEnv result) with
      | error raised => exact write_error_state env _ _
      | ok bytes => rfl

theorem causal_call_runs (value : Json) (state : ServerState ω) :
    RunsTarget env store (if hasBothEnds value then some { name := "add_causal_edge", checked := false } else none) state
      (causalCall env.toServerEnv value state).2 := by
  cases value with
  | obj fields =>
      simp only [causalCall, hasBothEnds, Bool.and_eq_true]
      split_ifs
      · exact runs_passed env store { name := "add_causal_edge", checked := false } _ state fun asked => by contradiction
      · exact runs_none env store _
  | _ => exact runs_none env store _

theorem packet_call_runs (fields : List (String × Json)) (state : ServerState ω) :
    RunsTarget env store (packetTarget env fields) state (packetCall env.toServerEnv fields state).2 := by
  simp only [packetCall, packetTarget, dispatchTarget]
  generalize env.pyStr (payloadGet fields "tool" .null) = tool
  -- Arguments that are no object are none.
  cases payloadGet fields "arguments" (.obj [])
  all_goals
    simp only []
    cases binaryHandler env.toServerEnv tool with
    | some handler =>
        refine asked_runs env store tool _ _ (fun raised scope => ?_) fun scope => ?_
        · simp only [scope]
        · simp only [scope]
          exact ⟨_, rfl⟩
    | none =>
        simp only []
        generalize resolveToolInvocation env.toServerEnv tool _ = resolution
        cases resolution with
        | error raised => exact runs_none env store _
        | ok invocation =>
            obtain ⟨resolved, merged, provenance⟩ := invocation
            simp only []
            cases found : env.toolDispatch.lookup resolved with
            | none =>
                simp only [Option.isSome_none, Bool.false_eq_true, if_false]
                cases enforceToolScope env.toServerEnv resolved <;> exact runs_none env store _
            | some handler =>
                refine asked_runs env store resolved _ _ (fun raised scope => ?_) fun scope => ⟨handler merged, ?_⟩
                · simp only [scope]
                · simp only [scope]

theorem session_target (frame : BinaryFrame)
    (session : frame.frameType = FrameType.sessionOpen ∨ frame.frameType = FrameType.sessionClose) :
    frameTarget env frame = none := by
  have others : frame.frameType ≠ FrameType.gossipPush ∧ frame.frameType ≠ FrameType.gossipPull ∧
      frame.frameType ≠ FrameType.causalSync ∧ frame.frameType ≠ FrameType.packet := by
    rcases session with opens | closes
    · rw [opens]
      decide
    · rw [closes]
      decide
  rw [frameTarget]
  cases loadPayload env.toServerEnv frame.payload with
  | none => rfl
  | some value => simp only [others, or_self, if_false, ite_self]

theorem frame_runs (frame : BinaryFrame) (state : ServerState ω) :
    RunsTarget env store (frameTarget env frame) state (serveFrame env.toServerEnv frame state).state := by
  rw [serveFrame]
  cases loaded : loadPayload env.toServerEnv frame.payload with
  | none =>
      simp only [frameTarget, loaded, write_error_state]
      exact runs_none env store _
  | some value =>
      simp only []
      by_cases opens : frame.frameType = FrameType.sessionOpen
      · rw [if_pos opens, write_frame_state, session_target env frame (Or.inl opens)]
        exact runs_none env store _
      rw [if_neg opens]
      by_cases closes : frame.frameType = FrameType.sessionClose
      · rw [if_pos closes, write_frame_state, session_target env frame (Or.inr closes)]
        exact runs_none env store _
      rw [if_neg closes]
      simp only [frameTarget, loaded]
      by_cases gossips : frame.frameType = FrameType.gossipPush ∨ frame.frameType = FrameType.gossipPull
      · rw [if_pos gossips, if_pos gossips]
        cases env.experimental with
        | false =>
            simp only [Bool.not_false, if_true, write_error_state, Bool.false_eq_true, if_false, ite_self]
            exact runs_none env store _
        | true =>
            cases env.configured with
            | false =>
                simp only [Bool.not_true, Bool.false_eq_true, if_false, Bool.not_false, if_true, write_error_state]
                exact runs_none env store _
            | true =>
                simp only [Bool.not_true, Bool.false_eq_true, if_false, if_true, write_result_state, gossipCall]
                exact runs_passed env store { name := "gossip_sync", checked := false } _ state fun asked => by
                  contradiction
      rw [if_neg gossips, if_neg gossips]
      by_cases causes : frame.frameType = FrameType.causalSync
      · rw [if_pos causes, if_pos causes]
        cases env.configured with
        | false =>
            simp only [Bool.not_false, if_true, write_error_state]
            exact runs_none env store _
        | true =>
            simp only [Bool.not_true, Bool.false_eq_true, if_false, write_result_state]
            exact causal_call_runs env store value state
      rw [if_neg causes, if_neg causes]
      by_cases packs : frame.frameType = FrameType.packet
      · rw [if_pos packs, if_pos packs]
        cases env.configured with
        | false =>
            simp only [Bool.not_false, if_true, write_error_state]
            exact runs_none env store _
        | true =>
            simp only [Bool.not_true, Bool.false_eq_true, if_false]
            cases value with
            | obj fields =>
                simp only [write_result_state]
                exact packet_call_runs env store fields state
            | _ => exact runs_none env store _
      rw [if_neg packs, if_neg packs, ite_self]
      exact runs_none env store _

theorem dispatch_task_idle (composite : Option String) (task : Task) (skillId : String) (inp : List (String × Json))
    (arcProv : Option (List (String × Json))) (state : GatewayState ω)
    (idle : dispatchable env.toGatewayEnv skillId = false) :
    (dispatchTask env.toGatewayEnv composite task skillId inp arcProv state).2 = state := by
  rw [dispatchTask]
  rw [dispatchable] at idle
  cases found : env.toolDispatch.lookup skillId with
  | none => rfl
  | some handler =>
      have denied : toolInScope env.toGatewayEnv skillId = false := by simpa [found] using idle
      simp only [denied, Bool.not_false, if_true]

section Tasks

variable (draws : ∀ world, store (env.freshUlid world).2 = store world)
include draws

theorem task_left (state : HttpState ω) (target : Option ToolTarget) (gateway : GatewayState ω)
    (ran : gateway.dispatched.map Prod.fst = toolsRun env target)
    (kept : toolsRun env target = [] → gateway.world = (env.freshUlid state.server.world).2) :
    RunsTarget env store target state.server (state.after gateway).server := by
  refine ⟨by rw [HttpState.after, ran], fun nothing => ?_⟩
  change store gateway.world = _
  rw [kept nothing, draws]

omit draws in
theorem tools_run_dispatch (skillId : String) :
    toolsRun env (if (env.toolDispatch.lookup skillId).isSome then some { name := skillId, checked := true } else none) =
      if dispatchable env.toGatewayEnv skillId then [skillId] else [] := by
  rw [dispatchable]
  cases (env.toolDispatch.lookup skillId).isSome with
  | false => rfl
  | true =>
      by_cases allowed : toolInScope env.toGatewayEnv skillId = true
      · simp [toolsRun, ToolTarget.Passes, allowed]
      · simp [toolsRun, ToolTarget.Passes, allowed]

theorem dispatched_left (state : HttpState ω) (composite : Option String) (task : Task) (skillId : String)
    (inp : List (String × Json)) (arcProv : Option (List (String × Json))) (gateway : GatewayState ω)
    (fresh : gateway.dispatched = []) (drawn : gateway.world = (env.freshUlid state.server.world).2) :
    RunsTarget env store
      (if (env.toolDispatch.lookup skillId).isSome then some { name := skillId, checked := true } else none) state.server
      (state.after (dispatchTask env.toGatewayEnv composite task skillId inp arcProv gateway).2).server := by
  refine task_left env store draws state _ _ ?_ fun nothing => ?_
  · rw [dispatch_task_dispatched, tools_run_dispatch, fresh]
    split_ifs <;> rfl
  · rw [tools_run_dispatch] at nothing
    cases idle : dispatchable env.toGatewayEnv skillId with
    | false => rw [dispatch_task_idle env composite task skillId inp arcProv gateway idle, drawn]
    | true =>
        rw [if_pos idle] at nothing
        contradiction

theorem post_task_runs (post : HttpPost) (state : HttpState ω) :
    RunsTarget env store (taskTarget env post state) state.server (postTask env post state).2.server := by
  rw [postTask, taskTarget]
  cases authorized env post with
  | false => exact runs_none env store _
  | true =>
      simp only [Bool.not_true, Bool.false_eq_true, if_false, if_true]
      cases loadPayload env.toServerEnv post.raw with
      | none => exact runs_none env store _
      | some payload =>
          cases stored : storedResult (compositeKey env.toGatewayEnv post.idempotencyKey payload state.gateway)
              state.gateway with
          | some result =>
              simp only [executeTask, stored]
              exact ⟨rfl, fun _ => rfl⟩
          | none =>
              rcases execute_task_cases env.toGatewayEnv payload state.gateway with
                ⟨raised, reply, stopped, -, called⟩ | ⟨task, skillId, inp, arcProv, valid, checked, expanded, called⟩
              · simp only [stored, stopped, called post.idempotencyKey stored]
                have left := task_left env store draws state none
                  { state.gateway with world := (env.freshUlid state.server.world).2 } rfl fun _ => rfl
                cases reply <;> exact left
              · simp only [stored, valid, checked, expanded, called post.idempotencyKey stored, bind, Except.bind]
                exact dispatched_left env store draws state _ task skillId inp arcProv
                  { state.gateway with world := (env.freshUlid state.server.world).2 } rfl rfl

end Tasks

end Runs

section Served

variable (env : AuthEnv ω) {σ : Type} (store : ω → σ)

theorem do_post_runs (route : PostRoute) (post : HttpPost) (state : HttpState ω) (target : Option ToolTarget)
    (idle : authorized env.toHttpEnv post = false → target = none)
    (runs : RunsTarget env.toHttpEnv store target state.server (handlePostInner env route post state).2.server) :
    RunsTarget env.toHttpEnv store (principalTarget env post target) state.server
      (doPost env route post state).2.server := by
  rw [doPost, principalTarget]
  cases passes : authorized env.toHttpEnv post with
  | false =>
      rw [idle passes]
      cases resolvePrincipal env post.authorization <;> exact runs_none env.toHttpEnv store _
  | true =>
      cases resolvePrincipal env post.authorization with
      | error raised => exact runs_none env.toHttpEnv store _
      | ok principal => exact runs

theorem post_target_unauthorized (toolName : String) (post : HttpPost) (refused : authorized env.toHttpEnv post = false) :
    postTarget env.toHttpEnv toolName post = none := if_neg (by rw [refused]; exact Bool.false_ne_true)

theorem task_target_unauthorized (post : HttpPost) (state : HttpState ω)
    (refused : authorized env.toHttpEnv post = false) : taskTarget env.toHttpEnv post state = none :=
  if_neg (by rw [refused]; exact Bool.false_ne_true)

variable (draws : ∀ world, store (env.freshUlid world).2 = store world)
include draws

theorem serve_request_runs (request : TransportRequest) (state : HttpState ω) :
    RunsTarget env.toHttpEnv store (requestTarget env state request) state.server
      (serveRequest env state request).server := by
  cases request with
  | toolsCall message => exact tools_call_runs env.toHttpEnv store message { server := state.server }
  | frame frame => exact frame_runs env.toHttpEnv store frame state.server
  | postTool toolName post =>
      exact do_post_runs env store (.tools toolName) post state _ (post_target_unauthorized env toolName post)
        (post_tool_runs env.toHttpEnv store toolName post state.server)
  | postTask post =>
      exact do_post_runs env store .tasks post state _ (task_target_unauthorized env post state)
        (post_task_runs env.toHttpEnv store draws post state)

theorem refused_leaves_store (request : TransportRequest) (state : HttpState ω)
    (refused : (serveRequest env state request).server.ran = state.server.ran) :
    store (serveRequest env state request).server.world = store state.server.world := by
  have runs := serve_request_runs env store draws request state
  apply runs.kept
  rw [runs.ran] at refused
  exact List.append_right_eq_self.mp refused

end Served

section Scope

variable (env : AuthEnv ω) (scope : List String)

instance (name : String) : Decidable (InScope scope name) :=
  inferInstanceAs (Decidable (∃ pattern ∈ scope, fnmatch name pattern = true))

theorem star_matches (name : String) : fnmatch name "*" = true :=
  List.any_eq_true.mpr ⟨[], (List.mem_tails [] _).mpr List.nil_suffix, rfl⟩

theorem tool_in_scope_iff (name : String) :
    toolInScope (env.scopedTo scope).toGatewayEnv name = true ↔ scope = [] ∨ InScope scope name := by
  change (if scope = [] then ["*"] else scope).any (fnmatch name) = true ↔ _
  by_cases empty : scope = []
  · rw [if_pos empty]
    exact iff_of_true (List.any_eq_true.mpr ⟨"*", List.mem_singleton_self _, star_matches name⟩) (Or.inl empty)
  · rw [if_neg empty, List.any_eq_true]
    exact (or_iff_right empty).symm

def ScopeKept (state : HttpState ω) (request : TransportRequest) : Prop :=
  ∀ target ∈ requestTarget (env.scopedTo scope) state request,
    InScope scope target.name ∨ (scope ≠ [] ∧ target.checked = true)

instance (state : HttpState ω) (request : TransportRequest) : Decidable (ScopeKept env scope state request) :=
  inferInstanceAs (Decidable (∀ target ∈ requestTarget (env.scopedTo scope) state request,
    InScope scope target.name ∨ (scope ≠ [] ∧ target.checked = true)))

theorem scoped_target_iff (target : ToolTarget) :
    (target.Passes (env.scopedTo scope).toHttpEnv → InScope scope target.name) ↔
      InScope scope target.name ∨ (scope ≠ [] ∧ target.checked = true) := by
  rw [ToolTarget.Passes, tool_in_scope_iff]
  tauto

theorem runs_in_scope_iff (target : Option ToolTarget) :
    (∀ name ∈ toolsRun (env.scopedTo scope).toHttpEnv target, InScope scope name) ↔
      ∀ own ∈ target, InScope scope own.name ∨ (scope ≠ [] ∧ own.checked = true) := by
  cases target with
  | none => exact iff_of_true (fun name ran => absurd ran List.not_mem_nil) (fun own asked => by contradiction)
  | some own =>
      simp only [Option.mem_some_iff, forall_eq', ← scoped_target_iff env]
      by_cases passes : own.Passes (env.scopedTo scope).toHttpEnv
      · simp [toolsRun, passes]
      · simp [toolsRun, passes]

theorem serve_request_scoped {σ : Type} (store : ω → σ) (draws : ∀ world, store (env.freshUlid world).2 = store world)
    (state : HttpState ω) (request : TransportRequest) (within : ∀ name ∈ state.server.ran, InScope scope name) :
    (∀ name ∈ (serveRequest (env.scopedTo scope) state request).server.ran, InScope scope name) ↔
      ScopeKept env scope state request := by
  rw [(serve_request_runs (env.scopedTo scope) store draws request state).ran, List.forall_mem_append,
    and_iff_right within, runs_in_scope_iff]
  rfl

theorem tool_scope_holds_iff {σ : Type} (store : ω → σ) (draws : ∀ world, store (env.freshUlid world).2 = store world)
    (requests : List TransportRequest) (world : ω) (kept : List (String × TaskResult)) :
    ((∀ pre, pre <+: requests →
        ∀ name ∈ (run (serveRequest (env.scopedTo scope)) { server := { world }, idempotencyStore := kept } pre).server.ran,
          InScope scope name) ↔
      Along (serveRequest (env.scopedTo scope)) (ScopeKept env scope)
        { server := { world }, idempotencyStore := kept } requests) ∧
    ∀ (state : HttpState ω) (request : TransportRequest),
      (serveRequest (env.scopedTo scope) state request).server.ran = state.server.ran →
        store (serveRequest (env.scopedTo scope) state request).server.world = store state.server.world := by
  refine ⟨?_, fun state request => refused_leaves_store (env.scopedTo scope) store draws request state⟩
  apply always_iff_along (fun state : HttpState ω => ∀ name ∈ state.server.ran, InScope scope name)
  · intro before action within
    exact serve_request_scoped env scope store draws before action within
  · exact fun name ran => absurd ran List.not_mem_nil

end Scope

def countingServer : HttpEnv Nat where
  toSecurityEnv := { probeEnv.toSecurityEnv with requireCapability := false }
  loadBundle := probeEnv.loadBundle
  pyStr := probeEnv.pyStr
  formatText := probeEnv.formatText
  mergeWard := probeEnv.mergeWard
  toolDispatch := [("cast", fun _ calls => (.ok (.int calls), calls + 1))]
  freshUlid := fun calls => ("01", calls)
  jsonLoads := fun text => loads readPlainFloat text.toList
  sessionTools := {
    platform := zeroPlatform
    toolCast := fun _ _ _ _ _ _ calls => (.ok .null, calls + 1)
    toolFluidCast := fun _ _ _ _ calls => (.ok .null, calls + 1)
    toolGeometricCast := fun _ _ _ _ calls => (.ok .null, calls + 1) }
  toolGossipSync := fun _ calls => (.ok .null, calls + 1)
  toolAddCausalEdge := fun fields calls =>
    if (fields.lookup "edge_type").isNone then (.error (invalid "CausalEdge" "edge_type"), calls)
    else if (fields.lookup "weight").isNone then (.error (invalid "CausalEdge" "weight"), calls)
    else (.ok .null, calls + 1)
  toolDefinitions := .arr []
  urlparse := fun _ => .error (.valueError "Invalid URL")
  parseQs := fun _ => .ok []
  listBundleCatalog := fun _ => .ok (.arr [])
  inspectSemanticBundleDetail := fun bundleId _ => .error (.fileNotFoundError bundleId)
  toolInspect := fun _ calls => (.ok .null, calls)
  toolExecutionStatus := fun _ calls => (.ok .null, calls)
  toolExecutionReceipt := fun _ calls => (.ok .null, calls)
  toolListPrograms := fun _ calls => (.ok .null, calls)
  toolProgramStatus := fun _ calls => (.ok .null, calls)
  bodyErrorText := fun _ => "Expecting value"

def countingAuth : AuthEnv Nat where
  toHttpEnv := countingServer
  jwtDecode := none

def edgePayload : String :=
  "\x7b\"source_cast_id\":\"01\",\"target_cast_id\":\"02\",\"edge_type\":\"CAUSES\",\"weight\":1\x7d"

def edgeFrame : BinaryFrame where
  frameType := FrameType.causalSync
  payload := edgePayload.toUTF8.data.toList

def castRequests : List TransportRequest :=
  [.toolsCall [("params", .obj [("name", .str "cast")])], .postTool "cast" {},
    .postTask { body := "\x7b\"skill_id\":\"cast\"\x7d".toUTF8.data.toList },
    .frame { edgeFrame with payload := [123, 125] }]

theorem tool_scope_holds_cast :
    (run (serveRequest (countingAuth.scopedTo ["c*"])) { server := { world := 0 } } castRequests).server.ran =
      ["cast", "cast", "cast"] ∧
    ∀ pre, pre <+: castRequests →
      ∀ name ∈ (run (serveRequest (countingAuth.scopedTo ["c*"])) { server := { world := 0 } } pre).server.ran,
        InScope ["c*"] name :=
  ⟨by decide +kernel,
    (tool_scope_holds_iff countingAuth ["c*"] id (fun _ => rfl) castRequests 0 []).1.mpr (by decide +kernel)⟩

theorem edge_leaves_scope :
    (run (serveRequest (countingAuth.scopedTo ["query*"])) { server := { world := 0 } }
      [.frame edgeFrame]).server.ran = ["add_causal_edge"] ∧
    (run (serveRequest (countingAuth.scopedTo ["query*"])) { server := { world := 0 } }
      [.frame edgeFrame]).server.world = 1 ∧
    (run (serveRequest (countingAuth.scopedTo [])) { server := { world := 0 } } [.postTool "cast" {}]).server.ran =
      ["cast"] ∧
    ¬ ∀ (env : AuthEnv Nat) (scope : List String) (requests : List TransportRequest) (world : Nat),
      ∀ name ∈ (run (serveRequest (env.scopedTo scope)) { server := { world } } requests).server.ran,
        InScope scope name := by
  have ran : (run (serveRequest (countingAuth.scopedTo ["query*"])) { server := { world := 0 } }
      [.frame edgeFrame]).server.ran = ["add_causal_edge"] := by decide +kernel
  refine ⟨ran, by decide +kernel, by decide +kernel, ?_⟩
  intro always
  have within := always countingAuth ["query*"] [.frame edgeFrame] 0 "add_causal_edge"
  rw [ran] at within
  exact absurd (within (List.mem_singleton_self _)) (by decide)

end Vermyth
