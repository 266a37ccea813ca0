import Vermyth.Adapters.Scope
import Vermyth.Mcp.Server
import Vermyth.Protocol.JsonRoundTrip

set_option autoImplicit false

namespace Vermyth

variable {ω : Type}

-- What the loop does with one frame: the frames it writes, the exception that
-- ends it, and the state it leaves.
structure Served (ω : Type) where
  replies : List BinaryFrame
  raised : Option PyError := none
  state : ServerState ω

section Serve

variable (env : ServerEnv ω)

def writeFrame (frameType : UInt8) (value : Json) (state : ServerState ω) : Served ω :=
  match encodeFrame frameType (jsonBytes env value) with
  | .ok _ => { replies := [{ frameType, payload := jsonBytes env value }], state }
  | .error raised => { replies := [], raised := some raised, state }

def writeError (text : String) (state : ServerState ω) : Served ω :=
  writeFrame env FrameType.error (.obj [("error", .str text)]) state

-- The result of a tool, or what the try around it caught; json.dumps and
-- encode_frame stand inside it.
def writeResult (frameType : UInt8) (outcome : Except PyError Json × ServerState ω) : Served ω :=
  match outcome.1 with
  | .error raised => writeError env raised.text outcome.2
  | .ok result =>
      match encodeFrame frameType (jsonBytes env result) with
      | .ok _ => { replies := [{ frameType, payload := jsonBytes env result }], state := outcome.2 }
      | .error raised => writeError env raised.text outcome.2

def gossipCall (value : Json) (state : ServerState ω) : Except PyError Json × ServerState ω :=
  runTool "gossip_sync" (env.toolGossipSync value) state

def causalCall (value : Json) (state : ServerState ω) : Except PyError Json × ServerState ω :=
  match value with
  | .obj fields =>
      if (fields.lookup "source_cast_id").isSome ∧ (fields.lookup "target_cast_id").isSome then
        runTool "add_causal_edge" (env.toolAddCausalEdge fields) state
      else (.ok (.obj [("accepted", .bool true)]), state)
  | _ => (.ok (.obj [("accepted", .bool true)]), state)

-- A tool of BINARY_DISPATCH, where the experimental surface is on.
def binaryHandler (tool : String) : Option (Handler ω) :=
  if env.experimental then (binaryDispatch env.sessionTools).lookup tool else none

def packetCall (fields : List (String × Json)) (state : ServerState ω) : Except PyError Json × ServerState ω :=
  let tool := env.pyStr (payloadGet fields "tool" .null)
  let args := match payloadGet fields "arguments" (.obj []) with
    | .obj args => args
    | _ => []
  match binaryHandler env tool with
  | some handler =>
      match enforceToolScope env tool with
      | .error raised => (.error raised, state)
      | .ok _ => runTool tool (handler args) state
  | none =>
      match resolveToolInvocation env tool args with
      | .error raised => (.error raised, state)
      | .ok (resolved, merged, provenance) =>
          match enforceToolScope env resolved with
          | .error raised => (.error raised, state)
          | .ok _ =>
              match env.toolDispatch.lookup resolved with
              | none => (.error (.valueError ("unknown tool: " ++ resolved)), state)
              | some handler =>
                  let called := runTool resolved (handler merged) state
                  (called.1.map (attachArcaneProvenance provenance), called.2)

-- One turn of the loop of _run_binary.
def serveFrame (frame : BinaryFrame) (state : ServerState ω) : Served ω :=
  match loadPayload env frame.payload with
  | none => writeError env "invalid payload json" state
  | some value =>
      if frame.frameType = FrameType.sessionOpen then
        writeFrame env FrameType.sessionAck
          (.obj [("accepted", .bool true), ("transport", .str "BINARY"), ("version", .int 1)]) state
      else if frame.frameType = FrameType.sessionClose then
        writeFrame env FrameType.sessionClose (.obj [("closed", .bool true)]) state
      else if frame.frameType = FrameType.gossipPush ∨ frame.frameType = FrameType.gossipPull then
        if !env.experimental then writeError env "experimental tool surface disabled" state
        else if !env.configured then writeError env noEngine state
        else writeResult env FrameType.gossipAck (gossipCall env value state)
      else if frame.frameType = FrameType.causalSync then
        if !env.configured then writeError env noEngine state
        else writeResult env FrameType.causalSync (causalCall env value state)
      else if frame.frameType = FrameType.packet then
        if !env.configured then writeError env noEngine state
        else
          match value with
          | .obj fields => writeResult env FrameType.response (packetCall env fields state)
          | other =>
              { replies := []
                raised := some (.attributeError ("'" ++ other.typeName ++ "' object has no attribute 'get'"))
                state }
      else { replies := [], state }

-- What the loop leaves: the frames it wrote, for each frame that it read.
structure BinaryRun (ω : Type) where
  replies : List (List BinaryFrame)
  raised : Option PyError := none
  state : ServerState ω

-- One unit of fuel for each frame, and one for the end of the input.
def binaryLoop : Nat → Bytes → ServerState ω → Option (BinaryRun ω)
  | 0, _, _ => none
  | fuel + 1, input, state =>
      match decodeFrame input with
      | .error raised => some { replies := [], raised := some raised, state }
      | .ok none => some { replies := [], state }
      | .ok (some (frame, rest)) =>
          let served := serveFrame env frame state
          match served.raised with
          | some raised => some { replies := [served.replies], raised := some raised, state := served.state }
          | none => (binaryLoop fuel rest served.state).map fun run =>
              { run with replies := served.replies :: run.replies }

-- _run_binary, of all there is to read; every frame is ten bytes at least.
def runBinary (input : Bytes) (state : ServerState ω) : Option (BinaryRun ω) :=
  binaryLoop env (input.length + 1) input state

end Serve

section Answers

variable (env : ServerEnv ω)

-- The types of frame that the loop has a branch for.
def servedTypes : List UInt8 :=
  [FrameType.sessionOpen, FrameType.sessionClose, FrameType.gossipPush, FrameType.gossipPull, FrameType.causalSync,
    FrameType.packet]

def errorBytes (text : String) : Bytes := jsonBytes env (.obj [("error", .str text)])

-- The exception of the tool that a frame calls.
inductive ToolRaises (frame : BinaryFrame) (value : Json) (state : ServerState ω) (raised : PyError) : Prop where
  | gossip (asked : frame.frameType = FrameType.gossipPush ∨ frame.frameType = FrameType.gossipPull)
      (on : env.experimental = true) (configured : env.configured = true)
      (raises : (gossipCall env value state).1 = .error raised)
  | causal (asked : frame.frameType = FrameType.causalSync) (configured : env.configured = true)
      (raises : (causalCall env value state).1 = .error raised)
  | packet (asked : frame.frameType = FrameType.packet) (configured : env.configured = true)
      (fields : List (String × Json)) (isObject : value = .obj fields)
      (raises : (packetCall env fields state).1 = .error raised)

-- A frame with a JSON payload that the loop answers.
structure Answerable (frame : BinaryFrame) (value : Json) (state : ServerState ω) : Prop where
  served : frame.frameType ∈ servedTypes
  packetObject : frame.frameType = FrameType.packet → env.configured = true → ∃ fields, value = .obj fields
  errorFits : ∀ raised, ToolRaises env frame value state raised → (errorBytes env raised.text).length < lengthBound

def Unusable (frame : BinaryFrame) : Prop :=
  ∀ value, loadPayload env frame.payload = some value →
    frame.frameType = FrameType.packet ∧ ∀ fields, value ≠ .obj fields

def AnsweredBy (frame : BinaryFrame) (replies : List BinaryFrame) : Prop :=
  ∃ reply, replies = [reply] ∧ (Unusable env frame → reply.frameType = FrameType.error)

def Served.One (served : Served ω) : Prop := served.raised = none ∧ ∃ reply, served.replies = [reply]

theorem write_frame_one (frameType : UInt8) (value : Json) (state : ServerState ω) :
    (writeFrame env frameType value state).One ↔ (jsonBytes env value).length < lengthBound := by
  rw [writeFrame, encodeFrame]
  by_cases small : (jsonBytes env value).length < lengthBound
  · rw [if_pos small]
    exact iff_of_true ⟨rfl, _, rfl⟩ small
  · rw [if_neg small]
    refine iff_of_false ?_ small
    rintro ⟨returned, -⟩
    contradiction

theorem write_frame_type (frameType : UInt8) (value : Json) (state : ServerState ω) :
    ∀ reply ∈ (writeFrame env frameType value state).replies, reply.frameType = frameType := by
  rw [writeFrame]
  cases encodeFrame frameType (jsonBytes env value) with
  | error raised =>
      intro reply member
      contradiction
  | ok bytes =>
      intro reply member
      rw [List.mem_singleton.mp member]

theorem const_fits (value : Json) (text : String)
    (dumped : dumps .default env.platform.floatRepr value = text.toList)
    (small : text.toUTF8.data.toList.length < lengthBound) : (jsonBytes env value).length < lengthBound := by
  rwa [jsonBytes, dumped, String.ofList_toList]

theorem invalid_payload_fits : (errorBytes env "invalid payload json").length < lengthBound :=
  const_fits env _ "\x7b\"error\": \"invalid payload json\"\x7d" rfl (by decide +kernel)

theorem surface_disabled_fits : (errorBytes env "experimental tool surface disabled").length < lengthBound :=
  const_fits env _ "\x7b\"error\": \"experimental tool surface disabled\"\x7d" rfl (by decide +kernel)

theorem no_engine_fits : (errorBytes env noEngine).length < lengthBound :=
  const_fits env _ "\x7b\"error\": \"No engine or grimoire configured.\"\x7d" rfl (by decide +kernel)

theorem length_error_fits :
    (errorBytes env "'I' format requires 0 <= number <= 4294967295").length < lengthBound :=
  const_fits env _ "\x7b\"error\": \"'I' format requires 0 <= number <= 4294967295\"\x7d" rfl (by decide +kernel)

theorem opened_fits : (jsonBytes env (.obj [("accepted", .bool true), ("transport", .str "BINARY"),
    ("version", .int 1)])).length < lengthBound :=
  const_fits env _ "\x7b\"accepted\": true, \"transport\": \"BINARY\", \"version\": 1\x7d" rfl (by decide +kernel)

theorem closed_fits : (jsonBytes env (.obj [("closed", .bool true)])).length < lengthBound :=
  const_fits env _ "\x7b\"closed\": true\x7d" rfl (by decide +kernel)

theorem write_result_one (frameType : UInt8) (outcome : Except PyError Json × ServerState ω) :
    (writeResult env frameType outcome).One ↔
      ∀ raised, outcome.1 = .error raised → (errorBytes env raised.text).length < lengthBound := by
  obtain ⟨result, state⟩ := outcome
  cases result with
  | error own =>
      simp only [writeResult, Except.error.injEq, forall_eq']
      exact write_frame_one env _ _ state
  | ok value =>
      refine iff_of_true ?_ fun raised raises => by contradiction
      simp only [writeResult, encodeFrame]
      by_cases small : (jsonBytes env value).length < lengthBound
      · rw [if_pos small]
        exact ⟨rfl, _, rfl⟩
      · rw [if_neg small]
        exact (write_frame_one env _ _ state).mpr (length_error_fits env)

theorem tool_raises_type (frame : BinaryFrame) (value : Json) (state : ServerState ω) (raised : PyError)
    (raises : ToolRaises env frame value state raised) :
    frame.frameType ∈ [FrameType.gossipPush, FrameType.gossipPull, FrameType.causalSync, FrameType.packet] := by
  cases raises with
  | gossip asked _ _ _ => rcases asked with push | pull <;> simp [*]
  | causal asked _ _ => simp [asked]
  | packet asked _ _ _ _ => simp [asked]

theorem session_answerable (frame : BinaryFrame) (value : Json) (state : ServerState ω)
    (session : frame.frameType = FrameType.sessionOpen ∨ frame.frameType = FrameType.sessionClose) :
    Answerable env frame value state where
  served := by rcases session with opens | closes <;> simp [servedTypes, *]
  packetObject := by
    intro packet
    rcases session with opens | closes
    · exact absurd (opens.symm.trans packet) (by decide)
    · exact absurd (closes.symm.trans packet) (by decide)
  errorFits := by
    intro raised raises
    have calls := tool_raises_type env frame value state raised raises
    rcases session with opens | closes
    · rw [opens] at calls
      exact absurd calls (by decide)
    · rw [closes] at calls
      exact absurd calls (by decide)

theorem gossip_answerable (frame : BinaryFrame) (value : Json) (state : ServerState ω)
    (gossip : frame.frameType = FrameType.gossipPush ∨ frame.frameType = FrameType.gossipPull) :
    Answerable env frame value state ↔ (env.experimental = true → env.configured = true →
      ∀ raised, (gossipCall env value state).1 = .error raised → (errorBytes env raised.text).length < lengthBound) := by
  have otherType : ∀ own : UInt8, own ≠ FrameType.gossipPush → own ≠ FrameType.gossipPull → frame.frameType ≠ own := by
    intro own notPush notPull same
    rcases gossip with push | pull
    · exact notPush (same.symm.trans push)
    · exact notPull (same.symm.trans pull)
  constructor
  · intro answerable on configured raised raises
    exact answerable.errorFits raised (.gossip gossip on configured raises)
  · intro fits
    refine ⟨by rcases gossip with push | pull <;> simp [servedTypes, *], ?_, ?_⟩
    · intro packet
      exact absurd packet (otherType _ (by decide) (by decide))
    · intro raised raises
      cases raises with
      | gossip asked on configured raises => exact fits on configured raised raises
      | causal asked _ _ => exact absurd asked (otherType _ (by decide) (by decide))
      | packet asked _ _ _ _ => exact absurd asked (otherType _ (by decide) (by decide))

theorem causal_answerable (frame : BinaryFrame) (value : Json) (state : ServerState ω)
    (causal : frame.frameType = FrameType.causalSync) :
    Answerable env frame value state ↔ (env.configured = true →
      ∀ raised, (causalCall env value state).1 = .error raised → (errorBytes env raised.text).length < lengthBound) := by
  constructor
  · intro answerable configured raised raises
    exact answerable.errorFits raised (.causal causal configured raises)
  · intro fits
    refine ⟨by simp [servedTypes, causal], ?_, ?_⟩
    · intro packet
      exact absurd (causal.symm.trans packet) (by decide)
    · intro raised raises
      cases raises with
      | gossip asked _ _ _ =>
          rw [causal] at asked
          exact absurd asked (by decide)
      | causal _ configured raises => exact fits configured raised raises
      | packet asked _ _ _ _ => exact absurd (causal.symm.trans asked) (by decide)

theorem packet_answerable (frame : BinaryFrame) (value : Json) (state : ServerState ω)
    (packet : frame.frameType = FrameType.packet) :
    Answerable env frame value state ↔ (env.configured = true → ∃ fields, value = .obj fields ∧
      ∀ raised, (packetCall env fields state).1 = .error raised → (errorBytes env raised.text).length < lengthBound) := by
  constructor
  · intro answerable configured
    obtain ⟨fields, isObject⟩ := answerable.packetObject packet configured
    refine ⟨fields, isObject, ?_⟩
    intro raised raises
    exact answerable.errorFits raised (.packet packet configured fields isObject raises)
  · intro fits
    refine ⟨by simp [servedTypes, packet], ?_, ?_⟩
    · intro _ configured
      obtain ⟨fields, isObject, -⟩ := fits configured
      exact ⟨fields, isObject⟩
    · intro raised raises
      cases raises with
      | gossip asked _ _ _ =>
          rw [packet] at asked
          exact absurd asked (by decide)
      | causal asked _ _ => exact absurd (packet.symm.trans asked) (by decide)
      | packet _ configured fields isObject raises =>
          obtain ⟨own, same, ownFits⟩ := fits configured
          obtain rfl := Json.obj.inj (isObject.symm.trans same)
          exact ownFits raised raises

theorem serve_frame_one (frame : BinaryFrame) (state : ServerState ω) :
    (serveFrame env frame state).One ↔
      ∀ value, loadPayload env frame.payload = some value → Answerable env frame value state := by
  rw [serveFrame]
  cases loaded : loadPayload env frame.payload with
  | none =>
      refine iff_of_true ((write_frame_one env _ _ state).mpr (invalid_payload_fits env)) ?_
      intro value same
      contradiction
  | some value =>
      simp only [Option.some.injEq, forall_eq']
      by_cases opens : frame.frameType = FrameType.sessionOpen
      · rw [if_pos opens]
        exact iff_of_true ((write_frame_one env _ _ state).mpr (opened_fits env))
          (session_answerable env frame value state (Or.inl opens))
      rw [if_neg opens]
      by_cases closes : frame.frameType = FrameType.sessionClose
      · rw [if_pos closes]
        exact iff_of_true ((write_frame_one env _ _ state).mpr (closed_fits env))
          (session_answerable env frame value state (Or.inr closes))
      rw [if_neg closes]
      by_cases gossip : frame.frameType = FrameType.gossipPush ∨ frame.frameType = FrameType.gossipPull
      · rw [if_pos gossip, gossip_answerable env frame value state gossip]
        cases on : env.experimental with
        | false => exact iff_of_true ((write_frame_one env _ _ state).mpr (surface_disabled_fits env)) (by simp)
        | true =>
            cases configured : env.configured with
            | false => exact iff_of_true ((write_frame_one env _ _ state).mpr (no_engine_fits env)) (by simp)
            | true => simpa using write_result_one env FrameType.gossipAck (gossipCall env value state)
      rw [if_neg gossip]
      by_cases causal : frame.frameType = FrameType.causalSync
      · rw [if_pos causal, causal_answerable env frame value state causal]
        cases configured : env.configured with
        | false => exact iff_of_true ((write_frame_one env _ _ state).mpr (no_engine_fits env)) (by simp)
        | true => simpa using write_result_one env FrameType.causalSync (causalCall env value state)
      rw [if_neg causal]
      by_cases packet : frame.frameType = FrameType.packet
      · rw [if_pos packet, packet_answerable env frame value state packet]
        cases configured : env.configured with
        | false => exact iff_of_true ((write_frame_one env _ _ state).mpr (no_engine_fits env)) (by simp)
        | true =>
            cases value with
            | obj fields => simpa using write_result_one env FrameType.response (packetCall env fields state)
            | _ =>
                refine iff_of_false ?_ (by simp)
                rintro ⟨returned, -⟩
                contradiction
      · rw [if_neg packet]
        refine iff_of_false ?_ ?_
        · rintro ⟨-, reply, written⟩
          contradiction
        · intro answerable
          have served := answerable.served
          simp [servedTypes, opens, closes, causal, packet, not_or.mp gossip] at served

theorem serve_frame_unusable (frame : BinaryFrame) (state : ServerState ω) (unusable : Unusable env frame) :
    ∀ reply ∈ (serveFrame env frame state).replies, reply.frameType = FrameType.error := by
  rw [serveFrame]
  cases loaded : loadPayload env frame.payload with
  | none => exact write_frame_type env _ _ state
  | some value =>
      obtain ⟨packet, noObject⟩ := unusable value loaded
      simp only [packet]
      rw [if_neg (by decide), if_neg (by decide), if_neg (by decide), if_neg (by decide), if_pos trivial]
      cases configured : env.configured with
      | false =>
          simp only [Bool.not_false, if_true]
          exact write_frame_type env _ _ state
      | true =>
          intro reply member
          cases value with
          | obj fields => exact absurd rfl (noObject fields)
          | _ => simp at member

theorem serve_frame_answered (frame : BinaryFrame) (state : ServerState ω) :
    ((serveFrame env frame state).raised = none ∧ AnsweredBy env frame (serveFrame env frame state).replies) ↔
      ∀ value, loadPayload env frame.payload = some value → Answerable env frame value state := by
  rw [← serve_frame_one]
  constructor
  · rintro ⟨returned, reply, written, -⟩
    exact ⟨returned, reply, written⟩
  · rintro ⟨returned, reply, written⟩
    refine ⟨returned, reply, written, ?_⟩
    intro unusable
    exact serve_frame_unusable env frame state unusable reply (written ▸ List.mem_singleton_self reply)

-- The loop over frames instead of bytes.
def serveAll : List BinaryFrame → ServerState ω → BinaryRun ω
  | [], state => { replies := [], state }
  | frame :: rest, state =>
      let served := serveFrame env frame state
      match served.raised with
      | some raised => { replies := [served.replies], raised := some raised, state := served.state }
      | none =>
          let run := serveAll rest served.state
          { run with replies := served.replies :: run.replies }

theorem binary_loop_frames (frames : List BinaryFrame)
    (small : ∀ frame ∈ frames, frame.payload.length < lengthBound) (fuel : Nat) (enough : frames.length < fuel)
    (state : ServerState ω) :
    binaryLoop env fuel (frames.flatMap BinaryFrame.wire) state = some (serveAll env frames state) := by
  induction frames generalizing fuel state with
  | nil =>
      obtain ⟨fuel, rfl⟩ := Nat.exists_eq_add_one_of_ne_zero (Nat.ne_of_gt enough)
      rfl
  | cons frame rest ih =>
      obtain ⟨fuel, rfl⟩ := Nat.exists_eq_add_one_of_ne_zero (Nat.ne_of_gt (Nat.zero_lt_of_lt enough))
      obtain ⟨first, later⟩ := List.forall_mem_cons.mp small
      rw [List.flatMap_cons, binaryLoop, decode_wire frame first]
      simp only [serveAll]
      cases raised : (serveFrame env frame state).raised with
      | some own => rfl
      | none =>
          rw [ih later fuel (Nat.lt_of_succ_lt_succ enough)]
          rfl

theorem frames_length (frames : List BinaryFrame) : frames.length ≤ (frames.flatMap BinaryFrame.wire).length := by
  induction frames with
  | nil => exact Nat.le_refl 0
  | cons frame rest ih =>
      rw [List.flatMap_cons, List.length_append, wire_length, List.length_cons]
      omega

def EachAnswerable : List BinaryFrame → ServerState ω → Prop
  | [], _ => True
  | frame :: rest, state =>
      (∀ value, loadPayload env frame.payload = some value → Answerable env frame value state) ∧
        EachAnswerable rest (serveFrame env frame state).state

theorem serve_all_answered (frames : List BinaryFrame) (state : ServerState ω) :
    ((serveAll env frames state).raised = none ∧
      List.Forall₂ (AnsweredBy env) frames (serveAll env frames state).replies) ↔ EachAnswerable env frames state := by
  induction frames generalizing state with
  | nil => exact iff_of_true ⟨rfl, .nil⟩ trivial
  | cons frame rest ih =>
      rw [EachAnswerable, ← serve_frame_answered, ← ih, serveAll]
      cases raised : (serveFrame env frame state).raised with
      | some own => simp
      | none => simp [and_left_comm]

theorem binary_server_answers_iff (frames : List BinaryFrame)
    (small : ∀ frame ∈ frames, frame.payload.length < lengthBound) (state : ServerState ω) :
    (∃ run, runBinary env (frames.flatMap BinaryFrame.wire) state = some run ∧ run.raised = none ∧
      List.Forall₂ (AnsweredBy env) frames run.replies) ↔ EachAnswerable env frames state := by
  rw [runBinary, binary_loop_frames env frames small _ (Nat.lt_succ_of_le (frames_length frames)),
    ← serve_all_answered]
  simp only [Option.some.injEq, exists_eq_left']

end Answers

def quietTools : Tools Unit where
  platform := zeroPlatform
  toolCast := fun _ _ _ _ _ _ world => (.ok .null, world)
  toolFluidCast := fun _ _ _ _ world => (.ok .null, world)
  toolGeometricCast := fun _ _ _ _ world => (.ok .null, world)

def probeServer : ServerEnv Unit where
  toGatewayEnv := probeEnv
  jsonLoads := fun text => loads readPlainFloat text.toList
  sessionTools := quietTools
  toolGossipSync := fun _ world => (.ok .null, world)
  toolAddCausalEdge := fun _ world => (.ok .null, world)

-- A payload that is not UTF-8, and one that opens a session.
def sessionFrames : List BinaryFrame :=
  [{ frameType := FrameType.sessionOpen, payload := [255] },
    { frameType := FrameType.sessionOpen, payload := [123, 125] }]

theorem binary_server_answers_session :
    ∃ run, runBinary probeServer (sessionFrames.flatMap BinaryFrame.wire) { world := () } = some run ∧
      run.raised = none ∧ List.Forall₂ (AnsweredBy probeServer) sessionFrames run.replies := by
  apply (binary_server_answers_iff probeServer sessionFrames (by decide) { world := () }).mpr
  refine ⟨?_, ?_, trivial⟩
  · intro value _
    exact session_answerable probeServer _ value _ (Or.inl rfl)
  · intro value _
    exact session_answerable probeServer _ value _ (Or.inl rfl)

def unknownFrame : BinaryFrame where
  frameType := 99
  payload := [123, 125]

-- A packet that carries a list, and an opening that is never read.
def listPacket : List BinaryFrame :=
  [{ frameType := FrameType.packet, payload := [91, 93] },
    { frameType := FrameType.sessionOpen, payload := [123, 125] }]

-- A frame of an unknown type is passed over, and a packet that is not an object
-- ends the loop with the frames after it unread.
theorem frames_unanswered :
    ((runBinary probeServer ([unknownFrame].flatMap BinaryFrame.wire) { world := () }).map fun run =>
        (run.replies, run.raised)) = some ([[]], none) ∧
    ((runBinary probeServer (listPacket.flatMap BinaryFrame.wire) { world := () }).map fun run =>
        (run.replies, run.raised)) =
      some ([[]], some (.attributeError "'list' object has no attribute 'get'")) ∧
    ¬ ∀ frames : List BinaryFrame, (∀ frame ∈ frames, frame.payload.length < lengthBound) →
      ∃ run, runBinary probeServer (frames.flatMap BinaryFrame.wire) { world := () } = some run ∧
        run.raised = none ∧ List.Forall₂ (AnsweredBy probeServer) frames run.replies := by
  have silent : ((runBinary probeServer ([unknownFrame].flatMap BinaryFrame.wire) { world := () }).map fun run =>
      (run.replies, run.raised)) = some ([[]], none) := by decide +kernel
  refine ⟨silent, by decide +kernel, ?_⟩
  intro answers
  obtain ⟨run, ran, -, answered⟩ := answers [unknownFrame] (by decide)
  rw [ran, Option.map_some, Option.some.injEq, Prod.mk.injEq] at silent
  rw [silent.1, List.forall₂_cons] at answered
  obtain ⟨⟨reply, written, -⟩, -⟩ := answered
  contradiction

end Vermyth
