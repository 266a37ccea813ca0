import Vermyth.Session.Store

set_option autoImplicit false

namespace Vermyth

open Foundation

variable {ω : Type}

-- The cast tools a packet can call, on the store outside the session tables.
structure Tools (ω : Type) where
  platform : Platform
  toolCast (aspects intent parentCastId branchId : Json) (chained force : Bool) : ω → Except PyError Json × ω
  toolFluidCast (vector intent parentCastId branchId : Json) : ω → Except PyError Json × ω
  toolGeometricCast (payload : Json) (version : Int) (branchId : Json) (force : Bool) : ω → Except PyError Json × ω

-- payload.get(key, default)
def payloadGet (payload : List (String × Json)) (key : String) (default : Json) : Json :=
  (payload.lookup key).getD default

abbrev Handler (ω : Type) := List (String × Json) → ω → Except PyError Json × ω

def binaryCast (tools : Tools ω) : Handler ω := fun payload =>
  tools.toolCast (payloadGet payload "aspects" (.arr [])) (payloadGet payload "intent" (.obj []))
    (payloadGet payload "parent_cast_id" .null) (payloadGet payload "branch_id" .null)
    (payloadGet payload "chained" (.bool false)).truthy (payloadGet payload "force" (.bool false)).truthy

def binaryFluidCast (tools : Tools ω) : Handler ω := fun payload =>
  tools.toolFluidCast (payloadGet payload "vector" (.arr [])) (payloadGet payload "intent" (.obj []))
    (payloadGet payload "parent_cast_id" .null) (payloadGet payload "branch_id" .null)

def binaryGeometricCast (tools : Tools ω) : Handler ω := fun payload world =>
  match pyInt (payloadGet payload "version" (.int 1)) with
  | .error raised => (.error raised, world)
  | .ok version => tools.toolGeometricCast (payloadGet payload "payload" (.arr [])) version
      (payloadGet payload "branch_id" .null) (payloadGet payload "force" (.bool false)).truthy world

def binaryDispatch (tools : Tools ω) : List (String × Handler ω) :=
  [("cast", binaryCast tools), ("fluid_cast", binaryFluidCast tools), ("geometric_cast", binaryGeometricCast tools)]

def cachedKeys (session : SessionRecord) (sessionId : String) (state : SessionState ω) : Option SessionKeys :=
  match session.capabilities.proofScheme with
  | .signed => state.keyCache sessionId
  | .hash => none

structure OpenRequest where
  transport : String
  localPeerId : String
  localKeyId : String
  remotePeerId : String
  remoteKeyId : String
  codecVersion : Int := 2
  proofScheme : String := "SIGNED"
  aspectDimensionality : Int := 6
  maxPacketBytes : Option Int := none
  channelBranchId : Option String := none
  anchorCastId : Option String := none
  signingSecret : Option (List UInt8) := none

def OpenRequest.record (request : OpenRequest) (sessionId : String) : Except PyError SessionRecord := do
  let caps ← NegotiatedCapabilities.make request.codecVersion request.aspectDimensionality request.proofScheme
    (request.transport == "BINARY") request.maxPacketBytes
  let localIdentity ← PeerIdentity.make request.localPeerId request.localKeyId caps.proofScheme
  let remoteIdentity ← PeerIdentity.make request.remotePeerId request.remoteKeyId caps.proofScheme
  let transport ← SessionTransport.named request.transport
  return { sessionId := sessionId, transport := transport, localIdentity := localIdentity,
           remoteIdentity := remoteIdentity, capabilities := caps, anchorCastId := request.anchorCastId,
           channelBranchId := request.channelBranchId }

-- session_open, with the identifier its record draws.
def sessionOpen (sessionId : String) (request : OpenRequest) (state : SessionState ω) :
    Except PyError SessionRecord × SessionState ω :=
  match request.record sessionId with
  | .error raised => (.error raised, state)
  | .ok session =>
      let state := writeSession session state
      match request.signingSecret with
      | none => (.ok session, state)
      | some secret =>
          let keys : SessionKeys := { keyId := request.localKeyId, secret := secret }
          (.ok session, { state with keyCache := Function.update state.keyCache sessionId (some keys) })

-- session_apply_packet up to the advance of the sequence.
def admitPacket (tools : Tools ω) (raw : RawPacket) (state : SessionState ω) :
    Except PyError (CanonicalPacketV2 × SessionRecord) × SessionState ω :=
  match CanonicalPacketV2.modelValidate raw with
  | .error raised => (.error raised, state)
  | .ok packet =>
      match readSession packet.sessionId state with
      | .error raised => (.error raised, state)
      | .ok session =>
          if packet.sequence ≤ session.lastSequence then
            (.error (.valueError "replay detected: sequence not increasing"), state)
          else if verifyPacketProof tools.platform packet session.capabilities.proofScheme
              (cachedKeys session packet.sessionId state) = false then
            (.error (.valueError "invalid packet proof"), state)
          else
            match writeSessionPacket packet state with
            | (.error raised, state) => (.error raised, state)
            | (.ok _, state) =>
                match advanceSessionSequence packet.sessionId packet.sequence state with
                | (.error raised, state) => (.error raised, state)
                | (.ok _, state) => (.ok (packet, session), state)

def dispatchPacket (tools : Tools ω) (packet : CanonicalPacketV2) (state : SessionState ω) :
    Except PyError (Bool × Json) × SessionState ω :=
  match (binaryDispatch tools).lookup packet.packetType with
  | none => (.ok (false, .obj [("error", .str ("unknown packet_type: " ++ packet.packetType))]), state)
  | some binaryHandler =>
      let called := binaryHandler packet.payload state.world
      let state := { state with world := called.2, invoked := state.invoked ++ [packet.key] }
      match called.1 with
      | .error raised => (.error raised, state)
      | .ok result => (.ok (true, result), state)

def respondPacket (tools : Tools ω) (packet : CanonicalPacketV2) (session : SessionRecord) (accepted : Bool)
    (state : SessionState ω) : Except PyError CanonicalResponseV2 × SessionState ω :=
  match encodeResponse tools.platform packet accepted session.capabilities
      (cachedKeys session packet.sessionId state) with
  | .error raised => (.error raised, state)
  | .ok response =>
      match writeSessionResponse response state with
      | (.error raised, state) => (.error raised, state)
      | (.ok _, state) => (.ok response, state)

structure AppliedPacket where
  accepted : Bool
  result : Json
  response : CanonicalResponseV2

def sessionApplyPacket (tools : Tools ω) (raw : RawPacket) (state : SessionState ω) :
    Except PyError AppliedPacket × SessionState ω :=
  match admitPacket tools raw state with
  | (.error raised, state) => (.error raised, state)
  | (.ok (packet, session), state) =>
      match dispatchPacket tools packet state with
      | (.error raised, state) => (.error raised, state)
      | (.ok (accepted, result), state) =>
          match respondPacket tools packet session accepted state with
          | (.error raised, state) => (.error raised, state)
          | (.ok response, state) => (.ok { accepted := accepted, result := result, response := response }, state)

def sessionCheckpoint (sessionId : String) (state : SessionState ω) : Except PyError Nat :=
  match readSession sessionId state with
  | .error raised => .error raised
  | .ok session => .ok session.lastSequence

def sessionRewindTo (sessionId : String) (sequence : Int) (state : SessionState ω) :
    Except PyError Int × SessionState ω :=
  match readSession sessionId state with
  | .error raised => (.error raised, state)
  | .ok session =>
      if sequence < 0 ∨ sequence > session.lastSequence then
        (.error (.valueError "invalid rewind sequence"), state)
      else (.ok sequence, writeSession { session with lastSequence := sequence.toNat } state)

-- Every packet is applied to what the ones before it left; the first to raise
-- ends the replay.
def applyAll (tools : Tools ω) : List RawPacket → SessionState ω → Except PyError (List AppliedPacket) × SessionState ω
  | [], state => (.ok [], state)
  | raw :: rest, state =>
      match sessionApplyPacket tools raw state with
      | (.error raised, state) => (.error raised, state)
      | (.ok applied, state) =>
          match applyAll tools rest state with
          | (.error raised, state) => (.error raised, state)
          | (.ok later, state) => (.ok (applied :: later), state)

def replayedPackets (sessionId : String) (sequence limit : Int) (state : SessionState ω) :
    Except PyError (List CanonicalPacketV2) :=
  match querySessionPackets sessionId limit state with
  | .error raised => .error raised
  | .ok packets => .ok (packets.filter fun packet => sequence < packet.sequence)

def sessionReplayFrom (tools : Tools ω) (sessionId : String) (sequence limit : Int) (state : SessionState ω) :
    Except PyError (List AppliedPacket) × SessionState ω :=
  match replayedPackets sessionId sequence limit state with
  | .error raised => (.error raised, state)
  | .ok packets => applyAll tools (packets.map CanonicalPacketV2.modelDump) state

-- session_fork, with the identifier its record draws. The signing keys stay
-- with the base session.
def sessionFork (forkedId sessionId : String) (fromSequence : Int) (newTransport : Option String)
    (state : SessionState ω) : Except PyError SessionRecord × SessionState ω :=
  match readSession sessionId state with
  | .error raised => (.error raised, state)
  | .ok base =>
      if fromSequence < 0 ∨ fromSequence > base.lastSequence then
        (.error (.valueError "invalid fork sequence"), state)
      else
        match newTransport.elim (.ok base.transport) SessionTransport.named with
        | .error raised => (.error raised, state)
        | .ok transport =>
            let forked : SessionRecord :=
              { sessionId := forkedId, transport := transport, localIdentity := base.localIdentity,
                remoteIdentity := base.remoteIdentity, capabilities := base.capabilities,
                anchorCastId := base.anchorCastId, channelBranchId := base.channelBranchId,
                lastSequence := fromSequence.toNat }
            (.ok forked, writeSession forked state)

def sessionEncodePacket (tools : Tools ω) (sessionId : String) (sequence : Int) (packetType : String)
    (payload : List (String × Json)) (state : SessionState ω) : Except PyError CanonicalPacketV2 :=
  match readSession sessionId state with
  | .error raised => .error raised
  | .ok session => encodePacket tools.platform sessionId sequence packetType payload session.capabilities
      (cachedKeys session sessionId state)

end Vermyth
