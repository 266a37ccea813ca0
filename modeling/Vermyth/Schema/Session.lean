import Vermyth.Schema.Value

set_option autoImplicit false

namespace Vermyth

inductive SessionTransport where
  | jsonrpc
  | binary
deriving DecidableEq, Repr

-- SessionTransport[name]
def SessionTransport.named (name : String) : Except PyError SessionTransport :=
  if name = "JSONRPC" then .ok .jsonrpc
  else if name = "BINARY" then .ok .binary
  else .error (.keyError name)

inductive ProofScheme where
  | hash
  | signed
deriving DecidableEq, Repr

inductive SessionStatus where
  | opened
  | closed
  | revoked
deriving DecidableEq, Repr

-- A pydantic ValidationError is a ValueError. Its text is cut down to the
-- model and the first field at fault.
def invalid (model field : String) : PyError := .valueError (model ++ "." ++ field)

structure PeerIdentity where
  peerId : String
  keyId : String
  scheme : ProofScheme
  publicMaterialRef : Option String := none
  peerIdLength : 1 ≤ peerId.length ∧ peerId.length ≤ 200
  keyIdLength : 1 ≤ keyId.length ∧ keyId.length ≤ 200

def PeerIdentity.make (peerId keyId : String) (scheme : ProofScheme) : Except PyError PeerIdentity :=
  if peerIdLength : 1 ≤ peerId.length ∧ peerId.length ≤ 200 then
    if keyIdLength : 1 ≤ keyId.length ∧ keyId.length ≤ 200 then
      .ok { peerId := peerId, keyId := keyId, scheme := scheme, peerIdLength := peerIdLength,
            keyIdLength := keyIdLength }
    else .error (invalid "PeerIdentity" "key_id")
  else .error (invalid "PeerIdentity" "peer_id")

structure NegotiatedCapabilities where
  codecVersion : Nat
  aspectDimensionality : Nat
  proofScheme : ProofScheme
  supportsBinary : Bool := true
  supportsReplayGuard : Bool := true
  allowedTools : Option (List String) := none
  maxPacketBytes : Option Nat := none
  codecVersionPos : 1 ≤ codecVersion
  atLeastSix : 6 ≤ aspectDimensionality
  maxPacketBytesPos : ∀ limit ∈ maxPacketBytes, 1 ≤ limit

-- ProofScheme(value)
def ProofScheme.valued (value : String) : Except PyError ProofScheme :=
  if value = "HASH" then .ok .hash
  else if value = "SIGNED" then .ok .signed
  else .error (invalid "NegotiatedCapabilities" "proof_scheme")

def NegotiatedCapabilities.make (codecVersion aspectDimensionality : Int) (proofScheme : String)
    (supportsBinary : Bool) (maxPacketBytes : Option Int) : Except PyError NegotiatedCapabilities :=
  if codecVersionPos : 1 ≤ codecVersion.toNat then
    if atLeastSix : 6 ≤ aspectDimensionality.toNat then
      match ProofScheme.valued proofScheme with
      | .error raised => .error raised
      | .ok scheme =>
          if maxPacketBytesPos : ∀ limit ∈ maxPacketBytes.map Int.toNat, 1 ≤ limit then
            .ok { codecVersion := codecVersion.toNat, aspectDimensionality := aspectDimensionality.toNat,
                  proofScheme := scheme, supportsBinary := supportsBinary,
                  maxPacketBytes := maxPacketBytes.map Int.toNat, codecVersionPos := codecVersionPos,
                  atLeastSix := atLeastSix, maxPacketBytesPos := maxPacketBytesPos }
          else .error (invalid "NegotiatedCapabilities" "max_packet_bytes")
    else .error (invalid "NegotiatedCapabilities" "aspect_dimensionality")
  else .error (invalid "NegotiatedCapabilities" "codec_version")

structure SessionRecord where
  sessionId : String
  status : SessionStatus := .opened
  transport : SessionTransport
  localIdentity : PeerIdentity
  remoteIdentity : PeerIdentity
  capabilities : NegotiatedCapabilities
  lastSequence : Nat := 0
  anchorCastId : Option String := none
  channelBranchId : Option String := none

structure RawPacket where
  sessionId : String
  sequence : Int
  packetType : String
  payloadHash : String
  payload : List (String × Json)
  proof : String

structure CanonicalPacketV2 where
  sessionId : String
  sequence : Nat
  packetType : String
  payloadHash : String
  payload : List (String × Json)
  proof : String
  sequencePos : 1 ≤ sequence
  packetTypeLength : 1 ≤ packetType.length ∧ packetType.length ≤ 50
  payloadHashLength : payloadHash.length = 64
  proofLength : 1 ≤ proof.length ∧ proof.length ≤ 2048

def CanonicalPacketV2.modelValidate (raw : RawPacket) : Except PyError CanonicalPacketV2 :=
  if sequencePos : 1 ≤ raw.sequence.toNat then
    if packetTypeLength : 1 ≤ raw.packetType.length ∧ raw.packetType.length ≤ 50 then
      if payloadHashLength : raw.payloadHash.length = 64 then
        if proofLength : 1 ≤ raw.proof.length ∧ raw.proof.length ≤ 2048 then
          .ok { sessionId := raw.sessionId, sequence := raw.sequence.toNat, packetType := raw.packetType,
                payloadHash := raw.payloadHash, payload := raw.payload, proof := raw.proof,
                sequencePos := sequencePos, packetTypeLength := packetTypeLength,
                payloadHashLength := payloadHashLength, proofLength := proofLength }
        else .error (invalid "CanonicalPacketV2" "proof")
      else .error (invalid "CanonicalPacketV2" "payload_hash")
    else .error (invalid "CanonicalPacketV2" "packet_type")
  else .error (invalid "CanonicalPacketV2" "sequence")

def CanonicalPacketV2.modelDump (packet : CanonicalPacketV2) : RawPacket where
  sessionId := packet.sessionId
  sequence := packet.sequence
  packetType := packet.packetType
  payloadHash := packet.payloadHash
  payload := packet.payload
  proof := packet.proof

theorem model_validate_dump (packet : CanonicalPacketV2) :
    CanonicalPacketV2.modelValidate packet.modelDump = .ok packet := by
  simp [CanonicalPacketV2.modelValidate, CanonicalPacketV2.modelDump, packet.sequencePos,
    packet.packetTypeLength, packet.payloadHashLength, packet.proofLength]

theorem dump_model_validate (raw : RawPacket) (packet : CanonicalPacketV2)
    (valid : CanonicalPacketV2.modelValidate raw = .ok packet) : packet.modelDump = raw := by
  simp only [CanonicalPacketV2.modelValidate] at valid
  split_ifs at valid with sequencePos
  obtain rfl := Except.ok.inj valid
  simp only [CanonicalPacketV2.modelDump]
  rw [show ((raw.sequence.toNat : Nat) : Int) = raw.sequence by omega]

theorem model_validate_ok (raw : RawPacket) (sequencePos : 1 ≤ raw.sequence)
    (packetTypeLength : 1 ≤ raw.packetType.length ∧ raw.packetType.length ≤ 50)
    (payloadHashLength : raw.payloadHash.length = 64) (proofLength : 1 ≤ raw.proof.length ∧ raw.proof.length ≤ 2048) :
    ∃ packet, CanonicalPacketV2.modelValidate raw = .ok packet := by
  have above : 1 ≤ raw.sequence.toNat := by omega
  simp only [CanonicalPacketV2.modelValidate, dif_pos above, dif_pos packetTypeLength, dif_pos payloadHashLength,
    dif_pos proofLength]
  exact ⟨_, rfl⟩

structure CanonicalResponseV2 where
  sessionId : String
  sequence : Nat
  payloadHash : String
  accepted : Bool
  proof : String
  sequencePos : 1 ≤ sequence
  payloadHashLength : payloadHash.length = 64
  proofLength : 1 ≤ proof.length ∧ proof.length ≤ 2048

-- The primary key (session_id, sequence) of both logs.
abbrev PacketKey := String × Nat

def CanonicalPacketV2.key (packet : CanonicalPacketV2) : PacketKey := (packet.sessionId, packet.sequence)
def CanonicalResponseV2.key (response : CanonicalResponseV2) : PacketKey := (response.sessionId, response.sequence)

end Vermyth
