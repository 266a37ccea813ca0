import Vermyth.Foundation.Base64
import Vermyth.Protocol.CanonicalJson
import Vermyth.Schema.Session

set_option autoImplicit false

namespace Vermyth

-- hashlib, hmac, base64 and float printing. Messages are the UTF-8 encoding
-- of canonical JSON, so they are given as text.
structure Platform where
  floatRepr : ℚ → String
  sha256Hex : String → String
  hmacSha256 : List UInt8 → String → List UInt8
  b64encode : List UInt8 → String
  b64decode : String → Option (List UInt8)
  digestLength : ∀ message, (sha256Hex message).length = 64
  signatureLength : ∀ secret message, (b64encode (hmacSha256 secret message)).length = 44

-- What base64 (a text decodes to as many bytes as its groups hold) and
-- HMAC-SHA256 do beyond the lengths above.
structure Platform.Standard (platform : Platform) : Prop where
  b64RoundTrip : ∀ bytes, platform.b64decode (platform.b64encode bytes) = some bytes
  b64Length : ∀ text bytes, platform.b64decode text = some bytes → 3 * text.length ≤ 4 * bytes.length + 8
  macLength : ∀ secret message, (platform.hmacSha256 secret message).length = 32

def Platform.over (floatRepr : ℚ → String) (sha256Hex : String → String)
    (hmacSha256 : List UInt8 → String → List UInt8) (digestLength : ∀ message, (sha256Hex message).length = 64)
    (macLength : ∀ secret message, (hmacSha256 secret message).length = 32) : Platform where
  floatRepr := floatRepr
  sha256Hex := sha256Hex
  hmacSha256 := hmacSha256
  b64encode := fun bytes => String.ofList (Foundation.Base64.encode bytes)
  b64decode := fun text => Foundation.Base64.decode text.toList
  digestLength := digestLength
  signatureLength := by
    intro secret message
    rw [String.length_ofList, Foundation.Base64.encode_length, macLength]

theorem over_standard (floatRepr : ℚ → String) (sha256Hex : String → String)
    (hmacSha256 : List UInt8 → String → List UInt8) (digestLength : ∀ message, (sha256Hex message).length = 64)
    (macLength : ∀ secret message, (hmacSha256 secret message).length = 32) :
    (Platform.over floatRepr sha256Hex hmacSha256 digestLength macLength).Standard where
  b64RoundTrip := by
    intro bytes
    simp only [Platform.over, String.toList_ofList, Foundation.Base64.decode_encode]
  b64Length := by
    intro text bytes decoded
    rw [← String.length_toList]
    exact Foundation.Base64.decode_length text.toList bytes decoded
  macLength := macLength

theorem zero_digest_length (_ : String) : (String.ofList (List.replicate 64 '0')).length = 64 := by
  rw [String.length_ofList, List.length_replicate]

theorem zero_mac_length (_ : List UInt8) (_ : String) : (List.replicate 32 (0 : UInt8)).length = 32 :=
  List.length_replicate

-- hexdigest()
def hexBytes (bytes : List UInt8) : String :=
  String.ofList (bytes.flatMap fun byte => [hexDigit (byte.toNat / 16), hexDigit (byte.toNat % 16)])

theorem hex_digit_injective (a b : Nat) (smallA : a < 16) (smallB : b < 16) (same : hexDigit a = hexDigit b) :
    a = b := by
  have all : ∀ a < 16, ∀ b < 16, hexDigit a = hexDigit b → a = b := by decide
  exact all a smallA b smallB same

theorem hex_bytes_injective (a b : List UInt8) (same : hexBytes a = hexBytes b) : a = b := by
  have chars := String.ofList_injective same
  clear same
  induction a generalizing b with
  | nil =>
      cases b with
      | nil => rfl
      | cons byte rest => simp at chars
  | cons byte rest ih =>
      cases b with
      | nil => simp at chars
      | cons other more =>
          have bound := byte.toNat_lt
          have otherBound := other.toNat_lt
          simp only [List.flatMap_cons, List.cons_append, List.nil_append, List.cons.injEq] at chars
          obtain ⟨high, low, tail⟩ := chars
          have highs := hex_digit_injective _ _ (by omega) (by omega) high
          have lows := hex_digit_injective _ _ (by omega) (by omega) low
          rw [ih more tail, UInt8.toNat_inj.mp (show byte.toNat = other.toNat by omega)]

structure SessionKeys where
  keyId : String
  secret : List UInt8

def signHmacSha256 (platform : Platform) (secret : List UInt8) (message : String) : String :=
  platform.b64encode (platform.hmacSha256 secret message)

def verifyHmacSha256 (platform : Platform) (secret : List UInt8) (message signature : String) : Bool :=
  platform.b64decode signature == some (platform.hmacSha256 secret message)

def makePacketPayloadHash (platform : Platform) (payload : List (String × Json)) : String :=
  platform.sha256Hex (canonicalJson platform.floatRepr (.obj payload))

def packetProofInput (platform : Platform) (sessionId : String) (sequence : Int)
    (packetType payloadHash : String) : String :=
  canonicalJson platform.floatRepr (.obj [("session_id", .str sessionId), ("sequence", .int sequence),
    ("packet_type", .str packetType), ("payload_hash", .str payloadHash)])

def makePacketProof (platform : Platform) (sessionId : String) (sequence : Int) (packetType payloadHash : String)
    (scheme : ProofScheme) (keys : Option SessionKeys) : Except PyError String :=
  let proofInput := packetProofInput platform sessionId sequence packetType payloadHash
  match scheme with
  | .hash => .ok (platform.sha256Hex proofInput)
  | .signed =>
      match keys with
      | none => .error (.valueError "SIGNED proof requires SessionKeys")
      | some keys => .ok (signHmacSha256 platform keys.secret proofInput)

def verifyPacketProof (platform : Platform) (packet : CanonicalPacketV2) (scheme : ProofScheme)
    (keys : Option SessionKeys) : Bool :=
  if packet.payloadHash ≠ makePacketPayloadHash platform packet.payload then false
  else
    let proofInput := packetProofInput platform packet.sessionId packet.sequence packet.packetType packet.payloadHash
    match scheme with
    | .hash => packet.proof == platform.sha256Hex proofInput
    | .signed =>
        match keys with
        | none => false
        | some keys => verifyHmacSha256 platform keys.secret proofInput packet.proof

def encodePacket (platform : Platform) (sessionId : String) (sequence : Int) (packetType : String)
    (payload : List (String × Json)) (capabilities : NegotiatedCapabilities) (keys : Option SessionKeys) :
    Except PyError CanonicalPacketV2 :=
  let payloadHash := makePacketPayloadHash platform payload
  match makePacketProof platform sessionId sequence packetType payloadHash capabilities.proofScheme keys with
  | .error raised => .error raised
  | .ok proof => CanonicalPacketV2.modelValidate
      { sessionId := sessionId, sequence := sequence, packetType := packetType, payloadHash := payloadHash,
        payload := payload, proof := proof }

theorem make_packet_proof_length (platform : Platform) (sessionId : String) (sequence : Int)
    (packetType payloadHash : String) (scheme : ProofScheme) (keys : Option SessionKeys) (proof : String)
    (made : makePacketProof platform sessionId sequence packetType payloadHash scheme keys = .ok proof) :
    1 ≤ proof.length ∧ proof.length ≤ 2048 := by
  cases scheme with
  | hash =>
      rw [← Except.ok.inj made, platform.digestLength]
      decide
  | signed =>
      cases keys with
      | none => simp [makePacketProof] at made
      | some keys =>
          rw [← Except.ok.inj made, signHmacSha256, platform.signatureLength]
          decide

theorem make_packet_proof_exists (platform : Platform) (sessionId : String) (sequence : Int)
    (packetType payloadHash : String) (scheme : ProofScheme) (keys : Option SessionKeys)
    (signable : scheme = .hash ∨ keys.isSome) :
    ∃ proof, makePacketProof platform sessionId sequence packetType payloadHash scheme keys = .ok proof := by
  cases scheme with
  | hash => exact ⟨_, rfl⟩
  | signed =>
      cases keys with
      | none => simp at signable
      | some keys => exact ⟨_, rfl⟩

theorem encode_packet_ok (platform : Platform) (sessionId : String) (sequence : Int) (packetType : String)
    (payload : List (String × Json)) (capabilities : NegotiatedCapabilities) (keys : Option SessionKeys)
    (packet : CanonicalPacketV2)
    (ok : encodePacket platform sessionId sequence packetType payload capabilities keys = .ok packet) :
    packet.modelDump = RawPacket.mk sessionId sequence packetType (makePacketPayloadHash platform payload) payload
        packet.proof ∧
      makePacketProof platform sessionId sequence packetType (makePacketPayloadHash platform payload)
        capabilities.proofScheme keys = .ok packet.proof := by
  simp only [encodePacket] at ok
  cases made : makePacketProof platform sessionId sequence packetType (makePacketPayloadHash platform payload)
      capabilities.proofScheme keys with
  | error raised => simp [made] at ok
  | ok proof =>
      simp only [made] at ok
      have dump := dump_model_validate _ packet ok
      have same : packet.proof = proof := congrArg RawPacket.proof dump
      exact ⟨same ▸ dump, congrArg Except.ok same.symm⟩

theorem encode_packet_exists (platform : Platform) (sessionId : String) (sequence : Int) (packetType : String)
    (payload : List (String × Json)) (capabilities : NegotiatedCapabilities) (keys : Option SessionKeys)
    (sequencePos : 1 ≤ sequence) (packetTypeLength : 1 ≤ packetType.length ∧ packetType.length ≤ 50)
    (signable : capabilities.proofScheme = .hash ∨ keys.isSome) :
    ∃ packet, encodePacket platform sessionId sequence packetType payload capabilities keys = .ok packet := by
  obtain ⟨proof, made⟩ := make_packet_proof_exists platform sessionId sequence packetType
    (makePacketPayloadHash platform payload) capabilities.proofScheme keys signable
  simp only [encodePacket, made]
  exact model_validate_ok _ sequencePos packetTypeLength (platform.digestLength _)
    (make_packet_proof_length platform sessionId sequence packetType _ capabilities.proofScheme keys proof made)

theorem verify_signed (platform : Platform) (standard : platform.Standard) (secret : List UInt8)
    (message signed : String) :
    verifyHmacSha256 platform secret message (signHmacSha256 platform secret signed) = true ↔
      platform.hmacSha256 secret signed = platform.hmacSha256 secret message := by
  simp [verifyHmacSha256, signHmacSha256, standard.b64RoundTrip]

theorem encode_verified (platform : Platform) (standard : platform.Standard) (sessionId : String) (sequence : Int)
    (packetType : String) (payload : List (String × Json)) (capabilities : NegotiatedCapabilities)
    (keys : Option SessionKeys) (packet : CanonicalPacketV2)
    (ok : encodePacket platform sessionId sequence packetType payload capabilities keys = .ok packet) :
    verifyPacketProof platform packet capabilities.proofScheme keys = true := by
  obtain ⟨dump, made⟩ := encode_packet_ok platform sessionId sequence packetType payload capabilities keys packet ok
  obtain ⟨rfl, rfl, rfl, hashed, rfl, -⟩ := RawPacket.mk.inj dump
  rw [← hashed] at made
  rw [verifyPacketProof, if_neg (not_not.mpr hashed)]
  cases scheme : capabilities.proofScheme with
  | hash =>
      rw [scheme] at made
      exact beq_iff_eq.mpr (Except.ok.inj made).symm
  | signed =>
      rw [scheme] at made
      cases keys with
      | none => simp [makePacketProof] at made
      | some keys =>
          dsimp only
          rw [← Except.ok.inj made]
          exact (verify_signed platform standard keys.secret _ _).mpr rfl

def responseProofInput (platform : Platform) (packet : CanonicalPacketV2) (accepted : Bool) : String :=
  canonicalJson platform.floatRepr (.obj [("session_id", .str packet.sessionId), ("sequence", .int packet.sequence),
    ("payload_hash", .str packet.payloadHash), ("accepted", .bool accepted)])

-- The code passes the packet's session_id, sequence and payload_hash one by
-- one.
def encodeResponse (platform : Platform) (packet : CanonicalPacketV2) (accepted : Bool)
    (capabilities : NegotiatedCapabilities) (keys : Option SessionKeys) : Except PyError CanonicalResponseV2 :=
  let proofInput := responseProofInput platform packet accepted
  let response (proof : String) (proofLength : 1 ≤ proof.length ∧ proof.length ≤ 2048) : CanonicalResponseV2 :=
    { sessionId := packet.sessionId, sequence := packet.sequence, payloadHash := packet.payloadHash,
      accepted := accepted, proof := proof, sequencePos := packet.sequencePos,
      payloadHashLength := packet.payloadHashLength, proofLength := proofLength }
  match capabilities.proofScheme with
  | .hash => .ok (response (platform.sha256Hex proofInput) (by rw [platform.digestLength]; decide))
  | .signed =>
      match keys with
      | none => .error (.valueError "SIGNED response requires SessionKeys")
      | some keys => .ok (response (signHmacSha256 platform keys.secret proofInput)
          (by rw [signHmacSha256, platform.signatureLength]; decide))

theorem encode_response_key (platform : Platform) (packet : CanonicalPacketV2) (accepted : Bool)
    (capabilities : NegotiatedCapabilities) (keys : Option SessionKeys) (response : CanonicalResponseV2)
    (ok : encodeResponse platform packet accepted capabilities keys = .ok response) :
    response.key = packet.key := by
  simp only [encodeResponse] at ok
  cases scheme : capabilities.proofScheme with
  | hash =>
      simp only [scheme, Except.ok.injEq] at ok
      exact ok ▸ rfl
  | signed =>
      cases keys with
      | none => simp [scheme] at ok
      | some keys =>
          simp only [scheme, Except.ok.injEq] at ok
          exact ok ▸ rfl

-- A packet whose proof verified is answered: the keys are there.
theorem encode_response_verified (platform : Platform) (packet : CanonicalPacketV2) (accepted : Bool)
    (capabilities : NegotiatedCapabilities) (keys : Option SessionKeys)
    (verified : verifyPacketProof platform packet capabilities.proofScheme keys = true) :
    ∃ response, encodeResponse platform packet accepted capabilities keys = .ok response := by
  simp only [encodeResponse]
  cases scheme : capabilities.proofScheme with
  | hash => exact ⟨_, rfl⟩
  | signed =>
      cases keys with
      | none => simp [verifyPacketProof, scheme] at verified
      | some keys => exact ⟨_, rfl⟩

def responseInput (platform : Platform) (sessionId : String) (sequence : Int) (payloadHash : String)
    (accepted : Bool) : String :=
  canonicalJson platform.floatRepr (.obj [("session_id", .str sessionId), ("sequence", .int sequence),
    ("payload_hash", .str payloadHash), ("accepted", .bool accepted)])

def verifyResponse (platform : Platform) (response : CanonicalResponseV2) (accepted : Bool) (scheme : ProofScheme)
    (keys : Option SessionKeys) : Bool :=
  let proofInput := responseInput platform response.sessionId response.sequence response.payloadHash accepted
  match scheme with
  | .hash => response.proof == platform.sha256Hex proofInput
  | .signed =>
      match keys with
      | none => false
      | some keys => verifyHmacSha256 platform keys.secret proofInput response.proof

end Vermyth
