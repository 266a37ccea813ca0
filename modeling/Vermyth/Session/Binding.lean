import Mathlib.Data.Set.Function
import Vermyth.Protocol.JsonRoundTrip
import Vermyth.Session.Replay

set_option autoImplicit false

namespace Vermyth

open Foundation

def sealed (platform : Platform) (scheme : ProofScheme) (keys : Option SessionKeys) (message : String) :
    Option String :=
  match scheme, keys with
  | .hash, _ => some (platform.sha256Hex message)
  | .signed, none => none
  | .signed, some keys => some (signHmacSha256 platform keys.secret message)

def opens (platform : Platform) (scheme : ProofScheme) (keys : Option SessionKeys) (message proof : String) : Bool :=
  match scheme, keys with
  | .hash, _ => proof == platform.sha256Hex message
  | .signed, none => false
  | .signed, some keys => verifyHmacSha256 platform keys.secret message proof

-- SHA-256 and HMAC take the messages at hand to different values.
structure CollisionFree (platform : Platform) (keys : Option SessionKeys) (messages : Set String) : Prop where
  digests : Set.InjOn platform.sha256Hex messages
  macs : ∀ held ∈ keys, Set.InjOn (platform.hmacSha256 held.secret) messages

section Sealed

variable (platform : Platform) (keys : Option SessionKeys)

theorem make_packet_proof_sealed (sessionId : String) (sequence : Int) (packetType payloadHash : String)
    (scheme : ProofScheme) (proof : String)
    (made : makePacketProof platform sessionId sequence packetType payloadHash scheme keys = .ok proof) :
    sealed platform scheme keys (packetProofInput platform sessionId sequence packetType payloadHash) = some proof := by
  cases scheme with
  | hash => exact congrArg some (Except.ok.inj made)
  | signed =>
      cases keys with
      | none => simp [makePacketProof] at made
      | some keys => exact congrArg some (Except.ok.inj made)

theorem encode_response_ok (packet : CanonicalPacketV2) (accepted : Bool) (capabilities : NegotiatedCapabilities)
    (response : CanonicalResponseV2)
    (ok : encodeResponse platform packet accepted capabilities keys = .ok response) :
    sealed platform capabilities.proofScheme keys (responseProofInput platform packet accepted) =
        some response.proof ∧
      ∀ flag, responseInput platform response.sessionId response.sequence response.payloadHash flag =
        responseProofInput platform packet flag := by
  simp only [encodeResponse] at ok
  cases scheme : capabilities.proofScheme with
  | hash =>
      simp only [scheme, Except.ok.injEq] at ok
      subst ok
      exact ⟨rfl, fun _ => rfl⟩
  | signed =>
      cases keys with
      | none => simp [scheme] at ok
      | some keys =>
          simp only [scheme, Except.ok.injEq] at ok
          subst ok
          exact ⟨rfl, fun _ => rfl⟩

theorem verify_packet_opens (packet : CanonicalPacketV2) (scheme : ProofScheme)
    (verified : verifyPacketProof platform packet scheme keys = true) :
    packet.payloadHash = makePacketPayloadHash platform packet.payload ∧
      opens platform scheme keys (packetProofInput platform packet.sessionId packet.sequence packet.packetType
        packet.payloadHash) packet.proof = true := by
  rw [verifyPacketProof] at verified
  by_cases hashed : packet.payloadHash = makePacketPayloadHash platform packet.payload
  · rw [if_neg (not_not.mpr hashed)] at verified
    refine ⟨hashed, ?_⟩
    cases scheme with
    | hash => exact verified
    | signed => cases keys <;> exact verified
  · rw [if_pos hashed] at verified
    cases verified

theorem verify_response_opens (response : CanonicalResponseV2) (accepted : Bool) (scheme : ProofScheme) :
    verifyResponse platform response accepted scheme keys =
      opens platform scheme keys (responseInput platform response.sessionId response.sequence response.payloadHash
        accepted) response.proof := by
  cases scheme with
  | hash => rfl
  | signed => cases keys <;> rfl

-- A digest is no signature: it decodes to too many bytes.
theorem digest_not_signature (standard : platform.Standard) (secret : List UInt8) (message other : String) :
    verifyHmacSha256 platform secret message (platform.sha256Hex other) = false := by
  rw [Bool.eq_false_iff]
  intro verified
  have decoded : platform.b64decode (platform.sha256Hex other) = some (platform.hmacSha256 secret message) := by
    simpa only [verifyHmacSha256, beq_iff_eq] using verified
  have bound := standard.b64Length _ _ decoded
  rw [platform.digestLength, standard.macLength] at bound
  omega

theorem sealed_message (standard : platform.Standard) (messages : Set String)
    (free : CollisionFree platform keys messages) (message other proof : String) (messageIn : message ∈ messages)
    (otherIn : other ∈ messages) (scheme checked : ProofScheme)
    (made : sealed platform scheme keys message = some proof)
    (accepted : opens platform checked keys other proof = true) : message = other := by
  cases scheme with
  | hash =>
      obtain rfl := Option.some.inj made
      cases checked with
      | hash => exact free.digests messageIn otherIn (beq_iff_eq.mp accepted)
      | signed =>
          cases keys with
          | none => cases accepted
          | some held =>
              have refused := digest_not_signature platform standard held.secret other message
              exact absurd accepted (by rw [opens, refused]; exact Bool.false_ne_true)
  | signed =>
      cases keys with
      | none => cases made
      | some held =>
          obtain rfl := Option.some.inj made
          cases checked with
          | hash =>
              have same := congrArg String.length (beq_iff_eq.mp accepted)
              rw [platform.digestLength, signHmacSha256, platform.signatureLength] at same
              cases same
          | signed =>
              exact free.macs held rfl messageIn otherIn ((verify_signed platform standard held.secret _ _).mp accepted)

end Sealed

-- The proof inputs with their keys in order: packets and responses differ in
-- the first.
theorem packet_input_sorted (sessionId : String) (sequence : Int) (packetType payloadHash : String) :
    (Json.obj [("session_id", .str sessionId), ("sequence", .int sequence), ("packet_type", .str packetType),
      ("payload_hash", .str payloadHash)]).sorted =
    .obj [("packet_type", .str packetType), ("payload_hash", .str payloadHash), ("sequence", .int sequence),
      ("session_id", .str sessionId)] := by
  simp [Json.sorted, sortedFields]

theorem response_input_sorted (sessionId : String) (sequence : Int) (payloadHash : String) (accepted : Bool) :
    (Json.obj [("session_id", .str sessionId), ("sequence", .int sequence), ("payload_hash", .str payloadHash),
      ("accepted", .bool accepted)]).sorted =
    .obj [("accepted", .bool accepted), ("payload_hash", .str payloadHash), ("sequence", .int sequence),
      ("session_id", .str sessionId)] := by
  simp [Json.sorted, sortedFields]

section Inputs

variable (platform : Platform) {readFloat : List Char → Option ℚ} (text : FloatText platform.floatRepr readFloat)
include text

theorem packet_input_injective (sessionId otherId : String) (sequence otherSequence : Int)
    (packetType otherType payloadHash otherHash : String)
    (same : packetProofInput platform sessionId sequence packetType payloadHash =
      packetProofInput platform otherId otherSequence otherType otherHash) :
    sessionId = otherId ∧ sequence = otherSequence ∧ packetType = otherType ∧ payloadHash = otherHash := by
  have sorted := canonical_injective text _ _ same
  rw [packet_input_sorted, packet_input_sorted] at sorted
  simp only [Json.obj.injEq, List.cons.injEq, Prod.mk.injEq, Json.str.injEq, Json.int.injEq, true_and, and_true]
    at sorted
  obtain ⟨packetTypes, hashes, sequences, ids⟩ := sorted
  exact ⟨ids, sequences, packetTypes, hashes⟩

theorem response_input_injective (sessionId otherId : String) (sequence otherSequence : Int)
    (payloadHash otherHash : String) (accepted otherAccepted : Bool)
    (same : responseInput platform sessionId sequence payloadHash accepted =
      responseInput platform otherId otherSequence otherHash otherAccepted) : accepted = otherAccepted := by
  have sorted := canonical_injective text _ _ same
  rw [response_input_sorted, response_input_sorted] at sorted
  simp only [Json.obj.injEq, List.cons.injEq, Prod.mk.injEq, Json.bool.injEq, true_and] at sorted
  exact sorted.1

theorem response_not_packet (sessionId otherId : String) (sequence otherSequence : Int)
    (packetType payloadHash otherHash : String) (accepted : Bool) :
    responseInput platform otherId otherSequence otherHash accepted ≠
      packetProofInput platform sessionId sequence packetType payloadHash := by
  intro same
  have sorted := canonical_injective text _ _ same
  rw [response_input_sorted, packet_input_sorted] at sorted
  simp at sorted

end Inputs

def packetMessages (platform : Platform) (packet : CanonicalPacketV2) : Set String :=
  {canonicalJson platform.floatRepr (.obj packet.payload),
    packetProofInput platform packet.sessionId packet.sequence packet.packetType packet.payloadHash}

-- model_dump as JSON, and model_validate of what was parsed.
def CanonicalPacketV2.toJson (packet : CanonicalPacketV2) : Json :=
  .obj [("session_id", .str packet.sessionId), ("sequence", .int packet.sequence),
    ("packet_type", .str packet.packetType), ("payload_hash", .str packet.payloadHash),
    ("payload", .obj packet.payload), ("proof", .str packet.proof)]

def packetFields : List String :=
  ["session_id", "sequence", "packet_type", "payload_hash", "payload", "proof"]

def RawPacket.ofJson : Json → Option RawPacket
  | .obj fields =>
      if fields.all fun field => field.1 ∈ packetFields then
        match fields.lookup "session_id", fields.lookup "sequence", fields.lookup "packet_type",
            fields.lookup "payload_hash", fields.lookup "payload", fields.lookup "proof" with
        | some (.str sessionId), some (.int sequence), some (.str packetType), some (.str payloadHash),
            some (.obj payload), some (.str proof) =>
            some (RawPacket.mk sessionId sequence packetType payloadHash payload proof)
        | _, _, _, _, _, _ => none
      else none
  | _ => none

def receivePacket (readFloat : List Char → Option ℚ) (message : List Char) : Except PyError CanonicalPacketV2 :=
  match (loads readFloat message).bind RawPacket.ofJson with
  | none => .error (invalid "CanonicalPacketV2" "")
  | some raw => CanonicalPacketV2.modelValidate raw

-- A row of session_packets: the payload is kept as JSON text.
structure PacketRow where
  sessionId : String
  sequence : Int
  packetType : String
  payloadHash : String
  payloadJson : List Char
  proof : String

def packetRow (platform : Platform) (packet : CanonicalPacketV2) : PacketRow where
  sessionId := packet.sessionId
  sequence := packet.sequence
  packetType := packet.packetType
  payloadHash := packet.payloadHash
  payloadJson := dumps .default platform.floatRepr (.obj packet.payload)
  proof := packet.proof

def loadPacketRow (readFloat : List Char → Option ℚ) (row : PacketRow) : Except PyError CanonicalPacketV2 :=
  match loads readFloat row.payloadJson with
  | some (.obj payload) => CanonicalPacketV2.modelValidate
      (RawPacket.mk row.sessionId row.sequence row.packetType row.payloadHash payload row.proof)
  | _ => .error (invalid "CanonicalPacketV2" "payload")

theorem packet_json_distinct (packet : CanonicalPacketV2) (distinct : (Json.obj packet.payload).distinct = true) :
    packet.toJson.distinct = true := by
  simp only [Json.distinct, Bool.and_eq_true, decide_eq_true_eq] at distinct
  simp [CanonicalPacketV2.toJson, Json.distinct, distinctFields, distinct]

section Transport

variable (platform : Platform) {readFloat : List Char → Option ℚ} (text : FloatText platform.floatRepr readFloat)
  (packet : CanonicalPacketV2) (distinct : (Json.obj packet.payload).distinct = true)
include text distinct

theorem receive_dumped (style : JsonStyle) :
    receivePacket readFloat (dumps style platform.floatRepr packet.toJson) = .ok packet := by
  have read := loads_dumps style text packet.toJson (packet_json_distinct packet distinct)
  have raw : RawPacket.ofJson packet.toJson = some packet.modelDump := rfl
  simp only [receivePacket, read, Option.bind_some, raw, model_validate_dump]

theorem load_packet_row : loadPacketRow readFloat (packetRow platform packet) = .ok packet := by
  have read := loads_dumps .default text (.obj packet.payload) distinct
  simp only [loadPacketRow, packetRow, read]
  exact model_validate_dump packet

end Transport

theorem write_packet_ok {ω : Type} (packet : CanonicalPacketV2) (state after : SessionState ω)
    (written : writeSessionPacket packet state = (.ok (), after)) :
    ∃ fresh : ¬ state.packets.Has packet.key, after = { state with packets := state.packets.append packet fresh } := by
  simp only [writeSessionPacket] at written
  cases fits : sqlInteger packet.sequence with
  | error raised => simp [fits] at written
  | ok value =>
      by_cases taken : state.packets.Has packet.key
      · simp [fits, Table.insert_taken state.packets packet taken] at written
      · simp only [fits, Table.insert_fresh state.packets packet taken, Prod.mk.injEq, true_and] at written
        exact ⟨taken, written.symm⟩

-- The packet verifies as encoded, as received in any JSON dump of it, and as
-- query_session_packets reads it back wherever write_session_packet takes it.
structure RoundTrips (platform : Platform) (readFloat : List Char → Option ℚ) (scheme : ProofScheme)
    (keys : Option SessionKeys) (packet : CanonicalPacketV2) : Prop where
  encoded : verifyPacketProof platform packet scheme keys = true
  received : ∀ style, ∃ received, receivePacket readFloat (dumps style platform.floatRepr packet.toJson) =
    .ok received ∧ verifyPacketProof platform received scheme keys = true
  stored : ∀ (ω : Type) (state after : SessionState ω), writeSessionPacket packet state = (.ok (), after) →
    packet ∈ loggedPackets packet.sessionId after ∧ ∀ limit found,
      querySessionPackets packet.sessionId limit after = .ok found →
        ∀ row ∈ found, row.sequence = packet.sequence →
          ∃ loaded, loadPacketRow readFloat (packetRow platform row) = .ok loaded ∧
            verifyPacketProof platform loaded scheme keys = true

theorem verified_round_trips (platform : Platform) {readFloat : List Char → Option ℚ}
    (text : FloatText platform.floatRepr readFloat) (scheme : ProofScheme) (keys : Option SessionKeys)
    (packet : CanonicalPacketV2) (distinct : (Json.obj packet.payload).distinct = true)
    (verified : verifyPacketProof platform packet scheme keys = true) :
    RoundTrips platform readFloat scheme keys packet where
  encoded := verified
  received := fun style => ⟨packet, receive_dumped platform text packet distinct style, verified⟩
  stored := by
    intro ω state after written
    obtain ⟨fresh, rfl⟩ := write_packet_ok packet state after written
    have inRows : packet ∈ (state.packets.append packet fresh).rows := List.mem_append_right _ List.mem_cons_self
    refine ⟨(mem_logged packet.sessionId _ packet).mpr ⟨inRows, rfl⟩, fun limit found query row member numbered => ?_⟩
    obtain ⟨rowIn, rowSession⟩ := query_logged packet.sessionId limit _ found query row member
    have same : row = packet := Table.row_unique (state.packets.append packet fresh) row packet rowIn inRows
      (Prod.ext rowSession numbered)
    exact ⟨packet, same ▸ load_packet_row platform text packet distinct, verified⟩

theorem packet_bound (platform : Platform) (standard : platform.Standard) {readFloat : List Char → Option ℚ}
    (text : FloatText platform.floatRepr readFloat) (keys : Option SessionKeys) (messages : Set String)
    (free : CollisionFree platform keys messages) (sessionId : String) (sequence : Int) (packetType : String)
    (payload : List (String × Json)) (capabilities : NegotiatedCapabilities) (produced packet : CanonicalPacketV2)
    (ok : encodePacket platform sessionId sequence packetType payload capabilities keys = .ok produced)
    (producedIn : packetMessages platform produced ⊆ messages) (packetIn : packetMessages platform packet ⊆ messages)
    (scheme : ProofScheme) (carried : packet.proof = produced.proof)
    (verified : verifyPacketProof platform packet scheme keys = true) :
    packet.sessionId = sessionId ∧ (packet.sequence : Int) = sequence ∧ packet.packetType = packetType ∧
      (Json.obj packet.payload).sorted = (Json.obj payload).sorted := by
  obtain ⟨dump, made⟩ := encode_packet_ok platform sessionId sequence packetType payload capabilities keys produced ok
  obtain ⟨rfl, rfl, rfl, hashed, rfl, -⟩ := RawPacket.mk.inj dump
  obtain ⟨packetHashed, opened⟩ := verify_packet_opens platform keys packet scheme verified
  rw [carried] at opened
  rw [← hashed] at made
  have input : packetProofInput platform produced.sessionId produced.sequence produced.packetType
      produced.payloadHash ∈ messages := producedIn (by simp [packetMessages])
  have sameInput := sealed_message platform keys standard messages free _ _ produced.proof input
    (packetIn (by simp [packetMessages])) capabilities.proofScheme scheme
    (make_packet_proof_sealed platform keys _ _ _ _ _ _ made) opened
  obtain ⟨ids, sequences, types, hashes⟩ := packet_input_injective platform text _ _ _ _ _ _ _ _ sameInput
  rw [hashed, packetHashed] at hashes
  have payloads := free.digests (producedIn (by simp [packetMessages])) (packetIn (by simp [packetMessages])) hashes
  exact ⟨ids.symm, sequences.symm, types.symm, (canonical_injective text _ _ payloads).symm⟩

section Responses

variable (platform : Platform) (standard : platform.Standard) {readFloat : List Char → Option ℚ}
  (text : FloatText platform.floatRepr readFloat) (keys : Option SessionKeys) (messages : Set String)
  (free : CollisionFree platform keys messages) (source : CanonicalPacketV2) (accepted : Bool)
  (capabilities : NegotiatedCapabilities) (response : CanonicalResponseV2)
  (ok : encodeResponse platform source accepted capabilities keys = .ok response)
  (sourceIn : responseProofInput platform source accepted ∈ messages)
include standard text free ok sourceIn

theorem response_proof_refused (packet : CanonicalPacketV2) (packetIn : packetMessages platform packet ⊆ messages)
    (scheme : ProofScheme) (carried : packet.proof = response.proof) :
    verifyPacketProof platform packet scheme keys = false := by
  rw [Bool.eq_false_iff]
  intro verified
  obtain ⟨-, opened⟩ := verify_packet_opens platform keys packet scheme verified
  rw [carried] at opened
  have same := sealed_message platform keys standard messages free _ _ response.proof sourceIn
    (packetIn (by simp [packetMessages])) capabilities.proofScheme scheme
    (encode_response_ok platform keys source accepted capabilities response ok).1 opened
  exact response_not_packet platform text _ _ _ _ _ _ _ _ same

theorem response_flag_bound (other : CanonicalResponseV2) (flag : Bool) (scheme : ProofScheme)
    (otherIn : responseInput platform other.sessionId other.sequence other.payloadHash flag ∈ messages)
    (carried : other.proof = response.proof)
    (verified : verifyResponse platform other flag scheme keys = true) : flag = accepted := by
  rw [verify_response_opens, carried] at verified
  have same := sealed_message platform keys standard messages free _ _ response.proof sourceIn otherIn
    capabilities.proofScheme scheme
    (encode_response_ok platform keys source accepted capabilities response ok).1 verified
  exact (response_input_injective platform text _ _ _ _ _ _ _ _ same).symm

end Responses

theorem session_codec_binding (platform : Platform) (standard : platform.Standard) (readFloat : List Char → Option ℚ)
    (text : FloatText platform.floatRepr readFloat) (keys : Option SessionKeys) (messages : Set String)
    (free : CollisionFree platform keys messages) :
    (∀ sessionId sequence packetType payload capabilities packet, (Json.obj payload).distinct = true →
        encodePacket platform sessionId sequence packetType payload capabilities keys = .ok packet →
          RoundTrips platform readFloat capabilities.proofScheme keys packet) ∧
      (∀ sessionId sequence packetType payload capabilities produced packet scheme,
        encodePacket platform sessionId sequence packetType payload capabilities keys = .ok produced →
          packetMessages platform produced ⊆ messages → packetMessages platform packet ⊆ messages →
          packet.proof = produced.proof → verifyPacketProof platform packet scheme keys = true →
            packet.sessionId = sessionId ∧ (packet.sequence : Int) = sequence ∧ packet.packetType = packetType ∧
              (Json.obj packet.payload).sorted = (Json.obj payload).sorted) ∧
      ∀ source accepted capabilities response,
        encodeResponse platform source accepted capabilities keys = .ok response →
          responseProofInput platform source accepted ∈ messages →
            (∀ packet scheme, packetMessages platform packet ⊆ messages → packet.proof = response.proof →
              verifyPacketProof platform packet scheme keys = false) ∧
            ∀ other flag scheme,
              responseInput platform other.sessionId other.sequence other.payloadHash flag ∈ messages →
                other.proof = response.proof → verifyResponse platform other flag scheme keys = true →
                  flag = accepted := by
  refine ⟨?_, ?_, ?_⟩
  · intro sessionId sequence packetType payload capabilities packet distinct ok
    obtain ⟨dump, -⟩ := encode_packet_ok platform sessionId sequence packetType payload capabilities keys packet ok
    have same : packet.payload = payload := congrArg RawPacket.payload dump
    exact verified_round_trips platform text capabilities.proofScheme keys packet (same ▸ distinct)
      (encode_verified platform standard sessionId sequence packetType payload capabilities keys packet ok)
  · intro sessionId sequence packetType payload capabilities produced packet scheme ok producedIn packetIn
    exact packet_bound platform standard text keys messages free sessionId sequence packetType payload capabilities
      produced packet ok producedIn packetIn scheme
  · intro source accepted capabilities response ok sourceIn
    refine ⟨fun packet scheme packetIn => ?_, fun other flag scheme => ?_⟩
    · exact response_proof_refused platform standard text keys messages free source accepted capabilities response ok
        sourceIn packet packetIn scheme
    · exact response_flag_bound platform standard text keys messages free source accepted capabilities response ok
        sourceIn other flag scheme

def packetInput : String := sampleProofInput "ping" pingHash

def responseText (accepted : String) : String :=
  "\x7b\"accepted\":" ++ accepted ++ ",\"payload_hash\":\"" ++ pingHash ++ "\",\"sequence\":1,\"session_id\":\"S\"\x7d"

def pingMessages : List String := ["\x7b\x7d", packetInput, responseText "true", responseText "false"]

-- sha256 and hmac_sha256 under b"secret" on those messages.
def pingDigest (message : String) : Nat :=
  if message = responseText "true" then 0x4aec1faa723aae02a73870008e70a6426a4fe5576ba9b9c7947692eb691942d9
  else sampleDigest message

def pingMac (message : String) : Nat :=
  if message = "\x7b\x7d" then 0x77325902caca812dc259733aacd046b73817372c777b8d95b402647474516e13
  else if message = packetInput then 0x5c7a8f36e8f5aa217da2be08f99a867d1edb468b638b6fafafc9161a39b86ade
  else if message = responseText "true" then 0xcf4d7e3c286f1b39b242aaf74cadf6416b4c98a74155b7e8ac3dde8f4d34872d
  else if message = responseText "false" then 0xbae5bf8ff4144cf172339066d20c6ff03bd31b390b3b750419d5245653e259bc
  else 0

def macBytes (value : Nat) : List UInt8 := (List.range 32).map fun i => UInt8.ofNat (value / 256 ^ (31 - i) % 256)

def codecPlatform : Platform :=
  Platform.over plainFloat (fun message => hexDigest (pingDigest message)) (fun _ message => macBytes (pingMac message))
    (fun message => hex_digest_length (pingDigest message)) fun _ message => by simp [macBytes]

theorem codec_standard : codecPlatform.Standard :=
  over_standard plainFloat (fun message => hexDigest (pingDigest message))
    (fun _ message => macBytes (pingMac message)) (fun message => hex_digest_length (pingDigest message))
    fun _ message => by simp [macBytes]

def secretKeys : SessionKeys where
  keyId := "k"
  secret := [115, 101, 99, 114, 101, 116]

theorem ping_collision_free : CollisionFree codecPlatform (some secretKeys) {message | message ∈ pingMessages} where
  digests := by
    have distinct : ∀ a ∈ pingMessages, ∀ b ∈ pingMessages,
        hexDigest (pingDigest a) = hexDigest (pingDigest b) → a = b := by decide +kernel
    exact fun a inA b inB same => distinct a inA b inB same
  macs := by
    intro held _
    have distinct : ∀ a ∈ pingMessages, ∀ b ∈ pingMessages, macBytes (pingMac a) = macBytes (pingMac b) → a = b := by
      decide +kernel
    exact fun a inA b inB same => distinct a inA b inB same

def signedCapabilities : NegotiatedCapabilities where
  codecVersion := 2
  aspectDimensionality := 6
  proofScheme := .signed
  codecVersionPos := by decide
  atLeastSix := by decide
  maxPacketBytesPos := by simp

def signedPing : Except PyError CanonicalPacketV2 :=
  encodePacket codecPlatform "S" 1 "ping" [] signedCapabilities (some secretKeys)

theorem signed_ping_messages (produced : CanonicalPacketV2) (ok : signedPing = .ok produced) :
    packetMessages codecPlatform produced ⊆ {message | message ∈ pingMessages} ∧
      ∀ accepted, responseProofInput codecPlatform produced accepted ∈ pingMessages := by
  obtain ⟨dump, -⟩ := encode_packet_ok codecPlatform "S" 1 "ping" [] signedCapabilities (some secretKeys) produced ok
  obtain ⟨sessionId, sequence, packetType, payloadHash, payload, -⟩ := RawPacket.mk.inj dump
  have hashed : makePacketPayloadHash codecPlatform [] = pingHash := by decide +kernel
  constructor
  · intro message member
    simp only [packetMessages, sessionId, sequence, packetType, payloadHash, payload, hashed,
      Set.mem_insert_iff, Set.mem_singleton_iff] at member
    obtain rfl | rfl := member
    · exact (by decide +kernel : canonicalJson codecPlatform.floatRepr (.obj []) ∈ pingMessages)
    · exact (by decide +kernel : packetProofInput codecPlatform "S" 1 "ping" pingHash ∈ pingMessages)
  · intro accepted
    simp only [responseProofInput, sessionId, sequence, payloadHash, hashed]
    revert accepted
    decide +kernel

theorem session_codec_binding_ping :
    ∃ produced response, signedPing = .ok produced ∧
      encodeResponse codecPlatform produced true signedCapabilities (some secretKeys) = .ok response ∧
      RoundTrips codecPlatform readPlainFloat .signed (some secretKeys) produced ∧
      (∀ packet, packetMessages codecPlatform packet ⊆ {message | message ∈ pingMessages} →
        packet.proof = produced.proof → verifyPacketProof codecPlatform packet .signed (some secretKeys) = true →
          packet.sessionId = "S" ∧ (packet.sequence : Int) = 1 ∧ packet.packetType = "ping" ∧
            (Json.obj packet.payload).sorted = .obj []) ∧
      ¬ verifyResponse codecPlatform response false .signed (some secretKeys) = true := by
  obtain ⟨roundTrips, binds, answers⟩ := session_codec_binding codecPlatform codec_standard readPlainFloat
    plain_float_text (some secretKeys) {message | message ∈ pingMessages} ping_collision_free
  obtain ⟨produced, ok⟩ := encode_packet_exists codecPlatform "S" 1 "ping" [] signedCapabilities (some secretKeys)
    (by decide) (by decide) (Or.inr rfl)
  obtain ⟨within, answered⟩ := signed_ping_messages produced ok
  have verifies := roundTrips "S" 1 "ping" [] signedCapabilities produced (by decide) ok
  obtain ⟨response, encoded⟩ := encode_response_verified codecPlatform produced true signedCapabilities
    (some secretKeys) verifies.encoded
  refine ⟨produced, response, ok, encoded, verifies, ?_, ?_⟩
  · intro packet packetIn carried verified
    exact binds "S" 1 "ping" [] signedCapabilities produced packet .signed ok within packetIn carried verified
  · intro verified
    have flags := (answers produced true signedCapabilities response encoded (answered true)).2 response false .signed
    have same := (encode_response_ok codecPlatform (some secretKeys) produced true signedCapabilities response
      encoded).2 false
    rw [same] at flags
    have impossible := flags (answered false) rfl verified
    cases impossible

end Vermyth
