import Vermyth.Session.Run

set_option autoImplicit false

namespace Vermyth

open Foundation

variable {ω : Type}

theorem apply_logged_raises (tools : Tools ω) (state : SessionState ω) (packet : CanonicalPacketV2)
    (logged : packet ∈ state.packets.rows) :
    ∃ raised, sessionApplyPacket tools packet.modelDump state = (.error raised, state) := by
  have refused : ∀ again session, ¬ Admits tools packet.modelDump state again session := by
    intro again session admits
    have same : packet = again := Except.ok.inj ((model_validate_dump packet).symm.trans admits.valid)
    exact admits.fresh (same ▸ Table.has_row state.packets packet logged)
  exact apply_refused tools packet.modelDump state refused

theorem replayed_logged (sessionId : String) (sequence limit : Int) (state : SessionState ω)
    (packets : List CanonicalPacketV2) (replayed : replayedPackets sessionId sequence limit state = .ok packets) :
    ∀ packet ∈ packets, packet ∈ state.packets.rows := by
  intro packet member
  simp only [replayedPackets] at replayed
  cases query : querySessionPackets sessionId limit state with
  | error raised => simp [query] at replayed
  | ok found =>
      simp only [query, Except.ok.injEq] at replayed
      rw [← replayed] at member
      exact (query_logged sessionId limit state found query packet (List.mem_of_mem_filter member)).1

-- A replay never gets past its first packet, so it changes nothing.
theorem replay_unchanged (tools : Tools ω) (sessionId : String) (sequence limit : Int) (state : SessionState ω) :
    (sessionReplayFrom tools sessionId sequence limit state).2 = state := by
  simp only [sessionReplayFrom]
  cases replayed : replayedPackets sessionId sequence limit state with
  | error raised => rfl
  | ok packets =>
      cases packets with
      | nil => rfl
      | cons packet rest =>
          have logged := replayed_logged sessionId sequence limit state _ replayed packet (by simp)
          obtain ⟨raised, stopped⟩ := apply_logged_raises tools state packet logged
          simp only [List.map_cons, applyAll, stopped]

theorem replay_succeeds_iff (tools : Tools ω) (sessionId : String) (sequence limit : Int) (state : SessionState ω)
    (applied : List AppliedPacket) :
    (sessionReplayFrom tools sessionId sequence limit state).1 = .ok applied ↔
      replayedPackets sessionId sequence limit state = .ok [] ∧ applied = [] := by
  simp only [sessionReplayFrom]
  cases replayed : replayedPackets sessionId sequence limit state with
  | error raised => simp
  | ok packets =>
      cases packets with
      | nil => simp [applyAll, eq_comm]
      | cons packet rest =>
          have logged := replayed_logged sessionId sequence limit state _ replayed packet (by simp)
          obtain ⟨raised, stopped⟩ := apply_logged_raises tools state packet logged
          simp [applyAll, stopped]

theorem replayed_nil_iff (sessionId : String) (sequence limit : Int) (state : SessionState ω) :
    replayedPackets sessionId sequence limit state = .ok [] ↔
      ∃ packets, querySessionPackets sessionId limit state = .ok packets ∧
        ∀ packet ∈ packets, (packet.sequence : Int) ≤ sequence := by
  simp only [replayedPackets]
  cases query : querySessionPackets sessionId limit state with
  | error raised => simp
  | ok packets => simp [List.filter_eq_nil_iff]

-- session_rewind_to, then session_replay_from with this limit (100 unless the
-- caller says otherwise): both succeed, the logged packets in between are
-- applied again in order, and the session ends where it was.
def Restores (tools : Tools ω) (sessionId : String) (session : SessionRecord) (sequence limit : Int)
    (state : SessionState ω) : Prop :=
  let rewound := sessionRewindTo sessionId sequence state
  let replayed := sessionReplayFrom tools sessionId sequence limit rewound.2
  rewound.1 = .ok sequence ∧
    (∃ applied, replayed.1 = .ok applied ∧
      applied.map (fun done => done.response.sequence) =
        ((loggedPackets sessionId state).filter fun packet =>
          sequence < packet.sequence ∧ packet.sequence ≤ session.lastSequence).map CanonicalPacketV2.sequence) ∧
    ∃ restored, replayed.2.sessions.find? sessionId = some restored ∧ restored.lastSequence = session.lastSequence

theorem rewind_within (sessionId : String) (session : SessionRecord) (sequence : Int) (state : SessionState ω)
    (known : state.sessions.find? sessionId = some session) (above : 0 ≤ sequence)
    (below : sequence ≤ session.lastSequence) :
    sessionRewindTo sessionId sequence state =
      (.ok sequence, writeSession { session with lastSequence := sequence.toNat } state) := by
  simp only [sessionRewindTo, readSession, known]
  rw [if_neg]
  omega

theorem rewind_ok (sessionId : String) (session : SessionRecord) (sequence : Int) (state : SessionState ω)
    (known : state.sessions.find? sessionId = some session)
    (ok : (sessionRewindTo sessionId sequence state).1 = .ok sequence) :
    0 ≤ sequence ∧ sequence ≤ session.lastSequence := by
  simp only [sessionRewindTo, readSession, known] at ok
  by_cases outside : sequence < 0 ∨ sequence > session.lastSequence
  · simp [outside] at ok
  · omega

theorem rewound_session (sessionId : String) (session : SessionRecord) (sequence : Nat) (state : SessionState ω)
    (known : state.sessions.find? sessionId = some session) :
    (writeSession { session with lastSequence := sequence } state).sessions.find? sessionId =
      some { session with lastSequence := sequence } := by
  have named : session.sessionId = sessionId := Table.find_key state.sessions sessionId session known
  rw [writeSession, Table.find_upsert, if_pos named]

theorem rewind_replay_iff (tools : Tools ω) (state : SessionState ω) (sessionId : String) (session : SessionRecord)
    (known : state.sessions.find? sessionId = some session) (sequence limit : Int) :
    Restores tools sessionId session sequence limit state ↔
      sequence = session.lastSequence ∧ ∃ packets, querySessionPackets sessionId limit state = .ok packets ∧
        ∀ packet ∈ packets, packet.sequence ≤ session.lastSequence := by
  constructor
  · intro restores
    obtain ⟨rewinds, ⟨applied, replays, -⟩, restored, found, last⟩ := restores
    obtain ⟨above, below⟩ := rewind_ok sessionId session sequence state known rewinds
    rw [rewind_within sessionId session sequence state known above below] at replays found
    rw [replay_unchanged, rewound_session sessionId session _ state known, Option.some.injEq] at found
    have stayed : sequence.toNat = session.lastSequence := by rw [← last, ← found]
    obtain ⟨nothing, -⟩ := (replay_succeeds_iff tools sessionId sequence limit _ applied).mp replays
    obtain ⟨packets, query, within⟩ := (replayed_nil_iff sessionId sequence limit _).mp nothing
    refine ⟨by omega, packets, query, fun packet member => ?_⟩
    have bound := within packet member
    omega
  · intro inPlace
    obtain ⟨rfl, packets, query, within⟩ := inPlace
    have nothing : replayedPackets sessionId session.lastSequence limit
        (writeSession { session with lastSequence := session.lastSequence } state) = .ok [] :=
      (replayed_nil_iff sessionId _ limit _).mpr
        ⟨packets, query, fun packet member => by exact_mod_cast within packet member⟩
    rw [Restores, rewind_within sessionId session _ state known (by omega) (by omega), Int.toNat_natCast]
    refine ⟨rfl, ⟨[], ?_, ?_⟩, session, ?_, rfl⟩
    · exact (replay_succeeds_iff tools sessionId _ limit _ []).mpr ⟨nothing, rfl⟩
    · have between : ((loggedPackets sessionId state).filter fun packet =>
          (session.lastSequence : Int) < packet.sequence ∧ packet.sequence ≤ session.lastSequence) = [] := by
        rw [List.filter_eq_nil_iff]
        intro packet _ inside
        rw [decide_eq_true_eq] at inside
        omega
      rw [between]
      rfl
    · rw [replay_unchanged]
      exact rewound_session sessionId session session.lastSequence state known

def hexDigest (value : Nat) : String :=
  String.ofList ((List.range 64).map fun i => hexDigit (value / 16 ^ (63 - i) % 16))

theorem hex_digest_length (value : Nat) : (hexDigest value).length = 64 := by
  simp [hexDigest]

def sampleProofInput (packetType payloadHash : String) : String :=
  "\x7b\"packet_type\":\"" ++ packetType ++ "\",\"payload_hash\":\"" ++ payloadHash ++
    "\",\"sequence\":1,\"session_id\":\"S\"\x7d"

def pingHash : String := "44136fa355b3678a1146ad16f7e8649e94fb4fc21fe77e8310c060f61caaff8a"
def versionHash : String := "4a9fc0ddd1faccc8b14b8c7bea56720b0f379853983b5d020a5c1c8a0fa6c8fa"

def sampleDigest (message : String) : Nat :=
  if message = "\x7b\x7d" then
    0x44136fa355b3678a1146ad16f7e8649e94fb4fc21fe77e8310c060f61caaff8a
  else if message = "\x7b\"version\":null\x7d" then
    0x4a9fc0ddd1faccc8b14b8c7bea56720b0f379853983b5d020a5c1c8a0fa6c8fa
  else if message = sampleProofInput "ping" pingHash then
    0x88b99168842bd2af64f5e3c546c40c58a20040266c8c70c509b7e6e3c0f131cc
  else if message = sampleProofInput "geometric_cast" versionHash then
    0x18c2fcb6c48dc46dacda0163e8650d90c215fbcb81ee74f833bebc6bf704c1ee
  else if message = "\x7b\"accepted\":false,\"payload_hash\":\"" ++ pingHash ++
      "\",\"sequence\":1,\"session_id\":\"S\"\x7d" then
    0xbf9eb3e77932a5c73ecef9e522656559b49310350ca45eef141a94da2922b1d7
  else 0

def samplePlatform : Platform where
  floatRepr := fun _ => "0.0"
  sha256Hex := fun message => hexDigest (sampleDigest message)
  hmacSha256 := fun _ _ => []
  b64encode := fun _ => String.ofList (List.replicate 44 'A')
  b64decode := fun _ => none
  digestLength := fun message => hex_digest_length (sampleDigest message)
  signatureLength := fun _ _ => by decide

def sampleTools : Tools Unit where
  platform := samplePlatform
  toolCast := fun _ _ _ _ _ _ world => (.error (.valueError "no aspects"), world)
  toolFluidCast := fun _ _ _ _ world => (.error (.valueError "no vector"), world)
  toolGeometricCast := fun _ _ _ _ world => (.error (.valueError "no payload"), world)

def openHashed : OpenRequest where
  transport := "JSONRPC"
  localPeerId := "A"
  localKeyId := "k"
  remotePeerId := "B"
  remoteKeyId := "k2"
  proofScheme := "HASH"

def ping : RawPacket where
  sessionId := "S"
  sequence := 1
  packetType := "ping"
  payloadHash := pingHash
  payload := []
  proof := "88b99168842bd2af64f5e3c546c40c58a20040266c8c70c509b7e6e3c0f131cc"

def pinged : SessionState Unit :=
  run (perform sampleTools) { world := () } [.sessionOpen "S" openHashed, .sessionApplyPacket ping]

theorem pinged_log : (pinged.sessions.find? "S").map SessionRecord.lastSequence = some 1 ∧
    (loggedPackets "S" pinged).map CanonicalPacketV2.sequence = [1] := by
  decide +kernel

theorem pinged_session : ∃ session, pinged.sessions.find? "S" = some session ∧ session.lastSequence = 1 := by
  simpa only [Option.map_eq_some_iff] using pinged_log.1

theorem query_written (sessionId : String) (limit : Int) (session : SessionRecord) (state : SessionState ω) :
    querySessionPackets sessionId limit (writeSession session state) = querySessionPackets sessionId limit state := rfl

theorem query_default (sessionId : String) (state : SessionState ω) :
    querySessionPackets sessionId 100 state = .ok ((loggedPackets sessionId state).take 100) := rfl

theorem rewind_replay_iff_in_place :
    ∃ session, pinged.sessions.find? "S" = some session ∧ Restores sampleTools "S" session 1 100 pinged := by
  obtain ⟨session, known, last⟩ := pinged_session
  refine ⟨session, known, (rewind_replay_iff sampleTools pinged "S" session known 1 100).mpr ?_⟩
  refine ⟨by rw [last]; rfl, _, query_default "S" pinged, fun packet member => ?_⟩
  have logged : packet.sequence ∈ (loggedPackets "S" pinged).map CanonicalPacketV2.sequence :=
    List.mem_map_of_mem (List.mem_of_mem_take member)
  rw [pinged_log.2, List.mem_singleton] at logged
  rw [logged, last]

theorem rewound_packet_not_replayed :
    ∃ session, pinged.sessions.find? "S" = some session ∧ session.lastSequence = 1 ∧
      ¬ Restores sampleTools "S" session 0 100 pinged := by
  obtain ⟨session, known, last⟩ := pinged_session
  refine ⟨session, known, last, ?_⟩
  intro restores
  obtain ⟨-, ⟨applied, replays, -⟩, -⟩ := restores
  rw [rewind_within "S" session 0 pinged known (by omega) (by omega)] at replays
  obtain ⟨nothing, -⟩ := (replay_succeeds_iff sampleTools "S" 0 100 _ applied).mp replays
  obtain ⟨packets, query, within⟩ := (replayed_nil_iff "S" 0 100 _).mp nothing
  rw [query_written, query_default] at query
  have same : (loggedPackets "S" pinged).take 100 = packets := Except.ok.inj query
  have single : ((loggedPackets "S" pinged).take 100).map CanonicalPacketV2.sequence = [1] := by
    rw [List.map_take, pinged_log.2]
    rfl
  obtain ⟨packet, member, first⟩ : ∃ packet ∈ packets, packet.sequence = 1 := by
    rw [← List.mem_map, ← same, single]
    exact List.mem_singleton_self 1
  have bound := within packet member
  omega

end Vermyth
