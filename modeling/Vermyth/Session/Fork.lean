import Vermyth.Session.Replay

set_option autoImplicit false

namespace Vermyth

open Foundation

variable {ω : Type}

def invalidProof : PyError := .valueError "invalid packet proof"

-- session_encode_packet makes the packet, and session_apply_packet takes its
-- proof.
def Carries (tools : Tools ω) (sessionId : String) (sequence : Int) (packetType : String)
    (payload : List (String × Json)) (state : SessionState ω) : Prop :=
  ∃ packet, sessionEncodePacket tools sessionId sequence packetType payload state = .ok packet ∧
    (admitPacket tools packet.modelDump state).1 ≠ .error invalidProof

def Usable (tools : Tools ω) (sessionId : String) (state : SessionState ω) : Prop :=
  ∃ session, state.sessions.find? sessionId = some session ∧
    ∀ sequence : Int, session.lastSequence < sequence → ∀ packetType : String,
      1 ≤ packetType.length ∧ packetType.length ≤ 50 → ∀ payload : List (String × Json),
        Carries tools sessionId sequence packetType payload state

theorem advance_not_proof (sessionId : String) (sequence : Nat) (state : SessionState ω) :
    (advanceSessionSequence sessionId sequence state).1 ≠ .error invalidProof := by
  simp only [advanceSessionSequence, readSession]
  cases state.sessions.find? sessionId with
  | none => simp [invalidProof]
  | some session =>
      by_cases above : sequence ≤ session.lastSequence
      · simp [above, invalidProof]
      · simp [above]

theorem write_packet_not_proof (packet : CanonicalPacketV2) (state : SessionState ω) :
    (writeSessionPacket packet state).1 ≠ .error invalidProof := by
  have differs : uniqueFailed "session_packets" ≠ invalidProof := by decide
  simp only [writeSessionPacket, sqlInteger]
  by_cases fits : (-9223372036854775808 : Int) ≤ packet.sequence ∧ (packet.sequence : Int) ≤ 9223372036854775807
  · rw [if_pos fits]
    cases state.packets.insert? packet with
    | none => simpa using differs
    | some packets => simp
  · rw [if_neg fits]
    simp [invalidProof]

theorem admit_proven (tools : Tools ω) (packet : CanonicalPacketV2) (session : SessionRecord) (state : SessionState ω)
    (known : state.sessions.find? packet.sessionId = some session) (increasing : session.lastSequence < packet.sequence)
    (proven : verifyPacketProof tools.platform packet session.capabilities.proofScheme
      (cachedKeys session packet.sessionId state) = true) :
    (admitPacket tools packet.modelDump state).1 ≠ .error invalidProof := by
  have above : ¬ packet.sequence ≤ session.lastSequence := Nat.not_le.mpr increasing
  simp only [admitPacket, model_validate_dump, readSession, known, if_neg above, proven, Bool.true_eq_false, if_false]
  cases written : writeSessionPacket packet state with
  | mk result after =>
      have notProof := write_packet_not_proof packet state
      rw [written] at notProof
      cases result with
      | error raised => simpa using notProof
      | ok done =>
          cases advanced : advanceSessionSequence packet.sessionId packet.sequence after with
          | mk result final =>
              have stillNot := advance_not_proof packet.sessionId packet.sequence after
              rw [advanced] at stillNot
              cases result with
              | error raised => simpa [advanced] using stillNot
              | ok done => simp [advanced]

theorem usable_iff (tools : Tools ω) (standard : tools.platform.Standard) (sessionId : String) (session : SessionRecord)
    (state : SessionState ω) (known : state.sessions.find? sessionId = some session) :
    Usable tools sessionId state ↔
      session.capabilities.proofScheme = .hash ∨ (state.keyCache sessionId).isSome := by
  have encoding : ∀ sequence packetType payload, sessionEncodePacket tools sessionId sequence packetType payload state =
      encodePacket tools.platform sessionId sequence packetType payload session.capabilities
        (cachedKeys session sessionId state) := by
    intro sequence packetType payload
    simp only [sessionEncodePacket, readSession, known]
  constructor
  · intro usable
    by_contra keyless
    obtain ⟨notHash, uncached⟩ := not_or.mp keyless
    have signed : session.capabilities.proofScheme = .signed := by
      cases scheme : session.capabilities.proofScheme with
      | hash => exact absurd scheme notHash
      | signed => rfl
    have noKeys : cachedKeys session sessionId state = none := by
      simpa [cachedKeys, signed] using uncached
    obtain ⟨record, found, carries⟩ := usable
    obtain ⟨packet, encoded, -⟩ := carries (record.lastSequence + 1) (by omega) "ping" (by decide) []
    rw [encoding, noKeys] at encoded
    simp [encodePacket, makePacketProof, signed] at encoded
  · intro keyed
    refine ⟨session, known, fun sequence above packetType packetTypeLength payload => ?_⟩
    have signable : session.capabilities.proofScheme = .hash ∨ (cachedKeys session sessionId state).isSome := by
      cases scheme : session.capabilities.proofScheme with
      | hash => exact Or.inl rfl
      | signed => simpa [scheme, cachedKeys] using keyed
    obtain ⟨packet, encoded⟩ := encode_packet_exists tools.platform sessionId sequence packetType payload
      session.capabilities (cachedKeys session sessionId state) (by omega) packetTypeLength signable
    refine ⟨packet, (encoding _ _ _).trans encoded, ?_⟩
    have verified := encode_verified tools.platform standard sessionId sequence packetType payload
      session.capabilities _ packet encoded
    obtain ⟨named, numbered, -⟩ := RawPacket.mk.inj
      (encode_packet_ok tools.platform sessionId sequence packetType payload session.capabilities _ packet encoded).1
    subst named
    exact admit_proven tools packet session state known (by omega) verified

def KeysNamed (state : SessionState ω) : Prop :=
  ∀ sessionId, (state.keyCache sessionId).isSome → state.sessions.Has sessionId

theorem write_session_named (session : SessionRecord) (state : SessionState ω) (named : KeysNamed state) :
    KeysNamed (writeSession session state) := by
  intro sessionId cached
  exact (Table.has_upsert state.sessions session sessionId).mpr (Or.inl (named sessionId cached))

theorem record_session_id (request : OpenRequest) (sessionId : String) (session : SessionRecord)
    (recorded : request.record sessionId = .ok session) : session.sessionId = sessionId := by
  simp only [OpenRequest.record, bind_ok] at recorded
  obtain ⟨caps, -, localIdentity, -, remoteIdentity, -, transport, -, made⟩ := recorded
  exact Except.ok.inj made ▸ rfl

theorem session_open_named (sessionId : String) (request : OpenRequest) (state : SessionState ω)
    (named : KeysNamed state) : KeysNamed (sessionOpen sessionId request state).2 := by
  cases recorded : request.record sessionId with
  | error raised => simpa only [sessionOpen, recorded] using named
  | ok session =>
      have written := write_session_named session state named
      cases secret : request.signingSecret with
      | none => simpa only [sessionOpen, recorded, secret] using written
      | some key =>
          simp only [sessionOpen, recorded, secret]
          intro other cached
          by_cases opened : other = sessionId
          · have own := record_session_id request sessionId session recorded
            exact (Table.has_upsert state.sessions session other).mpr (Or.inr (opened.trans own.symm))
          · exact written other (by simpa only [Function.update_of_ne opened] using cached)

theorem apply_named (tools : Tools ω) (raw : RawPacket) (state : SessionState ω) (named : KeysNamed state) :
    KeysNamed (sessionApplyPacket tools raw state).2 := by
  have admittedNamed : ∀ packet session fresh, KeysNamed (admitted packet session state fresh) :=
    fun packet session fresh => write_session_named _ { state with packets := state.packets.append packet fresh } named
  have dispatchNamed : ∀ packet session fresh, KeysNamed (dispatched tools packet session state fresh).2 := by
    intro packet session fresh sessionId
    rw [dispatch_key_cache, dispatch_sessions]
    exact admittedNamed packet session fresh sessionId
  have applies := apply_applies tools raw state
  generalize sessionApplyPacket tools raw state = outcome at applies
  obtain ⟨result, after⟩ := outcome
  cases applies with
  | refused raised none_admits => exact named
  | raised packet session admits raised handler => exact dispatchNamed packet session admits.fresh
  | unanswered packet session admits answer handler taken => exact dispatchNamed packet session admits.fresh
  | answered packet session admits answer handler response same fresh => exact dispatchNamed packet session admits.fresh

theorem perform_named (tools : Tools ω) (operation : Operation) (state : SessionState ω) (named : KeysNamed state) :
    KeysNamed (perform tools state operation) := by
  cases operation with
  | sessionOpen sessionId request => exact session_open_named sessionId request state named
  | sessionEncodePacket _ _ _ _ => exact named
  | sessionApplyPacket raw => exact apply_named tools raw state named
  | sessionCheckpoint _ => exact named
  | sessionRewindTo sessionId sequence =>
      simp only [perform, sessionRewindTo]
      repeat' split
      · exact named
      · exact named
      · exact write_session_named _ state named
  | sessionReplayFrom sessionId sequence limit =>
      rw [perform, replay_unchanged]
      exact named
  | sessionFork forkedId sessionId fromSequence newTransport =>
      simp only [perform, sessionFork]
      repeat' split
      · exact named
      · exact named
      · exact named
      · exact write_session_named _ state named
  | closeSession sessionId =>
      simp only [perform, closeSession]
      split
      · exact named
      · exact write_session_named _ state named

theorem session_fork_ok (forkedId sessionId : String) (fromSequence : Int) (newTransport : Option String)
    (session forked : SessionRecord) (state : SessionState ω)
    (known : state.sessions.find? sessionId = some session)
    (forks : (sessionFork forkedId sessionId fromSequence newTransport state).1 = .ok forked) :
    forked.sessionId = forkedId ∧ forked.capabilities = session.capabilities ∧
      (sessionFork forkedId sessionId fromSequence newTransport state).2 = writeSession forked state := by
  simp only [sessionFork, readSession, known] at forks ⊢
  by_cases outside : fromSequence < 0 ∨ fromSequence > session.lastSequence
  · simp [outside] at forks
  · rw [if_neg outside] at forks ⊢
    cases named : newTransport.elim (.ok session.transport) SessionTransport.named with
    | error raised => simp [named] at forks
    | ok transport =>
        simp only [named, Except.ok.injEq] at forks ⊢
        subst forks
        exact ⟨rfl, rfl, rfl⟩

theorem fork_usable_iff (tools : Tools ω) (standard : tools.platform.Standard) (store : SessionState ω)
    (operations : List Operation) (state : SessionState ω)
    (reached : state = run (perform tools) { store with keyCache := fun _ => none } operations)
    (sessionId forkedId : String) (session forked : SessionRecord) (fromSequence : Int) (newTransport : Option String)
    (known : state.sessions.find? sessionId = some session) (drawn : ¬ state.sessions.Has forkedId)
    (forks : (sessionFork forkedId sessionId fromSequence newTransport state).1 = .ok forked) :
    Usable tools forkedId (sessionFork forkedId sessionId fromSequence newTransport state).2 ↔
      session.capabilities.proofScheme = .hash := by
  have named : KeysNamed state := by
    rw [reached]
    refine run_invariant KeysNamed _ operations ?_ fun before operation _ holds =>
      perform_named tools operation before holds
    intro other cached
    simp at cached
  have uncached : (state.keyCache forkedId).isSome = false :=
    Bool.eq_false_iff.mpr fun cached => drawn (named forkedId cached)
  obtain ⟨own, capabilities, written⟩ :=
    session_fork_ok forkedId sessionId fromSequence newTransport session forked state known forks
  have found : (writeSession forked state).sessions.find? forkedId = some forked := by
    rw [writeSession, Table.find_upsert, if_pos own]
  have cache : (writeSession forked state).keyCache = state.keyCache := rfl
  rw [written, usable_iff tools standard forkedId forked _ found, capabilities, cache, uncached]
  simp

def zeroMac (_ : List UInt8) (_ : String) : List UInt8 := List.replicate 32 0

def signingPlatform : Platform :=
  Platform.over samplePlatform.floatRepr samplePlatform.sha256Hex zeroMac samplePlatform.digestLength
    zero_mac_length

def signingTools : Tools Unit := { sampleTools with platform := signingPlatform }

theorem signing_standard : signingPlatform.Standard :=
  over_standard samplePlatform.floatRepr samplePlatform.sha256Hex zeroMac samplePlatform.digestLength
    zero_mac_length

def openSigned : OpenRequest := { openHashed with proofScheme := "SIGNED", signingSecret := some [107] }

def opened (request : OpenRequest) : SessionState Unit :=
  run (perform signingTools) { world := () } [.sessionOpen "S" request]

theorem fork_usable_iff_hash :
    Usable signingTools "F" (sessionFork "F" "S" 0 none (opened openHashed)).2 := by
  have scheme : ((opened openHashed).sessions.find? "S").map (fun session => session.capabilities.proofScheme) =
      some .hash := by decide +kernel
  have forks : (sessionFork "F" "S" 0 none (opened openHashed)).1.toOption.isSome := by decide +kernel
  obtain ⟨session, known, hashed⟩ := Option.map_eq_some_iff.mp scheme
  cases fork : (sessionFork "F" "S" 0 none (opened openHashed)).1 with
  | error raised => simp [fork, Except.toOption] at forks
  | ok forked =>
      exact (fork_usable_iff signingTools signing_standard { world := () } [.sessionOpen "S" openHashed] _ rfl "S" "F"
        session forked 0 none known (by decide +kernel) fork).mpr hashed

theorem signed_fork_unusable : Usable signingTools "S" (opened openSigned) ∧
    (sessionFork "F" "S" 0 none (opened openSigned)).1.toOption.isSome ∧
    ¬ Usable signingTools "F" (sessionFork "F" "S" 0 none (opened openSigned)).2 := by
  have scheme : ((opened openSigned).sessions.find? "S").map (fun session => session.capabilities.proofScheme) =
      some .signed := by decide +kernel
  have forkScheme : ((sessionFork "F" "S" 0 none (opened openSigned)).2.sessions.find? "F").map
      (fun session => session.capabilities.proofScheme) = some .signed := by decide +kernel
  obtain ⟨session, known, -⟩ := Option.map_eq_some_iff.mp scheme
  obtain ⟨forked, found, signed⟩ := Option.map_eq_some_iff.mp forkScheme
  have cached : ((opened openSigned).keyCache "S").isSome := by decide +kernel
  have uncached : ((sessionFork "F" "S" 0 none (opened openSigned)).2.keyCache "F").isSome = false := by decide +kernel
  refine ⟨(usable_iff signingTools signing_standard "S" session _ known).mpr (Or.inr cached), by decide +kernel, ?_⟩
  rw [usable_iff signingTools signing_standard "F" forked _ found, signed, uncached]
  simp

end Vermyth
