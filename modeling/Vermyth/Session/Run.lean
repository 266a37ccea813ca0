import Vermyth.Foundation.Transition
import Vermyth.Session.Tools

set_option autoImplicit false

namespace Vermyth

open Foundation

variable {ω : Type}

-- What session_apply_packet asks of a packet before it writes anything.
structure Admits (tools : Tools ω) (raw : RawPacket) (state : SessionState ω) (packet : CanonicalPacketV2)
    (session : SessionRecord) : Prop where
  valid : CanonicalPacketV2.modelValidate raw = .ok packet
  known : state.sessions.find? packet.sessionId = some session
  increasing : session.lastSequence < packet.sequence
  proven : verifyPacketProof tools.platform packet session.capabilities.proofScheme
    (cachedKeys session packet.sessionId state) = true
  fits : sqlInteger packet.sequence = .ok (packet.sequence : Int)
  fresh : ¬ state.packets.Has packet.key

def admitted (packet : CanonicalPacketV2) (session : SessionRecord) (state : SessionState ω)
    (fresh : ¬ state.packets.Has packet.key) : SessionState ω :=
  writeSession { session with lastSequence := packet.sequence }
    { state with packets := state.packets.append packet fresh }

theorem model_validate_session (raw : RawPacket) (packet : CanonicalPacketV2)
    (valid : CanonicalPacketV2.modelValidate raw = .ok packet) : packet.sessionId = raw.sessionId := by
  simp only [CanonicalPacketV2.modelValidate] at valid
  split_ifs at valid
  exact Except.ok.inj valid ▸ rfl

theorem sql_integer_cases (value : Int) :
    sqlInteger value = .ok value ∨ ∃ raised, sqlInteger value = .error raised := by
  simp only [sqlInteger]
  split
  · exact Or.inl rfl
  · exact Or.inr ⟨_, rfl⟩

-- The insert is the last of the checks: once it is made, the advance goes
-- through.
theorem admit_packet_admits (tools : Tools ω) (raw : RawPacket) (state : SessionState ω) (packet : CanonicalPacketV2)
    (session : SessionRecord) (admits : Admits tools raw state packet session) :
    admitPacket tools raw state = (.ok (packet, session), admitted packet session state admits.fresh) := by
  have inserted : writeSessionPacket packet state =
      (.ok (), { state with packets := state.packets.append packet admits.fresh }) := by
    simp only [writeSessionPacket, admits.fits, Table.insert_fresh state.packets packet admits.fresh]
  have above : ¬ packet.sequence ≤ session.lastSequence := Nat.not_le.mpr admits.increasing
  simp only [admitPacket, admits.valid, readSession, admits.known, if_neg above, admits.proven, inserted,
    advanceSessionSequence, Bool.true_eq_false, if_false]
  rfl

theorem admit_packet_refused (tools : Tools ω) (raw : RawPacket) (state : SessionState ω)
    (refused : ∀ packet session, ¬ Admits tools raw state packet session) :
    ∃ raised, admitPacket tools raw state = (.error raised, state) := by
  simp only [admitPacket]
  cases valid : CanonicalPacketV2.modelValidate raw with
  | error raised => exact ⟨raised, rfl⟩
  | ok packet =>
      cases known : state.sessions.find? packet.sessionId with
      | none =>
          simp only [readSession, known]
          exact ⟨_, rfl⟩
      | some session =>
          simp only [readSession, known]
          by_cases above : packet.sequence ≤ session.lastSequence
          · exact ⟨_, if_pos above⟩
          rw [if_neg above]
          by_cases proven : verifyPacketProof tools.platform packet session.capabilities.proofScheme
              (cachedKeys session packet.sessionId state) = false
          · exact ⟨_, if_pos proven⟩
          rw [if_neg proven]
          rcases sql_integer_cases packet.sequence with fits | ⟨raised, wide⟩
          · have taken : state.packets.Has packet.key := by
              by_contra fresh
              exact refused packet session ⟨valid, known, Nat.not_le.mp above, Bool.of_not_eq_false proven, fits, fresh⟩
            simp only [writeSessionPacket, fits, Table.insert_taken state.packets packet taken]
            exact ⟨_, rfl⟩
          · simp only [writeSessionPacket, wide]
            exact ⟨_, rfl⟩

section Dispatch

variable (tools : Tools ω) (packet : CanonicalPacketV2) (state : SessionState ω)

theorem dispatch_frame : ∃ world invoked, (dispatchPacket tools packet state).2 =
      { state with world := world, invoked := invoked } ∧
    (invoked = state.invoked ∨ invoked = state.invoked ++ [packet.key]) := by
  simp only [dispatchPacket]
  cases found : (binaryDispatch tools).lookup packet.packetType with
  | none => exact ⟨state.world, state.invoked, rfl, Or.inl rfl⟩
  | some binaryHandler =>
      refine ⟨(binaryHandler packet.payload state.world).2, state.invoked ++ [packet.key], ?_, Or.inr rfl⟩
      dsimp only
      split <;> rfl

@[simp] theorem dispatch_sessions : (dispatchPacket tools packet state).2.sessions = state.sessions := by
  obtain ⟨world, invoked, same, -⟩ := dispatch_frame tools packet state
  rw [same]

@[simp] theorem dispatch_packets : (dispatchPacket tools packet state).2.packets = state.packets := by
  obtain ⟨world, invoked, same, -⟩ := dispatch_frame tools packet state
  rw [same]

@[simp] theorem dispatch_responses : (dispatchPacket tools packet state).2.responses = state.responses := by
  obtain ⟨world, invoked, same, -⟩ := dispatch_frame tools packet state
  rw [same]

@[simp] theorem dispatch_key_cache : (dispatchPacket tools packet state).2.keyCache = state.keyCache := by
  obtain ⟨world, invoked, same, -⟩ := dispatch_frame tools packet state
  rw [same]

theorem dispatch_invoked : (dispatchPacket tools packet state).2.invoked = state.invoked ∨
    (dispatchPacket tools packet state).2.invoked = state.invoked ++ [packet.key] := by
  obtain ⟨world, invoked, same, noted⟩ := dispatch_frame tools packet state
  rw [same]
  exact noted

end Dispatch

abbrev dispatched (tools : Tools ω) (packet : CanonicalPacketV2) (session : SessionRecord) (state : SessionState ω)
    (fresh : ¬ state.packets.Has packet.key) : Except PyError (Bool × Json) × SessionState ω :=
  dispatchPacket tools packet (admitted packet session state fresh)

-- What session_apply_packet can do, and what it leaves.
inductive Applies (tools : Tools ω) (raw : RawPacket) (before : SessionState ω) :
    Except PyError AppliedPacket → SessionState ω → Prop where
  | refused (raised : PyError) (not_admitted : ∀ packet session, ¬ Admits tools raw before packet session) :
      Applies tools raw before (.error raised) before
  | raised (packet : CanonicalPacketV2) (session : SessionRecord) (admits : Admits tools raw before packet session)
      (raised : PyError)
      (handler : (dispatched tools packet session before admits.fresh).1 = .error raised) :
      Applies tools raw before (.error raised)
        (dispatched tools packet session before admits.fresh).2
  | unanswered (packet : CanonicalPacketV2) (session : SessionRecord)
      (admits : Admits tools raw before packet session) (answer : Bool × Json)
      (handler : (dispatched tools packet session before admits.fresh).1 = .ok answer)
      (taken : before.responses.Has packet.key) :
      Applies tools raw before (.error (uniqueFailed "session_responses"))
        (dispatched tools packet session before admits.fresh).2
  | answered (packet : CanonicalPacketV2) (session : SessionRecord)
      (admits : Admits tools raw before packet session) (answer : Bool × Json)
      (handler : (dispatched tools packet session before admits.fresh).1 = .ok answer)
      (response : CanonicalResponseV2) (same : response.key = packet.key)
      (fresh : ¬ before.responses.Has response.key) :
      Applies tools raw before (.ok { accepted := answer.1, result := answer.2, response := response })
        { (dispatched tools packet session before admits.fresh).2 with
          responses := before.responses.append response fresh }

-- A packet whose proof verified gets its response signed, so only the insert
-- of the response can fail.
theorem respond_packet_cases (tools : Tools ω) (packet : CanonicalPacketV2) (session : SessionRecord) (accepted : Bool)
    (state : SessionState ω) (fits : sqlInteger packet.sequence = .ok (packet.sequence : Int))
    (proven : verifyPacketProof tools.platform packet session.capabilities.proofScheme
      (cachedKeys session packet.sessionId state) = true) :
    ∃ response : CanonicalResponseV2, response.key = packet.key ∧
      ((state.responses.Has packet.key ∧
          respondPacket tools packet session accepted state = (.error (uniqueFailed "session_responses"), state)) ∨
        ∃ fresh : ¬ state.responses.Has response.key, respondPacket tools packet session accepted state =
          (.ok response, { state with responses := state.responses.append response fresh })) := by
  obtain ⟨response, encoded⟩ := encode_response_verified tools.platform packet accepted session.capabilities _ proven
  have same := encode_response_key tools.platform packet accepted session.capabilities _ response encoded
  have sequence : response.sequence = packet.sequence := congrArg Prod.snd same
  rw [← sequence] at fits
  refine ⟨response, same, ?_⟩
  by_cases taken : state.responses.Has response.key
  · refine Or.inl ⟨same ▸ taken, ?_⟩
    simp only [respondPacket, encoded, writeSessionResponse, fits, Table.insert_taken state.responses response taken]
  · refine Or.inr ⟨taken, ?_⟩
    simp only [respondPacket, encoded, writeSessionResponse, fits, Table.insert_fresh state.responses response taken]

theorem apply_refused (tools : Tools ω) (raw : RawPacket) (state : SessionState ω)
    (none_admits : ∀ packet session, ¬ Admits tools raw state packet session) :
    ∃ raised, sessionApplyPacket tools raw state = (.error raised, state) := by
  obtain ⟨raised, refused⟩ := admit_packet_refused tools raw state none_admits
  exact ⟨raised, by simp only [sessionApplyPacket, refused]⟩

theorem apply_applies (tools : Tools ω) (raw : RawPacket) (state : SessionState ω) :
    Applies tools raw state (sessionApplyPacket tools raw state).1 (sessionApplyPacket tools raw state).2 := by
  by_cases some_admits : ∃ packet session, Admits tools raw state packet session
  · obtain ⟨packet, session, admits⟩ := some_admits
    have start := admit_packet_admits tools raw state packet session admits
    cases dispatch : dispatched tools packet session state admits.fresh with
    | mk handler after =>
        have called : (dispatched tools packet session state admits.fresh).1 = handler := by
          rw [dispatch]
        have reached : after = (dispatched tools packet session state admits.fresh).2 := by
          rw [dispatch]
        cases handler with
        | error raised =>
            simp only [sessionApplyPacket, start, dispatch]
            rw [reached]
            exact .raised packet session admits raised called
        | ok answer =>
            have unanswered : after.responses = state.responses := by rw [reached, dispatch_responses]; rfl
            have proven : verifyPacketProof tools.platform packet session.capabilities.proofScheme
                (cachedKeys session packet.sessionId after) = true := by
              rw [cachedKeys, reached, dispatch_key_cache]
              exact admits.proven
            obtain ⟨response, same, outcome⟩ :=
              respond_packet_cases tools packet session answer.1 after admits.fits proven
            rw [unanswered] at outcome
            obtain ⟨taken, failed⟩ | ⟨fresh, written⟩ := outcome
            · simp only [sessionApplyPacket, start, dispatch, failed]
              rw [reached]
              exact .unanswered packet session admits answer called taken
            · simp only [sessionApplyPacket, start, dispatch, written]
              rw [reached]
              exact .answered packet session admits answer called response same fresh
  · have none_admits : ∀ packet session, ¬ Admits tools raw state packet session :=
      fun packet session admits => some_admits ⟨packet, session, admits⟩
    obtain ⟨raised, refused⟩ := apply_refused tools raw state none_admits
    rw [refused]
    exact .refused raised none_admits

theorem admits_unique (tools : Tools ω) (raw : RawPacket) (state : SessionState ω) (packet other : CanonicalPacketV2)
    (session record : SessionRecord) (admits : Admits tools raw state packet session)
    (also : Admits tools raw state other record) : packet = other ∧ session = record := by
  have same : packet = other := Except.ok.inj (admits.valid.symm.trans also.valid)
  subst same
  exact ⟨rfl, Option.some.inj (admits.known.symm.trans also.known)⟩

theorem apply_admitted (tools : Tools ω) (raw : RawPacket) (state : SessionState ω) (packet : CanonicalPacketV2)
    (session : SessionRecord) (admits : Admits tools raw state packet session) :
    (sessionApplyPacket tools raw state).2.sessions = (admitted packet session state admits.fresh).sessions ∧
      (sessionApplyPacket tools raw state).2.packets = state.packets.append packet admits.fresh := by
  have applies := apply_applies tools raw state
  generalize sessionApplyPacket tools raw state = outcome at applies ⊢
  obtain ⟨result, after⟩ := outcome
  cases applies with
  | refused raised none_admits => exact absurd admits (none_admits packet session)
  | raised other record also raised handler =>
      obtain ⟨rfl, rfl⟩ := admits_unique tools raw state packet other session record admits also
      exact ⟨dispatch_sessions tools packet _, dispatch_packets tools packet _⟩
  | unanswered other record also answer handler taken =>
      obtain ⟨rfl, rfl⟩ := admits_unique tools raw state packet other session record admits also
      exact ⟨dispatch_sessions tools packet _, dispatch_packets tools packet _⟩
  | answered other record also answer handler response same fresh =>
      obtain ⟨rfl, rfl⟩ := admits_unique tools raw state packet other session record admits also
      exact ⟨dispatch_sessions tools packet _, dispatch_packets tools packet _⟩

inductive Operation where
  | sessionOpen (sessionId : String) (request : OpenRequest)
  | sessionEncodePacket (sessionId : String) (sequence : Int) (packetType : String) (payload : List (String × Json))
  | sessionApplyPacket (raw : RawPacket)
  | sessionCheckpoint (sessionId : String)
  | sessionRewindTo (sessionId : String) (sequence : Int)
  | sessionReplayFrom (sessionId : String) (sequence limit : Int)
  | sessionFork (forkedId sessionId : String) (fromSequence : Int) (newTransport : Option String)
  | closeSession (sessionId : String)

-- An operation that raises leaves what it had written.
def perform (tools : Tools ω) (state : SessionState ω) : Operation → SessionState ω
  | .sessionOpen sessionId request => (sessionOpen sessionId request state).2
  | .sessionEncodePacket _ _ _ _ => state
  | .sessionApplyPacket raw => (sessionApplyPacket tools raw state).2
  | .sessionCheckpoint _ => state
  | .sessionRewindTo sessionId sequence => (sessionRewindTo sessionId sequence state).2
  | .sessionReplayFrom sessionId sequence limit => (sessionReplayFrom tools sessionId sequence limit state).2
  | .sessionFork forkedId sessionId fromSequence newTransport =>
      (sessionFork forkedId sessionId fromSequence newTransport state).2
  | .closeSession sessionId => (closeSession sessionId state).2

-- The calls of session_apply_packet a list of packets comes to, each with the
-- state it is made in.
def applyCalls (tools : Tools ω) : List RawPacket → SessionState ω → List (SessionState ω × RawPacket)
  | [], _ => []
  | raw :: rest, state => (state, raw) :: match sessionApplyPacket tools raw state with
      | (.error _, _) => []
      | (.ok _, state) => applyCalls tools rest state

def packetCalls (tools : Tools ω) (state : SessionState ω) : Operation → List (SessionState ω × RawPacket)
  | .sessionApplyPacket raw => [(state, raw)]
  | .sessionReplayFrom sessionId sequence limit =>
      match replayedPackets sessionId sequence limit state with
      | .error _ => []
      | .ok packets => applyCalls tools (packets.map CanonicalPacketV2.modelDump) state
  | _ => []

-- session_apply_packet is called in the run, by a peer or by a replay.
def Called (tools : Tools ω) (start : SessionState ω) (operations : List Operation) (before : SessionState ω)
    (raw : RawPacket) : Prop :=
  ∃ state operation, Taken (perform tools) start operations state operation ∧
    (before, raw) ∈ packetCalls tools state operation

theorem apply_all_preserves (tools : Tools ω) (holds : SessionState ω → Prop) (raws : List RawPacket)
    (state : SessionState ω) (now : holds state)
    (applied : ∀ before raw, (before, raw) ∈ applyCalls tools raws state → holds before →
      holds (sessionApplyPacket tools raw before).2) : holds (applyAll tools raws state).2 := by
  induction raws generalizing state with
  | nil => exact now
  | cons raw rest ih =>
      have first := applied state raw (by simp [applyCalls]) now
      cases call : sessionApplyPacket tools raw state with
      | mk result after =>
          rw [call] at first
          cases result with
          | error raised => simpa only [applyAll, call] using first
          | ok done =>
              have later := ih after first fun before raw member =>
                applied before raw (by simp [applyCalls, call, member])
              cases remaining : applyAll tools rest after with
              | mk result final =>
                  rw [remaining] at later
                  cases result <;> simpa only [applyAll, call, remaining] using later

theorem apply_calls_hold (tools : Tools ω) (holds : SessionState ω → Prop) (raws : List RawPacket)
    (state : SessionState ω) (now : holds state)
    (applied : ∀ before raw, (before, raw) ∈ applyCalls tools raws state → holds before →
      holds (sessionApplyPacket tools raw before).2) :
    ∀ before raw, (before, raw) ∈ applyCalls tools raws state → holds before := by
  induction raws generalizing state with
  | nil =>
      intro before raw member
      simp [applyCalls] at member
  | cons first rest ih =>
      intro before raw member
      have next := applied state first (by simp [applyCalls]) now
      cases call : sessionApplyPacket tools first state with
      | mk result after =>
          rw [call] at next
          cases result with
          | error raised =>
              simp only [applyCalls, call, List.mem_singleton, Prod.mk.injEq] at member
              exact member.1 ▸ now
          | ok done =>
              simp only [applyCalls, call, List.mem_cons, Prod.mk.injEq] at member
              obtain ⟨rfl, -⟩ | later := member
              · exact now
              · exact ih after next (fun before raw member => applied before raw (by simp [applyCalls, call, member]))
                  before raw later

theorem perform_preserves (tools : Tools ω) (holds : SessionState ω → Prop) (state : SessionState ω)
    (operation : Operation) (now : holds state)
    (written : ∀ before session, holds before → holds (writeSession session before))
    (cached : ∀ before keyCache, holds before → holds { before with keyCache := keyCache })
    (applied : ∀ before raw, (before, raw) ∈ packetCalls tools state operation → holds before →
      holds (sessionApplyPacket tools raw before).2) : holds (perform tools state operation) := by
  cases operation with
  | sessionOpen sessionId request =>
      simp only [perform, sessionOpen]
      split
      · exact now
      · next session _ =>
          split
          · exact written state session now
          · exact cached _ _ (written state session now)
  | sessionEncodePacket _ _ _ _ => exact now
  | sessionApplyPacket raw => exact applied state raw (by simp [packetCalls]) now
  | sessionCheckpoint _ => exact now
  | sessionRewindTo sessionId sequence =>
      simp only [perform, sessionRewindTo]
      repeat' split
      · exact now
      · exact now
      · exact written state _ now
  | sessionReplayFrom sessionId sequence limit =>
      simp only [perform, sessionReplayFrom]
      cases replayed : replayedPackets sessionId sequence limit state with
      | error raised => exact now
      | ok packets =>
          refine apply_all_preserves tools holds _ state now fun before raw member => ?_
          exact applied before raw (by simpa only [packetCalls, replayed] using member)
  | sessionFork forkedId sessionId fromSequence newTransport =>
      simp only [perform, sessionFork]
      repeat' split
      · exact now
      · exact now
      · exact now
      · exact written state _ now
  | closeSession sessionId =>
      simp only [perform, closeSession]
      split
      · exact now
      · exact written state _ now

theorem session_run_invariant (tools : Tools ω) (holds : SessionState ω → Prop) (start : SessionState ω)
    (operations : List Operation) (initially : holds start)
    (written : ∀ before session, holds before → holds (writeSession session before))
    (cached : ∀ before keyCache, holds before → holds { before with keyCache := keyCache })
    (applied : ∀ before raw, Called tools start operations before raw → holds before →
      holds (sessionApplyPacket tools raw before).2) : holds (run (perform tools) start operations) := by
  refine run_invariant holds start operations initially fun state operation taken now => ?_
  exact perform_preserves tools holds state operation now written cached
    fun before raw member => applied before raw ⟨state, operation, taken, member⟩

theorem called_invariant (tools : Tools ω) (holds : SessionState ω → Prop) (start : SessionState ω)
    (operations : List Operation) (initially : holds start)
    (written : ∀ before session, holds before → holds (writeSession session before))
    (cached : ∀ before keyCache, holds before → holds { before with keyCache := keyCache })
    (applied : ∀ before raw, Called tools start operations before raw → holds before →
      holds (sessionApplyPacket tools raw before).2) :
    ∀ before raw, Called tools start operations before raw → holds before := by
  intro before raw called
  obtain ⟨state, operation, taken, member⟩ := called
  obtain ⟨pre, post, rfl, rfl⟩ := id taken
  have now : holds (run (perform tools) start pre) := by
    refine session_run_invariant tools holds start pre initially written cached ?_
    intro before raw called
    obtain ⟨state, earlier, takenEarlier, member⟩ := called
    exact applied before raw ⟨state, earlier, taken_front start pre _ state earlier takenEarlier, member⟩
  cases operation with
  | sessionApplyPacket again =>
      simp only [packetCalls, List.mem_singleton, Prod.mk.injEq] at member
      exact member.1 ▸ now
  | sessionReplayFrom sessionId sequence limit =>
      simp only [packetCalls] at member
      cases replayed : replayedPackets sessionId sequence limit (run (perform tools) start pre) with
      | error raised => simp [replayed] at member
      | ok packets =>
          simp only [replayed] at member
          refine apply_calls_hold tools holds _ _ now (fun before raw inner => ?_) before raw member
          exact applied before raw ⟨_, _, taken, by simpa only [packetCalls, replayed] using inner⟩
  | _ => simp [packetCalls] at member

end Vermyth
