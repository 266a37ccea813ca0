import Vermyth.Session.Policy

set_option autoImplicit false

namespace Vermyth

open Foundation

variable {ω : Type}

def loggedResponses (sessionId : String) (state : SessionState ω) : List CanonicalResponseV2 :=
  state.responses.rows.filter fun response => response.sessionId = sessionId

structure LeftAlone (tools : Tools ω) (before : SessionState ω) (raw : RawPacket) : Prop where
  sequence : lastSequence? raw.sessionId (sessionApplyPacket tools raw before).2 = lastSequence? raw.sessionId before
  packets : loggedPackets raw.sessionId (sessionApplyPacket tools raw before).2 = loggedPackets raw.sessionId before
  responses : loggedResponses raw.sessionId (sessionApplyPacket tools raw before).2 =
    loggedResponses raw.sessionId before
  resent : ∀ again packet session, Admits tools again before packet session →
    Admits tools again (sessionApplyPacket tools raw before).2 packet session

def Answered (state : SessionState ω) : Prop :=
  ∀ packet ∈ state.packets.rows, ∃! response, response ∈ state.responses.rows ∧ response.key = packet.key

structure NoHalfApplied (tools : Tools ω) (start : SessionState ω) (operations : List Operation) : Prop where
  leftAlone : ∀ before raw, Called tools start operations before raw →
    ∀ raised, (sessionApplyPacket tools raw before).1 = .error raised → LeftAlone tools before raw
  answered : ∀ pre post, operations = pre ++ post → Answered (run (perform tools) start pre)

def HandlerRaises (tools : Tools ω) (packet : CanonicalPacketV2) (world : ω) : Prop :=
  ∃ binaryHandler raised, (binaryDispatch tools).lookup packet.packetType = some binaryHandler ∧
    (binaryHandler packet.payload world).1 = .error raised

theorem dispatch_raises_iff (tools : Tools ω) (packet : CanonicalPacketV2) (state : SessionState ω) :
    (∃ raised, (dispatchPacket tools packet state).1 = .error raised) ↔ HandlerRaises tools packet state.world := by
  simp only [dispatchPacket, HandlerRaises]
  cases found : (binaryDispatch tools).lookup packet.packetType with
  | none => simp
  | some binaryHandler =>
      cases called : (binaryHandler packet.payload state.world).1 <;> simp [called]

theorem raising_handler (tools : Tools ω) (raw : RawPacket) (state : SessionState ω) (packet : CanonicalPacketV2)
    (session : SessionRecord) (admits : Admits tools raw state packet session)
    (raises : HandlerRaises tools packet state.world) :
    ∃ raised, (sessionApplyPacket tools raw state).1 = .error raised := by
  have applies := apply_applies tools raw state
  generalize sessionApplyPacket tools raw state = outcome at applies ⊢
  obtain ⟨result, after⟩ := outcome
  cases applies with
  | refused raised none_admits => exact ⟨raised, rfl⟩
  | raised other record also raised handler => exact ⟨raised, rfl⟩
  | unanswered other record also answer handler taken => exact ⟨_, rfl⟩
  | answered other record also answer handler response same fresh =>
      obtain ⟨rfl, rfl⟩ := admits_unique tools raw state packet other session record admits also
      obtain ⟨raised, failed⟩ :=
        (dispatch_raises_iff tools packet (admitted packet session state admits.fresh)).mpr raises
      rw [handler] at failed
      cases failed

theorem admitted_not_left_alone (tools : Tools ω) (raw : RawPacket) (state : SessionState ω)
    (packet : CanonicalPacketV2) (session : SessionRecord) (admits : Admits tools raw state packet session) :
    ¬ LeftAlone tools state raw := by
  intro same
  obtain ⟨-, packets⟩ := apply_admitted tools raw state packet session admits
  have named : packet.sessionId = raw.sessionId := model_validate_session raw packet admits.valid
  have logged : packet ∈ loggedPackets raw.sessionId (sessionApplyPacket tools raw state).2 := by
    rw [mem_logged, packets]
    exact ⟨List.mem_append_right _ (List.mem_singleton_self packet), named⟩
  rw [same.packets, mem_logged] at logged
  exact admits.fresh (Table.has_row state.packets packet logged.1)

def Paired (state : SessionState ω) : Prop := ∀ key, state.packets.Has key ↔ state.responses.Has key

theorem paired_answered (state : SessionState ω) (paired : Paired state) : Answered state := by
  intro packet member
  have has := (paired packet.key).mp (Table.has_row state.packets packet member)
  obtain ⟨response, inLog, same⟩ := List.mem_map.mp has
  refine ⟨response, ⟨inLog, same⟩, ?_⟩
  intro other answers
  obtain ⟨inOther, sameOther⟩ := answers
  exact Table.row_unique state.responses other response inOther inLog (sameOther.trans same.symm)

theorem paired_apply (tools : Tools ω) (raw : RawPacket) (state : SessionState ω) (paired : Paired state)
    (returns : ∀ packet session, Admits tools raw state packet session → ¬ HandlerRaises tools packet state.world) :
    (∃ raised, sessionApplyPacket tools raw state = (.error raised, state)) ∨
      (∃ applied, (sessionApplyPacket tools raw state).1 = .ok applied) ∧
        Paired (sessionApplyPacket tools raw state).2 := by
  have applies := apply_applies tools raw state
  generalize sessionApplyPacket tools raw state = outcome at applies ⊢
  obtain ⟨result, after⟩ := outcome
  cases applies with
  | refused raised none_admits => exact Or.inl ⟨raised, rfl⟩
  | raised packet session admits raised handler =>
      exact absurd ((dispatch_raises_iff tools packet _).mp ⟨raised, handler⟩) (returns packet session admits)
  | unanswered packet session admits answer handler taken =>
      exact absurd ((paired packet.key).mpr taken) admits.fresh
  | answered packet session admits answer handler response same fresh =>
      refine Or.inr ⟨⟨_, rfl⟩, fun key => ?_⟩
      have packets : (dispatched tools packet session state admits.fresh).2.packets =
          state.packets.append packet admits.fresh := dispatch_packets tools packet _
      show (dispatched tools packet session state admits.fresh).2.packets.Has key ↔
        (state.responses.append response fresh).Has key
      rw [packets, Table.has_append, Table.has_append, same, paired key]

theorem no_half_applied_iff (tools : Tools ω) (world : ω) (operations : List Operation) :
    NoHalfApplied tools { world := world } operations ↔
      ∀ before raw, Called tools { world := world } operations before raw →
        ∀ packet session, Admits tools raw before packet session → ¬ HandlerRaises tools packet before.world := by
  constructor
  · intro whole before raw called packet session admits raises
    obtain ⟨raised, failed⟩ := raising_handler tools raw before packet session admits raises
    exact admitted_not_left_alone tools raw before packet session admits
      (whole.leftAlone before raw called raised failed)
  · intro returns
    have initially : Paired ({ world := world } : SessionState ω) := fun key => Iff.rfl
    have applied : ∀ before raw, Called tools { world := world } operations before raw → Paired before →
        Paired (sessionApplyPacket tools raw before).2 := by
      intro before raw called paired
      obtain ⟨raised, refused⟩ | ⟨-, still⟩ := paired_apply tools raw before paired (returns before raw called)
      · rw [refused]
        exact paired
      · exact still
    refine ⟨fun before raw called raised failed => ?_, ?_⟩
    · have paired := called_invariant tools Paired _ operations initially (fun _ _ holds => holds)
        (fun _ _ holds => holds) applied before raw called
      obtain ⟨_, refused⟩ | ⟨⟨done, succeeded⟩, -⟩ := paired_apply tools raw before paired (returns before raw called)
      · have same : (sessionApplyPacket tools raw before).2 = before := by rw [refused]
        exact ⟨by rw [same], by rw [same], by rw [same], fun again packet session admits => same.symm ▸ admits⟩
      · rw [succeeded] at failed
        cases failed
    · intro pre post split
      subst split
      refine paired_answered _ (session_run_invariant tools Paired _ pre initially (fun _ _ holds => holds)
        (fun _ _ holds => holds) ?_)
      intro before raw called
      obtain ⟨state, operation, taken, member⟩ := called
      exact applied before raw ⟨state, operation, taken_front _ pre post state operation taken, member⟩

def versionless : RawPacket where
  sessionId := "S"
  sequence := 1
  packetType := "geometric_cast"
  payloadHash := versionHash
  payload := [("version", .null)]
  proof := "18c2fcb6c48dc46dacda0163e8650d90c215fbcb81ee74f833bebc6bf704c1ee"

-- int(None) raises after the packet is logged.
theorem raising_packet_half_applied :
    ¬ NoHalfApplied sampleTools { world := () } [.sessionOpen "S" openHashed, .sessionApplyPacket versionless] := by
  intro whole
  let opened := run (perform sampleTools) { world := () } [.sessionOpen "S" openHashed]
  have called : Called sampleTools { world := () } [.sessionOpen "S" openHashed, .sessionApplyPacket versionless]
      opened versionless :=
    ⟨opened, .sessionApplyPacket versionless, ⟨[.sessionOpen "S" openHashed], [], rfl, rfl⟩,
      List.mem_singleton_self _⟩
  obtain ⟨raises, moved⟩ : (sessionApplyPacket sampleTools versionless opened).1.isOk = false ∧
      lastSequence? "S" (sessionApplyPacket sampleTools versionless opened).2 ≠ lastSequence? "S" opened := by
    decide +kernel
  cases call : (sessionApplyPacket sampleTools versionless opened).1 with
  | ok applied =>
      rw [call] at raises
      cases raises
  | error raised => exact moved (whole.leftAlone opened versionless called raised call).sequence

end Vermyth
