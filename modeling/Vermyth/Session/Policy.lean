import Vermyth.Session.Replay

set_option autoImplicit false

namespace Vermyth

open Foundation

variable {ω : Type}

def payloadBytes (tools : Tools ω) (packet : CanonicalPacketV2) : Nat :=
  (canonicalJson tools.platform.floatRepr (.obj packet.payload)).utf8ByteSize

structure Permits (tools : Tools ω) (session : SessionRecord) (packet : CanonicalPacketV2) : Prop where
  isOpen : session.status = .opened
  allowed : ∀ names ∈ session.capabilities.allowedTools, packet.packetType ∈ names
  bounded : ∀ limit ∈ session.capabilities.maxPacketBytes, payloadBytes tools packet ≤ limit

def PermittedCall (tools : Tools ω) (before : SessionState ω) (raw : RawPacket) : Prop :=
  ∃ packet session, CanonicalPacketV2.modelValidate raw = .ok packet ∧
    before.sessions.find? packet.sessionId = some session ∧ Permits tools session packet

def lastSequence? (sessionId : String) (state : SessionState ω) : Option Nat :=
  (state.sessions.find? sessionId).map SessionRecord.lastSequence

-- The call dispatches a handler or changes some last_sequence.
def Acts (tools : Tools ω) (before : SessionState ω) (raw : RawPacket) : Prop :=
  (sessionApplyPacket tools raw before).2.invoked ≠ before.invoked ∨
    ∃ sessionId, lastSequence? sessionId (sessionApplyPacket tools raw before).2 ≠ lastSequence? sessionId before

-- The calls that act are those the code admits: no check of the status or of
-- a limit stands in between.
theorem acts_iff_admits (tools : Tools ω) (before : SessionState ω) (raw : RawPacket) :
    Acts tools before raw ↔ ∃ packet session, Admits tools raw before packet session := by
  constructor
  · intro acts
    by_contra none_admits
    obtain ⟨raised, refused⟩ := apply_refused tools raw before
      fun packet session admits => none_admits ⟨packet, session, admits⟩
    rw [Acts, refused] at acts
    obtain changed | ⟨sessionId, moved⟩ := acts
    · exact changed rfl
    · exact moved rfl
  · intro some_admits
    obtain ⟨packet, session, admits⟩ := some_admits
    refine Or.inr ⟨packet.sessionId, ?_⟩
    obtain ⟨sessions, -⟩ := apply_admitted tools raw before packet session admits
    have named : session.sessionId = packet.sessionId := Table.find_key before.sessions _ session admits.known
    have now : lastSequence? packet.sessionId (sessionApplyPacket tools raw before).2 = some packet.sequence := by
      rw [lastSequence?, sessions, admitted, writeSession, Table.find_upsert, if_pos named]
      rfl
    have earlier : lastSequence? packet.sessionId before = some session.lastSequence := by
      rw [lastSequence?, admits.known]
      rfl
    rw [now, earlier]
    intro same
    exact absurd admits.increasing (by rw [Option.some.inj same]; exact Nat.lt_irrefl _)

theorem session_policy_iff (tools : Tools ω) (start : SessionState ω) (operations : List Operation) :
    (∀ before raw, Called tools start operations before raw → Acts tools before raw →
        PermittedCall tools before raw) ↔
      ∀ before raw, Called tools start operations before raw →
        ∀ packet session, Admits tools raw before packet session → Permits tools session packet := by
  constructor
  · intro enforced before raw called packet session admits
    have acts := (acts_iff_admits tools before raw).mpr ⟨packet, session, admits⟩
    obtain ⟨other, record, valid, known, permits⟩ := enforced before raw called acts
    have same : packet = other := Except.ok.inj (admits.valid.symm.trans valid)
    subst same
    have sameRecord : session = record := Option.some.inj (admits.known.symm.trans known)
    exact sameRecord ▸ permits
  · intro permitted before raw called acts
    obtain ⟨packet, session, admits⟩ := (acts_iff_admits tools before raw).mp acts
    exact ⟨packet, session, admits.valid, admits.known, permitted before raw called packet session admits⟩

def closedOperations : List Operation :=
  [.sessionOpen "S" openHashed, .closeSession "S", .sessionApplyPacket ping]

theorem closed_session_applies :
    ¬ ∀ before raw, Called sampleTools { world := () } closedOperations before raw →
      Acts sampleTools before raw → PermittedCall sampleTools before raw := by
  intro enforced
  let closed := run (perform sampleTools) { world := () } [.sessionOpen "S" openHashed, .closeSession "S"]
  have called : Called sampleTools { world := () } closedOperations closed ping :=
    ⟨closed, .sessionApplyPacket ping, ⟨[.sessionOpen "S" openHashed, .closeSession "S"], [], rfl, rfl⟩,
      List.mem_singleton_self _⟩
  have acts : Acts sampleTools closed ping := Or.inr ⟨"S", by decide +kernel⟩
  obtain ⟨packet, session, valid, known, permits⟩ := enforced closed ping called acts
  have status : (closed.sessions.find? "S").map SessionRecord.status = some .closed := by decide +kernel
  rw [model_validate_session ping packet valid] at known
  have isClosed : session.status = .closed := by
    rw [show closed.sessions.find? "S" = some session from known] at status
    exact Option.some.inj status
  have impossible := isClosed.symm.trans permits.isOpen
  cases impossible

end Vermyth
