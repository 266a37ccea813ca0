import Mathlib.Data.List.Sort
import Vermyth.Foundation.Table
import Vermyth.Protocol.SessionCodec

set_option autoImplicit false

namespace Vermyth

open Foundation

-- What the session tools read and write: the three session tables, the
-- process's key cache and the rest of the store. invoked is the history of
-- handler calls, which the code does not keep.
structure SessionState (ω : Type) where
  sessions : Table SessionRecord.sessionId := Table.empty
  packets : Table CanonicalPacketV2.key := Table.empty
  responses : Table CanonicalResponseV2.key := Table.empty
  keyCache : String → Option SessionKeys := fun _ => none
  world : ω
  invoked : List PacketKey := []

variable {ω : Type}

def writeSession (session : SessionRecord) (state : SessionState ω) : SessionState ω :=
  { state with sessions := state.sessions.upsert session }

def readSession (sessionId : String) (state : SessionState ω) : Except PyError SessionRecord :=
  match state.sessions.find? sessionId with
  | none => .error (.keyError sessionId)
  | some session => .ok session

def closeSession (sessionId : String) (state : SessionState ω) : Except PyError SessionRecord × SessionState ω :=
  match readSession sessionId state with
  | .error raised => (.error raised, state)
  | .ok session =>
      let closed := { session with status := .closed }
      (.ok closed, writeSession closed state)

def advanceSessionSequence (sessionId : String) (newSequence : Nat) (state : SessionState ω) :
    Except PyError SessionRecord × SessionState ω :=
  match readSession sessionId state with
  | .error raised => (.error raised, state)
  | .ok session =>
      if newSequence ≤ session.lastSequence then
        (.error (.valueError "new_sequence must be greater than last_sequence"), state)
      else
        let advanced := { session with lastSequence := newSequence }
        (.ok advanced, writeSession advanced state)

def uniqueFailed (table : String) : PyError :=
  .valueError ("UNIQUE constraint failed: " ++ table ++ ".session_id, " ++ table ++ ".sequence")

def writeSessionPacket (packet : CanonicalPacketV2) (state : SessionState ω) :
    Except PyError Unit × SessionState ω :=
  match sqlInteger packet.sequence with
  | .error raised => (.error raised, state)
  | .ok _ =>
      match state.packets.insert? packet with
      | none => (.error (uniqueFailed "session_packets"), state)
      | some packets => (.ok (), { state with packets := packets })

def writeSessionResponse (response : CanonicalResponseV2) (state : SessionState ω) :
    Except PyError Unit × SessionState ω :=
  match sqlInteger response.sequence with
  | .error raised => (.error raised, state)
  | .ok _ =>
      match state.responses.insert? response with
      | none => (.error (uniqueFailed "session_responses"), state)
      | some responses => (.ok (), { state with responses := responses })

def loggedPackets (sessionId : String) (state : SessionState ω) : List CanonicalPacketV2 :=
  (state.packets.rows.filter fun packet => packet.sessionId = sessionId).insertionSort
    fun a b => a.sequence ≤ b.sequence

-- A negative LIMIT is none.
def querySessionPackets (sessionId : String) (limit : Int) (state : SessionState ω) :
    Except PyError (List CanonicalPacketV2) :=
  match sqlInteger limit with
  | .error raised => .error raised
  | .ok limit =>
      if limit < 0 then .ok (loggedPackets sessionId state)
      else .ok ((loggedPackets sessionId state).take limit.toNat)

theorem mem_logged (sessionId : String) (state : SessionState ω) (packet : CanonicalPacketV2) :
    packet ∈ loggedPackets sessionId state ↔ packet ∈ state.packets.rows ∧ packet.sessionId = sessionId := by
  simp [loggedPackets]

theorem query_logged (sessionId : String) (limit : Int) (state : SessionState ω) (packets : List CanonicalPacketV2)
    (ok : querySessionPackets sessionId limit state = .ok packets) :
    ∀ packet ∈ packets, packet ∈ state.packets.rows ∧ packet.sessionId = sessionId := by
  intro packet member
  rw [← mem_logged sessionId state packet]
  simp only [querySessionPackets] at ok
  cases bound : sqlInteger limit with
  | error raised => simp [bound] at ok
  | ok value =>
      simp only [bound] at ok
      split at ok
      · exact Except.ok.inj ok ▸ member
      · exact List.mem_of_mem_take (Except.ok.inj ok ▸ member)

end Vermyth
