import Vermyth.Session.Run

set_option autoImplicit false

namespace Vermyth

open Foundation

variable {ω : Type}

structure InvokedOnce (state : SessionState ω) : Prop where
  distinct : state.invoked.Nodup
  logged : ∀ key ∈ state.invoked, state.packets.Has key

theorem dispatch_once (tools : Tools ω) (packet : CanonicalPacketV2) (session : SessionRecord) (state : SessionState ω)
    (fresh : ¬ state.packets.Has packet.key) (once : InvokedOnce state) :
    InvokedOnce (dispatched tools packet session state fresh).2 := by
  have packets : (dispatched tools packet session state fresh).2.packets =
      state.packets.append packet fresh := dispatch_packets tools packet _
  have still : ∀ key ∈ state.invoked, (state.packets.append packet fresh).Has key := fun key member =>
    (Table.has_append state.packets packet fresh key).mpr (Or.inl (once.logged key member))
  obtain same | added := dispatch_invoked tools packet (admitted packet session state fresh)
  · have invoked : (dispatched tools packet session state fresh).2.invoked = state.invoked := same
    exact ⟨invoked ▸ once.distinct, by rw [invoked, packets]; exact still⟩
  · have invoked : (dispatched tools packet session state fresh).2.invoked =
        state.invoked ++ [packet.key] := added
    have unseen : packet.key ∉ state.invoked := fun seen => fresh (once.logged packet.key seen)
    refine ⟨?_, ?_⟩
    · rw [invoked, ← List.concat_eq_append]
      exact List.Nodup.concat unseen once.distinct
    · intro key member
      rw [packets]
      rw [invoked, List.mem_append, List.mem_singleton] at member
      obtain earlier | now := member
      · exact still key earlier
      · exact (Table.has_append state.packets packet fresh key).mpr (Or.inr now)

theorem apply_once (tools : Tools ω) (raw : RawPacket) (state : SessionState ω) (once : InvokedOnce state) :
    InvokedOnce (sessionApplyPacket tools raw state).2 := by
  have applies := apply_applies tools raw state
  generalize sessionApplyPacket tools raw state = outcome at applies
  obtain ⟨result, after⟩ := outcome
  cases applies with
  | refused raised none_admits => exact once
  | raised packet session admits raised handler => exact dispatch_once tools packet session state admits.fresh once
  | unanswered packet session admits answer handler taken =>
      exact dispatch_once tools packet session state admits.fresh once
  | answered packet session admits answer handler response same fresh =>
      have called := dispatch_once tools packet session state admits.fresh once
      exact ⟨called.distinct, called.logged⟩

theorem dispatched_at_most_once (tools : Tools ω) (store : SessionState ω) (operations : List Operation)
    (key : PacketKey) :
    (run (perform tools) { store with invoked := [] } operations).invoked.count key ≤ 1 := by
  have once : InvokedOnce (run (perform tools) { store with invoked := [] } operations) := by
    refine session_run_invariant tools InvokedOnce _ operations ⟨List.nodup_nil, by simp⟩ ?_ ?_ ?_
    · exact fun before session holds => ⟨holds.distinct, holds.logged⟩
    · exact fun before keyCache holds => ⟨holds.distinct, holds.logged⟩
    · exact fun before raw _ holds => apply_once tools raw before holds
  exact List.nodup_iff_count_le_one.mp once.distinct key

end Vermyth
