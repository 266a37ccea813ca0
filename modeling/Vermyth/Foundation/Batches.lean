import Mathlib.Data.List.Basic
import Mathlib.Logic.Function.Iterate

set_option autoImplicit false

-- A queue whose front is worked off a batch at a time, where some items never
-- can be and stay where they are.
namespace Foundation

section Batches

variable {α : Type} (done : α → Bool) (size : Nat)

def batch (pending : List α) : List α :=
  (pending.take size).filter (fun item => !done item) ++ pending.drop size

def stuck (items : List α) : Nat := (items.filter fun item => !done item).length

variable {done size}

theorem stuck_le (items : List α) : stuck done items ≤ items.length := List.length_filter_le _ _

theorem stuck_append (pre post : List α) : stuck done (pre ++ post) = stuck done pre + stuck done post := by
  rw [stuck, List.filter_append, List.length_append]
  rfl

theorem stuck_filtered (items : List α) : stuck done (items.filter fun item => !done item) = stuck done items := by
  rw [stuck, stuck, List.filter_filter]
  simp only [Bool.and_self]

theorem batch_sublist (pending : List α) : (batch done size pending).Sublist pending := by
  conv_rhs => rw [← List.take_append_drop size pending]
  exact List.Sublist.append List.filter_sublist (List.Sublist.refl _)

theorem batches_sublist (pending : List α) (rounds : Nat) : ((batch done size)^[rounds] pending).Sublist pending := by
  induction rounds generalizing pending with
  | zero => exact List.Sublist.refl _
  | succ rounds ih => exact (ih (batch done size pending)).trans (batch_sublist pending)

theorem batch_before (pre post : List α) (item : α) (behind : size ≤ pre.length) :
    batch done size (pre ++ item :: post) = batch done size pre ++ item :: post := by
  rw [batch, batch, List.take_append_of_le_length behind, List.drop_append_of_le_length behind, List.append_assoc]

theorem stuck_batch (pending : List α) : stuck done (batch done size pending) = stuck done pending := by
  conv_rhs => rw [← List.take_append_drop size pending]
  rw [batch, stuck_append, stuck_append, stuck_filtered]

theorem batch_reached (pre post : List α) (item : α) (reached : pre.length < size) :
    ∃ rest, batch done size (pre ++ item :: post) =
      pre.filter (fun other => !done other) ++ (if done item then rest else item :: rest) := by
  obtain ⟨more, rfl⟩ := Nat.exists_eq_add_of_lt reached
  have front : (pre ++ item :: post).take (pre.length + more + 1) = pre ++ item :: post.take more := by
    rw [Nat.add_assoc, List.take_length_add_append, List.take_succ_cons]
  have back : (pre ++ item :: post).drop (pre.length + more + 1) = post.drop more := by
    rw [Nat.add_assoc, List.drop_length_add_append, List.drop_succ_cons]
  refine ⟨(post.take more).filter (fun other => !done other) ++ post.drop more, ?_⟩
  rw [batch, front, back, List.filter_append, List.append_assoc]
  congr 1
  by_cases finished : done item = true
  · rw [if_pos finished, List.filter_cons_of_neg (by simp [finished])]
  · rw [if_neg finished, List.filter_cons_of_pos (by simpa using finished), List.cons_append]

theorem batch_shorter (pre : List α) (behind : size ≤ pre.length) (room : stuck done pre < size) :
    (batch done size pre).length < pre.length := by
  have within : stuck done (pre.take size) ≤ stuck done pre := by
    conv_rhs => rw [← List.take_append_drop size pre]
    rw [stuck_append]
    exact Nat.le_add_right _ _
  rw [batch, List.length_append, List.length_drop]
  change stuck done (pre.take size) + _ < _
  omega

theorem batches_stuck (rounds : Nat) (pre post : List α) (item : α)
    (waits : done item = false ∨ size ≤ stuck done pre) : item ∈ (batch done size)^[rounds] (pre ++ item :: post) := by
  induction rounds generalizing pre post with
  | zero => exact List.mem_append_right _ List.mem_cons_self
  | succ rounds ih =>
      rw [Function.iterate_succ_apply]
      by_cases behind : size ≤ pre.length
      · rw [batch_before pre post item behind]
        exact ih _ _ (waits.imp_right fun crowded => (stuck_batch pre).symm ▸ crowded)
      · have undone : done item = false := by
          refine waits.resolve_right fun crowded => behind (Nat.le_trans crowded (stuck_le pre))
        obtain ⟨rest, batched⟩ := @batch_reached _ done size pre post item (Nat.not_le.mp behind)
        rw [batched, if_neg (by simp [undone])]
        exact ih _ _ (Or.inl undone)

theorem batches_done (rounds : Nat) (pre post : List α) (item : α) (finished : done item = true)
    (room : stuck done pre < size) (distinct : (pre ++ item :: post).Nodup) (enough : pre.length < rounds) :
    item ∉ (batch done size)^[rounds] (pre ++ item :: post) := by
  induction rounds generalizing pre post with
  | zero => exact absurd enough (Nat.not_lt_zero _)
  | succ rounds ih =>
      rw [Function.iterate_succ_apply]
      by_cases behind : size ≤ pre.length
      · rw [batch_before pre post item behind]
        have shorter := batch_shorter pre behind room
        refine ih _ _ ((stuck_batch pre).symm ▸ room) ?_ (by omega)
        exact distinct.sublist ((batch_sublist pre).append (List.Sublist.refl _))
      · intro member
        have left := (batches_sublist _ rounds).subset member
        have kept : (item :: post).Nodup := (List.nodup_append.mp distinct).2.1
        rw [batch] at left
        obtain taken | later := List.mem_append.mp left
        · have undone := (List.mem_filter.mp taken).2
          rw [finished] at undone
          contradiction
        · obtain ⟨more, rfl⟩ := Nat.exists_eq_add_of_lt (Nat.not_le.mp behind)
          rw [Nat.add_assoc, List.drop_length_add_append, List.drop_succ_cons] at later
          exact (List.nodup_cons.mp kept).1 (List.mem_of_mem_drop later)

theorem batches_left (rounds : Nat) (pre post : List α) (item : α) (distinct : (pre ++ item :: post).Nodup)
    (enough : (pre ++ item :: post).length ≤ rounds) :
    item ∈ (batch done size)^[rounds] (pre ++ item :: post) ↔ done item = false ∨ size ≤ stuck done pre := by
  constructor
  · intro left
    by_contra gone
    obtain ⟨finished, room⟩ := not_or.mp gone
    rw [List.length_append, List.length_cons] at enough
    exact batches_done rounds pre post item (by simpa using finished) (Nat.not_le.mp room) distinct (by omega) left
  · exact batches_stuck rounds pre post item

end Batches

end Foundation
