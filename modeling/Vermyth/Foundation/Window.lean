import Mathlib.Data.List.DropRight
import Vermyth.Foundation.Transition

set_option autoImplicit false

-- A queue of bounded length that lets its oldest items go, and what is read
-- from the end of it.
namespace Foundation.Window

variable {α : Type}

def keep (limit : Nat) (items : List α) (item : α) : List α := (items ++ [item]).rtake limit

theorem rtake_length (items : List α) (limit : Nat) : (items.rtake limit).length = min limit items.length := by
  rw [List.rtake, List.length_drop]
  omega

theorem rtake_rtake (items : List α) (wide narrow : Nat) (within : narrow ≤ wide) :
    (items.rtake wide).rtake narrow = items.rtake narrow := by
  rw [List.rtake, rtake_length, List.rtake, List.rtake, List.drop_drop]
  congr 1
  omega

theorem run_keep (limit : Nat) (items : List α) : run (keep limit) [] items = items.rtake limit := by
  induction items using List.reverseRecOn with
  | nil => rw [run_nil, List.rtake_nil]
  | append_singleton items item ih =>
      rw [run_concat, ih, keep]
      cases limit with
      | zero => rw [List.rtake_zero, List.rtake_zero]
      | succ limit =>
          rw [List.rtake_concat_succ, List.rtake_concat_succ, rtake_rtake items (limit + 1) limit (Nat.le_succ limit)]

theorem keep_rtake (limit : Nat) (items : List α) (item : α) :
    keep limit (items.rtake limit) item = (items ++ [item]).rtake limit := by
  rw [← run_keep limit items, ← run_keep limit (items ++ [item]), run_concat]

theorem rtake_split (items : List α) (wide narrow : Nat) (within : narrow ≤ wide) :
    (items.rtake wide).rdrop narrow ++ items.rtake narrow = items.rtake wide := by
  rw [← rtake_rtake items wide narrow within]
  exact List.take_append_drop _ _

theorem rtake_append_iff (front back : List α) (count : Nat) :
    (front ++ back).rtake count = back.rtake count ↔ front = [] ∨ count ≤ back.length := by
  constructor
  · intro same
    have lengths := congrArg List.length same
    rw [rtake_length, rtake_length, List.length_append] at lengths
    by_cases empty : front = []
    · exact Or.inl empty
    · have positive := List.length_pos_iff.mpr empty
      exact Or.inr (by omega)
  · rintro (rfl | enough)
    · rfl
    · rw [List.rtake, List.rtake, List.length_append, List.drop_append,
        List.drop_eq_nil_of_le (by omega : front.length ≤ front.length + back.length - count), List.nil_append]
      congr 1
      omega

theorem same_last_iff (passes : α → Bool) (items : List α) (wide narrow count : Nat) (within : narrow ≤ wide) :
    ((items.rtake wide).filter passes).rtake count = ((items.rtake narrow).filter passes).rtake count ↔
      count ≤ (items.rtake narrow).countP passes ∨ ∀ item ∈ (items.rtake wide).rdrop narrow, passes item = false := by
  rw [← rtake_split items wide narrow within, List.filter_append, rtake_append_iff,
    rtake_split items wide narrow within, ← List.countP_eq_length_filter, List.filter_eq_nil_iff, or_comm]
  simp only [Bool.not_eq_true]

end Foundation.Window
