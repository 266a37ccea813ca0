import Mathlib.Algebra.GroupWithZero.Nat
import Vermyth.Foundation.Tally

set_option autoImplicit false

-- Counts by key, as collections.Counter keeps them.
namespace Foundation

variable {κ : Type} [DecidableEq κ]

abbrev Counter (κ : Type) := Table (Prod.fst : κ × Nat → κ)

namespace Counter

def count (counter : Counter κ) (k : κ) : Nat := ((counter.find? k).map Prod.snd).getD 0

def add (counter : Counter κ) (entry : κ × Nat) : Counter κ :=
  counter.upsert (entry.1, counter.count entry.1 + entry.2)

theorem count_empty (k : κ) : count (Table.empty : Counter κ) k = 0 := rfl

theorem has_add (counter : Counter κ) (entry : κ × Nat) (k : κ) :
    (counter.add entry).Has k ↔ counter.Has k ∨ entry.1 = k :=
  Tally.has_add counter entry k

theorem count_adds (counter : Counter κ) (entries : List (κ × Nat)) (k : κ) :
    (entries.foldl add counter).count k =
      counter.count k + ((entries.filter fun entry => entry.1 = k).map Prod.snd).sum :=
  Tally.total_adds counter entries k

theorem has_adds (counter : Counter κ) (entries : List (κ × Nat)) (k : κ) :
    (entries.foldl add counter).Has k ↔ counter.Has k ∨ k ∈ entries.map Prod.fst :=
  Tally.has_adds counter entries k

theorem count_ones {α : Type} (items : List α) (named : α → Option κ) (k : κ) :
    (((items.filterMap fun item => (named item).map fun own => (own, 1)).filter fun entry => entry.1 = k).map
      Prod.snd).sum = items.countP fun item => named item = some k := by
  induction items with
  | nil => rfl
  | cons item rest ih =>
      cases own : named item with
      | none =>
          rw [List.filterMap_cons_none (by rw [own]; rfl), ih, List.countP_cons_of_neg (by simp [own])]
      | some other =>
          rw [List.filterMap_cons_some (by rw [own]; rfl)]
          by_cases same : other = k
          · rw [List.filter_cons, if_pos (decide_eq_true same), List.map_cons, List.sum_cons, ih,
              List.countP_cons_of_pos (by simp [own, same]), Nat.add_comm]
          · rw [List.filter_cons, if_neg (by simpa using same), ih, List.countP_cons_of_neg (by simp [own, same])]

end Counter

end Foundation
