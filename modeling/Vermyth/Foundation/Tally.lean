import Mathlib.Algebra.BigOperators.Group.List.Basic
import Vermyth.Foundation.Table

set_option autoImplicit false

-- Amounts by key, as a dict adds them up that is read with a default of zero.
namespace Foundation

abbrev Tally (κ M : Type) := Table (Prod.fst : κ × M → κ)

namespace Tally

variable {κ M : Type} [DecidableEq κ] [AddCommMonoid M]

def total (tally : Tally κ M) (k : κ) : M := ((tally.find? k).map Prod.snd).getD 0

def add (tally : Tally κ M) (entry : κ × M) : Tally κ M :=
  tally.upsert (entry.1, tally.total entry.1 + entry.2)

theorem total_row (tally : Tally κ M) (row : κ × M) (member : row ∈ tally.rows) : tally.total row.1 = row.2 := by
  rw [total, Table.find_row tally row member]
  rfl

theorem total_add (tally : Tally κ M) (entry : κ × M) (k : κ) :
    (tally.add entry).total k = tally.total k + if entry.1 = k then entry.2 else 0 := by
  have found := Table.find_upsert tally (entry.1, tally.total entry.1 + entry.2) k
  by_cases same : entry.1 = k
  · rw [if_pos same]
    rw [if_pos same] at found
    rw [total, add, found, ← same]
    rfl
  · rw [if_neg same, add_zero]
    rw [if_neg same] at found
    rw [total, add, found]
    rfl

theorem has_add (tally : Tally κ M) (entry : κ × M) (k : κ) :
    (tally.add entry).Has k ↔ tally.Has k ∨ entry.1 = k := by
  rw [add, Table.has_upsert]
  exact or_congr_right eq_comm

theorem total_adds (tally : Tally κ M) (entries : List (κ × M)) (k : κ) :
    (entries.foldl add tally).total k =
      tally.total k + ((entries.filter fun entry => entry.1 = k).map Prod.snd).sum := by
  induction entries generalizing tally with
  | nil => exact (add_zero _).symm
  | cons entry rest ih =>
      rw [List.foldl_cons, ih, total_add]
      by_cases same : entry.1 = k
      · rw [if_pos same, List.filter_cons, if_pos (decide_eq_true same), List.map_cons, List.sum_cons, add_assoc]
      · rw [if_neg same, List.filter_cons, if_neg (by simpa using same), add_zero]

theorem has_adds (tally : Tally κ M) (entries : List (κ × M)) (k : κ) :
    (entries.foldl add tally).Has k ↔ tally.Has k ∨ k ∈ entries.map Prod.fst := by
  induction entries generalizing tally with
  | nil => simp
  | cons entry rest ih =>
      rw [List.foldl_cons, ih, has_add, List.map_cons, List.mem_cons, or_assoc, eq_comm]

structure Tallied (entries rows : List (κ × M)) : Prop where
  distinct : (rows.map Prod.fst).Nodup
  named : ∀ k, k ∈ rows.map Prod.fst ↔ k ∈ entries.map Prod.fst
  amounts : ∀ row ∈ rows, row.2 = ((entries.filter fun entry => entry.1 = row.1).map Prod.snd).sum

theorem tallied_adds (entries : List (κ × M)) :
    Tallied entries (entries.foldl add (Table.empty : Tally κ M)).rows := by
  refine ⟨(entries.foldl add Table.empty).distinct, ?_, ?_⟩
  · intro k
    have keys := has_adds (Table.empty : Tally κ M) entries k
    exact keys.trans (or_iff_right List.not_mem_nil)
  · intro row member
    have amount := total_adds (Table.empty : Tally κ M) entries row.1
    rw [total_row _ row member] at amount
    exact amount.trans (zero_add _)

end Tally

end Foundation
