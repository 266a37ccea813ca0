import Mathlib.Data.List.Sort

set_option autoImplicit false

-- ORDER BY .. LIMIT: the rows of a query in their order, and the first of them.
namespace Foundation.Ranked

variable {α : Type} (le : α → α → Prop) [DecidableRel le]

theorem ordered_insert_first (item : α) (items : List α) (before : ∀ other ∈ items, le item other) :
    items.orderedInsert le item = item :: items := by
  cases items with
  | nil => rfl
  | cons first rest => rw [List.orderedInsert_cons, if_pos (before first List.mem_cons_self)]

theorem ordered_insert_after (item : α) (items : List α) (after : ∀ other ∈ items, ¬ le item other) :
    items.orderedInsert le item = items ++ [item] := by
  induction items with
  | nil => rfl
  | cons first rest ih =>
      obtain ⟨afterFirst, afterRest⟩ := List.forall_mem_cons.mp after
      rw [List.orderedInsert_cons, if_neg afterFirst, ih afterRest, List.cons_append]

theorem filter_ordered_insert [IsTrans α le] (keep : α → Bool) (item : α) (items : List α)
    (sorted : items.Pairwise le) :
    (items.orderedInsert le item).filter keep =
      if keep item then (items.filter keep).orderedInsert le item else items.filter keep := by
  induction items with
  | nil => by_cases kept : keep item <;> simp [kept]
  | cons first rest ih =>
      obtain ⟨least, later⟩ := List.pairwise_cons.mp sorted
      rw [List.orderedInsert_cons]
      by_cases before : le item first
      · have all : ∀ other ∈ (first :: rest).filter keep, le item other := by
          intro other member
          rcases List.mem_cons.mp (List.mem_filter.mp member).1 with rfl | inRest
          · exact before
          · exact Trans.trans before (least other inRest)
        rw [if_pos before, List.filter_cons]
        by_cases kept : keep item
        · rw [if_pos kept, if_pos kept, ordered_insert_first le item _ all]
        · rw [if_neg kept, if_neg kept]
      · rw [if_neg before, List.filter_cons, List.filter_cons, ih later]
        by_cases kept : keep item
        · by_cases keepsFirst : keep first
          · rw [if_pos kept, if_pos kept, if_pos keepsFirst, if_pos keepsFirst, List.orderedInsert_cons, if_neg before]
          · rw [if_pos kept, if_pos kept, if_neg keepsFirst, if_neg keepsFirst]
        · rw [if_neg kept, if_neg kept]

theorem filter_insertion_sort [Std.Total le] [IsTrans α le] (keep : α → Bool) (items : List α) :
    (items.insertionSort le).filter keep = (items.filter keep).insertionSort le := by
  induction items with
  | nil => rfl
  | cons first rest ih =>
      rw [List.insertionSort_cons, filter_ordered_insert le keep first _ (List.pairwise_insertionSort le rest), ih,
        List.filter_cons]
      by_cases kept : keep first
      · rw [if_pos kept, if_pos kept, List.insertionSort_cons]
      · rw [if_neg kept, if_neg kept]

theorem filter_take_mem (keep : α → Bool) (limit : Nat) (items : List α) (item : α)
    (member : item ∈ (items.take limit).filter keep) : item ∈ (items.filter keep).take limit := by
  obtain ⟨rest, split⟩ : ∃ rest, items = items.take limit ++ rest := ⟨_, (List.take_append_drop limit items).symm⟩
  have short : ((items.take limit).filter keep).length ≤ limit :=
    (List.length_filter_le keep _).trans (List.length_take_le limit items)
  have front : (items.take limit).filter keep ++ rest.filter keep = items.filter keep := by
    rw [← List.filter_append, ← split]
  rw [← front, List.take_append]
  exact List.mem_append_left _ (by rwa [List.take_of_length_le short])

theorem sort_by_place [DecidableEq α] (order items : List α) (distinct : order.Nodup) (nodup : items.Nodup)
    (known : ∀ item ∈ items, item ∈ order) :
    items.insertionSort (fun a b => order.idxOf a ≤ order.idxOf b) = order.filter fun item => item ∈ items := by
  have total : Std.Total fun a b => order.idxOf a ≤ order.idxOf b := ⟨fun a b => le_total _ _⟩
  have trans : IsTrans α fun a b => order.idxOf a ≤ order.idxOf b := ⟨fun _ _ _ first second => first.trans second⟩
  have sorted := List.pairwise_insertionSort (fun a b => order.idxOf a ≤ order.idxOf b) items
  have placed : order.Pairwise fun a b => order.idxOf a ≤ order.idxOf b := by
    rw [List.pairwise_iff_getElem]
    intro i j inside other less
    rw [distinct.idxOf_getElem i inside, distinct.idxOf_getElem j other]
    exact less.le
  have perm : (items.insertionSort fun a b => order.idxOf a ≤ order.idxOf b).Perm
      (order.filter fun item => item ∈ items) := by
    refine (List.perm_insertionSort _ _).trans ((List.perm_ext_iff_of_nodup nodup (distinct.filter _)).mpr fun item => ?_)
    rw [List.mem_filter, decide_eq_true_eq]
    exact ⟨fun member => ⟨known item member, member⟩, And.right⟩
  refine perm.eq_of_pairwise ?_ sorted (placed.filter _)
  intro a b left right first second
  exact ((List.idxOf_inj (List.mem_of_mem_filter right)).mp (le_antisymm second first)).symm

structure Leading {β : Type} [LE β] (score : α → β) (limit : Nat) (items front : List α) : Prop where
  size : front.length = min limit items.length
  sorted : front.Pairwise fun a b => score b ≤ score a
  highest : ∃ rest, (front ++ rest).Perm items ∧ ∀ kept ∈ front, ∀ out ∈ rest, score out ≤ score kept

theorem leading_take {β : Type} [LinearOrder β] (score : α → β) (limit : Nat) (items : List α) :
    Leading score limit items ((items.insertionSort fun a b => score b ≤ score a).take limit) := by
  have total : Std.Total fun a b => score b ≤ score a := ⟨fun a b => le_total _ _⟩
  have trans : IsTrans α fun a b => score b ≤ score a := ⟨fun _ _ _ first second => second.trans first⟩
  have sorted := List.pairwise_insertionSort (fun a b => score b ≤ score a) items
  have perm := List.perm_insertionSort (fun a b => score b ≤ score a) items
  refine ⟨?_, sorted.sublist (List.take_sublist _ _), (items.insertionSort fun a b => score b ≤ score a).drop limit,
    ?_, ?_⟩
  · rw [List.length_take, perm.length_eq]
  · rw [List.take_append_drop]
    exact perm
  · rw [← List.take_append_drop limit (items.insertionSort fun a b => score b ≤ score a)] at sorted
    exact fun kept inFront out inRest => (List.pairwise_append.mp sorted).2.2 kept inFront out inRest

end Foundation.Ranked
