import Mathlib.Data.List.Sort

set_option autoImplicit false

-- The items in an order, and of those of one key the first alone.
namespace Foundation

variable {α κ : Type} [DecidableEq κ] (key : α → κ) (le : α → α → Prop) [DecidableRel le]

def firstOfEach (seen : List κ) : List α → List α
  | [] => []
  | item :: rest =>
      if key item ∈ seen then firstOfEach seen rest else item :: firstOfEach (key item :: seen) rest

def strongest (items : List α) : List α := firstOfEach key [] (items.insertionSort le)

theorem first_of_each_sublist (seen : List κ) (items : List α) : (firstOfEach key seen items).Sublist items := by
  induction items generalizing seen with
  | nil => exact List.Sublist.slnil
  | cons item rest ih =>
      rw [firstOfEach]
      by_cases known : key item ∈ seen
      · rw [if_pos known]
        exact (ih seen).cons item
      · rw [if_neg known]
        exact (ih _).cons_cons item

theorem first_of_each_unseen (seen : List κ) (items : List α) (item : α)
    (member : item ∈ firstOfEach key seen items) : key item ∉ seen := by
  induction items generalizing seen with
  | nil => exact absurd member List.not_mem_nil
  | cons first rest ih =>
      rw [firstOfEach] at member
      by_cases known : key first ∈ seen
      · rw [if_pos known] at member
        exact ih seen member
      · rw [if_neg known] at member
        obtain rfl | later := List.mem_cons.mp member
        · exact known
        · exact fun held => ih _ later (List.mem_cons_of_mem _ held)

theorem first_of_each_distinct (seen : List κ) (items : List α) :
    ((firstOfEach key seen items).map key).Nodup := by
  induction items generalizing seen with
  | nil => exact List.nodup_nil
  | cons first rest ih =>
      rw [firstOfEach]
      by_cases known : key first ∈ seen
      · rw [if_pos known]
        exact ih seen
      · rw [if_neg known, List.map_cons, List.nodup_cons]
        refine ⟨fun repeated => ?_, ih _⟩
        obtain ⟨item, member, same⟩ := List.mem_map.mp repeated
        refine first_of_each_unseen key _ rest item member ?_
        rw [same]
        exact List.mem_cons_self

variable {le}

-- What is left out stands behind one of its key that is kept.
omit [DecidableRel le] in
theorem first_of_each_first (refl : ∀ item : α, le item item) (seen : List κ) (items : List α)
    (sorted : items.Pairwise le) (item : α) (member : item ∈ items) (unseen : key item ∉ seen) :
    ∃ kept ∈ firstOfEach key seen items, key kept = key item ∧ le kept item := by
  induction items generalizing seen with
  | nil => exact absurd member List.not_mem_nil
  | cons first rest ih =>
      obtain ⟨least, restSorted⟩ := List.pairwise_cons.mp sorted
      rw [firstOfEach]
      by_cases known : key first ∈ seen
      · obtain rfl | later := List.mem_cons.mp member
        · exact absurd known unseen
        · rw [if_pos known]
          exact ih seen restSorted later unseen
      · rw [if_neg known]
        by_cases same : key first = key item
        · refine ⟨first, List.mem_cons_self, same, ?_⟩
          obtain rfl | later := List.mem_cons.mp member
          · exact refl item
          · exact least item later
        · obtain rfl | later := List.mem_cons.mp member
          · exact absurd rfl same
          · have fresh : key item ∉ key first :: seen := by
              rw [List.mem_cons]
              exact not_or.mpr ⟨Ne.symm same, unseen⟩
            obtain ⟨kept, isKept, sameKey, before⟩ := ih _ restSorted later fresh
            exact ⟨kept, List.mem_cons_of_mem _ isKept, sameKey, before⟩

variable (le)

structure Strongest (items chosen : List α) : Prop where
  chosenOf : ∀ item ∈ chosen, item ∈ items
  distinct : (chosen.map key).Nodup
  sorted : chosen.Pairwise le
  covers : ∀ item ∈ items, ∃ kept ∈ chosen, key kept = key item ∧ le kept item

theorem strongest_chosen [Std.Total le] [IsTrans α le] (refl : ∀ item : α, le item item) (items : List α) :
    Strongest key le items (strongest key le items) := by
  have sorted := List.pairwise_insertionSort le items
  have sublist := first_of_each_sublist key [] (items.insertionSort le)
  refine ⟨?_, first_of_each_distinct key [] _, sorted.sublist sublist, ?_⟩
  · exact fun item member => (List.mem_insertionSort le).mp (sublist.subset member)
  · intro item member
    exact first_of_each_first key refl [] _ sorted item ((List.mem_insertionSort le).mpr member) List.not_mem_nil

end Foundation
