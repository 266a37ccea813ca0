import Mathlib.Data.List.Sort
import Vermyth.Foundation.Table

set_option autoImplicit false

-- The newest of the items that are asked for, as ORDER BY .. DESC LIMIT gives
-- them, and tables whose rows stand for the items of another one.
namespace Foundation

section Latest

variable {α σ : Type} [LinearOrder σ] (stamp : α → σ) (wants : α → Bool) (limit : Nat)

def latest (items : List α) : List α :=
  ((items.filter wants).insertionSort fun a b => stamp b ≤ stamp a).take limit

structure Latest (items chosen : List α) : Prop where
  chosenOf : chosen.Subperm items
  wanted : ∀ item ∈ chosen, wants item = true
  count : chosen.length = min limit (items.filter wants).length
  latestFirst : chosen.Pairwise fun a b => stamp b ≤ stamp a
  leftOut : ∀ item ∈ items, wants item = true → item ∉ chosen → ∀ kept ∈ chosen, stamp item ≤ stamp kept

theorem latest_chosen (items : List α) : Latest stamp wants limit items (latest stamp wants limit items) := by
  let newer (a b : α) : Prop := stamp b ≤ stamp a
  have total : Std.Total newer := ⟨fun a b => le_total (stamp b) (stamp a)⟩
  have trans : IsTrans α newer := ⟨fun _ _ _ first second => le_trans second first⟩
  have sorted := List.pairwise_insertionSort newer (items.filter wants)
  have perm := List.perm_insertionSort newer (items.filter wants)
  have front : (latest stamp wants limit items).Sublist ((items.filter wants).insertionSort newer) :=
    List.take_sublist _ _
  refine ⟨?_, ?_, ?_, sorted.sublist front, ?_⟩
  · exact (front.subperm.trans perm.subperm).trans List.filter_sublist.subperm
  · exact fun item member => (List.mem_filter.mp (perm.mem_iff.mp (front.subset member))).2
  · rw [latest, List.length_take, List.length_insertionSort]
  · intro item member isWanted left kept isKept
    have split := List.take_append_drop limit ((items.filter wants).insertionSort newer)
    have inSorted := perm.mem_iff.mpr (List.mem_filter.mpr ⟨member, isWanted⟩)
    rw [← split, List.mem_append] at inSorted
    rw [← split] at sorted
    exact (List.pairwise_append.mp sorted).2.2 kept isKept item (inSorted.resolve_left left)

theorem latest_map {β : Type} (image : β → α) (items : List β) :
    latest stamp wants limit (items.map image) =
      (latest (stamp ∘ image) (wants ∘ image) limit items).map image := by
  rw [latest, List.filter_map, latest, List.map_take]
  refine congrArg _ (List.map_insertionSort _ _ _ _ ?_).symm
  exact fun a _ b _ => Iff.rfl

theorem latest_congr (other : α → Bool) (items : List α) (same : ∀ item ∈ items, wants item = other item) :
    latest stamp wants limit items = latest stamp other limit items := by
  rw [latest, List.filter_congr same, latest]

end Latest

-- LIMIT ?: a negative one is none.
def rowLimit (limit : Int) (total : Nat) : Nat := if limit < 0 then total else limit.toNat

namespace Table

variable {κ ρ α : Type} {key : ρ → κ} {name : α → κ} {image : α → ρ}

theorem has_image (named : ∀ value, key (image value) = name value) (table : Table key) (values : Table name)
    (same : table.rows = values.rows.map image) (k : κ) : table.Has k ↔ values.Has k := by
  rw [Has, Has, same, List.map_map]
  exact iff_of_eq (congrArg (k ∈ ·) (List.map_congr_left fun value _ => named value))

variable [DecidableEq κ]

theorem find_image (named : ∀ value, key (image value) = name value) (table : Table key) (values : Table name)
    (same : table.rows = values.rows.map image) (k : κ) : table.find? k = (values.find? k).map image := by
  rw [find?, find?, same, List.find?_map]
  refine congrArg (Option.map image) (congrArg (List.find? · _) (funext fun value => ?_))
  rw [Function.comp_apply, named]

theorem upsert_image (named : ∀ value, key (image value) = name value) (table : Table key) (values : Table name)
    (same : table.rows = values.rows.map image) (value : α) :
    (table.upsert (image value)).rows = (values.upsert value).rows.map image := by
  have has := has_image named table values same (key (image value))
  by_cases taken : values.Has (name value)
  · have also : table.Has (key (image value)) := has.mpr (named value ▸ taken)
    rw [upsert, dif_pos also, upsert, dif_pos taken]
    change replace key table.rows (image value) = (replace name values.rows value).map image
    rw [replace, replace, same, List.map_map, List.map_map]
    refine List.map_congr_left fun old _ => ?_
    rw [Function.comp_apply, Function.comp_apply, named, named, apply_ite image]
  · have also : ¬ table.Has (key (image value)) := fun had => taken (named value ▸ has.mp had)
    rw [upsert, dif_neg also, upsert, dif_neg taken]
    change table.rows ++ [image value] = (values.rows ++ [value]).map image
    rw [same, List.map_append, List.map_singleton]

end Table

end Foundation
