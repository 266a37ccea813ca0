import Mathlib.Data.List.Induction
import Mathlib.Data.List.Nodup
import Mathlib.Order.Bounds.Defs
import Mathlib.Order.MinMax

set_option autoImplicit false

-- Items grouped by a key, the groups in the order of their first items.
namespace Foundation

variable {κ α : Type} [DecidableEq κ]

-- setdefault(k, []).append(item)
def fileUnder (k : κ) (item : α) : List (κ × List α) → List (κ × List α)
  | [] => [(k, [item])]
  | (own, members) :: rest =>
      if own = k then (own, members ++ [item]) :: rest else (own, members) :: fileUnder k item rest

def grouped (key : α → κ) (items : List α) : List (κ × List α) :=
  items.foldl (fun groups item => fileUnder (key item) item groups) []

structure Grouping (key : α → κ) (items : List α) (groups : List (κ × List α)) : Prop where
  distinct : (groups.map Prod.fst).Nodup
  whole : ∀ group ∈ groups, group.2 = items.filter fun item => key item = group.1
  named : ∀ k, k ∈ groups.map Prod.fst ↔ ∃ item ∈ items, key item = k

theorem file_under_keys (k : κ) (item : α) (groups : List (κ × List α)) :
    (fileUnder k item groups).map Prod.fst =
      if k ∈ groups.map Prod.fst then groups.map Prod.fst else groups.map Prod.fst ++ [k] := by
  induction groups with
  | nil => rfl
  | cons first rest ih =>
      obtain ⟨own, members⟩ := first
      rw [fileUnder]
      by_cases same : own = k
      · rw [if_pos same, if_pos (by simp [same])]
        rfl
      · rw [if_neg same, List.map_cons, List.map_cons, ih]
        dsimp only
        by_cases later : k ∈ rest.map Prod.fst
        · rw [if_pos later, if_pos (List.mem_cons_of_mem own later)]
        · rw [if_neg later, if_neg]
          · rfl
          · intro member
            exact (List.mem_cons.mp member).elim (fun isOwn => same isOwn.symm) later

theorem mem_file_under (k : κ) (item : α) (groups : List (κ × List α)) (distinct : (groups.map Prod.fst).Nodup)
    (group : κ × List α) (member : group ∈ fileUnder k item groups) :
    (group.1 ≠ k ∧ group ∈ groups) ∨ (group.1 = k ∧ group.2 = [item] ∧ k ∉ groups.map Prod.fst) ∨
      (group.1 = k ∧ ∃ members, (k, members) ∈ groups ∧ group.2 = members ++ [item]) := by
  induction groups with
  | nil =>
      obtain rfl := List.mem_singleton.mp member
      exact .inr (.inl ⟨rfl, rfl, List.not_mem_nil⟩)
  | cons first rest ih =>
      obtain ⟨own, members⟩ := first
      obtain ⟨absent, others⟩ := List.nodup_cons.mp distinct
      rw [fileUnder] at member
      by_cases same : own = k
      · subst same
        rw [if_pos rfl] at member
        rcases List.mem_cons.mp member with rfl | inRest
        · exact .inr (.inr ⟨rfl, members, List.mem_cons_self, rfl⟩)
        · refine .inl ⟨?_, List.mem_cons_of_mem _ inRest⟩
          intro again
          exact absent (List.mem_map.mpr ⟨group, inRest, again⟩)
      · rw [if_neg same] at member
        rcases List.mem_cons.mp member with rfl | inRest
        · exact .inl ⟨same, List.mem_cons_self⟩
        · rcases ih others inRest with ⟨other, kept⟩ | ⟨isKey, single, fresh⟩ | ⟨isKey, old, kept, grown⟩
          · exact .inl ⟨other, List.mem_cons_of_mem _ kept⟩
          · refine .inr (.inl ⟨isKey, single, ?_⟩)
            intro taken
            exact (List.mem_cons.mp taken).elim (fun isOwn => same isOwn.symm) fresh
          · exact .inr (.inr ⟨isKey, old, List.mem_cons_of_mem _ kept, grown⟩)

theorem file_under_grouping (key : α → κ) (items : List α) (item : α) (groups : List (κ × List α))
    (before : Grouping key items groups) : Grouping key (items ++ [item]) (fileUnder (key item) item groups) := by
  constructor
  · rw [file_under_keys]
    split
    · exact before.distinct
    · rename_i fresh
      exact List.nodup_append.mpr ⟨before.distinct, List.nodup_singleton _, by
        intro a inGroups b isKey same
        exact fresh ((List.mem_singleton.mp isKey) ▸ same ▸ inGroups)⟩
  · intro group member
    rw [List.filter_append]
    rcases mem_file_under (key item) item groups before.distinct group member with
      ⟨other, kept⟩ | ⟨isKey, single, fresh⟩ | ⟨isKey, old, kept, grown⟩
    · rw [before.whole group kept, List.filter_singleton, decide_eq_false (Ne.symm other)]
      exact (List.append_nil _).symm
    · have none : (items.filter fun other => key other = group.1) = [] := by
        rw [List.filter_eq_nil_iff]
        intro other inItems same
        exact fresh ((before.named _).mpr ⟨other, inItems, (of_decide_eq_true same).trans isKey⟩)
      rw [none, List.filter_singleton, decide_eq_true isKey.symm, single]
      rfl
    · have whole := before.whole _ kept
      dsimp only at whole
      rw [grown, whole, isKey, List.filter_singleton, decide_eq_true rfl]
      rfl
  · intro k
    rw [file_under_keys]
    simp only [List.mem_append, List.mem_singleton, or_and_right, exists_or, exists_eq_left]
    split
    · rename_i taken
      rw [before.named]
      exact ⟨Or.inl, fun either => either.elim id fun isKey => isKey ▸ (before.named _).mp taken⟩
    · rw [List.mem_append, List.mem_singleton, before.named]
      exact or_congr Iff.rfl eq_comm

theorem grouped_grouping (key : α → κ) (items : List α) : Grouping key items (grouped key items) := by
  induction items using List.reverseRecOn with
  | nil => exact ⟨List.nodup_nil, fun group member => absurd member List.not_mem_nil, by simp [grouped]⟩
  | append_singleton items item ih =>
      rw [grouped, List.foldl_append]
      exact file_under_grouping key items item _ ih

theorem joined_sublist {α β : Type} (joined : α → Option β) (items : List α) :
    ((items.filterMap fun item => (joined item).map fun own => (own, item)).map Prod.snd).Sublist items := by
  induction items with
  | nil => exact List.Sublist.slnil
  | cons item rest ih =>
      cases own : joined item with
      | none =>
          rw [List.filterMap_cons_none (by rw [own]; rfl)]
          exact ih.cons item
      | some value =>
          rw [List.filterMap_cons_some (by rw [own]; rfl), List.map_cons]
          exact ih.cons_cons item

theorem max_greatest {α β : Type} [LinearOrder β] (amount : α → β) (missing : β) (items : List α)
    (some_ : items ≠ []) :
    IsGreatest {value | ∃ item ∈ items, amount item = value} ((items.map amount).max?.getD missing) := by
  cases found : (items.map amount).max? with
  | none =>
      rw [List.max?_eq_none_iff, List.map_eq_nil_iff] at found
      contradiction
  | some most =>
      obtain ⟨member, above⟩ := List.max?_eq_some_iff.mp found
      refine ⟨List.mem_map.mp member, ?_⟩
      rintro value ⟨item, inItems, rfl⟩
      exact above _ (List.mem_map_of_mem inItems)

end Foundation
