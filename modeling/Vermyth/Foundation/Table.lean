import Mathlib.Algebra.BigOperators.Group.List.Basic
import Mathlib.Data.List.Induction
import Mathlib.Data.List.Nodup
import Mathlib.Data.List.Sort

set_option autoImplicit false

namespace Foundation

structure Table {κ ρ : Type} (key : ρ → κ) where
  rows : List ρ
  distinct : (rows.map key).Nodup

namespace Table

variable {κ ρ : Type} {key : ρ → κ}

def empty : Table key where
  rows := []
  distinct := List.nodup_nil

def Has (table : Table key) (k : κ) : Prop := k ∈ table.rows.map key

instance [DecidableEq κ] (table : Table key) (k : κ) : Decidable (table.Has k) :=
  inferInstanceAs (Decidable (k ∈ table.rows.map key))

def append (table : Table key) (row : ρ) (fresh : ¬ table.Has (key row)) : Table key where
  rows := table.rows ++ [row]
  distinct := by
    rw [List.map_append, List.nodup_append]
    refine ⟨table.distinct, by simp, ?_⟩
    intro a inRows b isRow same
    rw [List.map_singleton, List.mem_singleton] at isRow
    exact fresh (isRow ▸ same ▸ inRows)

-- INSERT: none when the key is taken.
def insert? [DecidableEq κ] (table : Table key) (row : ρ) : Option (Table key) :=
  if fresh : table.Has (key row) then none else some (table.append row fresh)

def find? [DecidableEq κ] (table : Table key) (k : κ) : Option ρ := table.rows.find? fun row => key row = k

-- INSERT ... ON CONFLICT DO UPDATE: the row with this key is replaced.
def replace [DecidableEq κ] (key : ρ → κ) (rows : List ρ) (row : ρ) : List ρ :=
  rows.map fun old => if key old = key row then row else old

theorem replace_keys [DecidableEq κ] (rows : List ρ) (row : ρ) :
    (replace key rows row).map key = rows.map key := by
  rw [replace, List.map_map]
  refine List.map_congr_left fun old _ => ?_
  by_cases same : key old = key row <;> simp [same]

def upsert [DecidableEq κ] (table : Table key) (row : ρ) : Table key :=
  if fresh : table.Has (key row) then
    { rows := replace key table.rows row
      distinct := by rw [replace_keys]; exact table.distinct }
  else table.append row fresh

-- INSERT OR REPLACE: the row with this key goes and the new one comes last.
def put [DecidableEq κ] (table : Table key) (row : ρ) : Table key where
  rows := table.rows.filter (fun old => key old ≠ key row) ++ [row]
  distinct := by
    rw [List.map_append, List.nodup_append]
    refine ⟨table.distinct.sublist (List.filter_sublist.map key), by simp, ?_⟩
    intro a inRows b isRow same
    rw [List.map_singleton, List.mem_singleton] at isRow
    obtain ⟨old, member, rfl⟩ := List.mem_map.mp inRows
    exact of_decide_eq_true (List.mem_filter.mp member).2 (same.trans isRow)

-- UPDATE of other columns than the key.
def update (table : Table key) (change : ρ → ρ) (keeps : ∀ row, key (change row) = key row) : Table key where
  rows := table.rows.map change
  distinct := by
    rw [List.map_map]
    exact (List.map_congr_left fun row _ => keeps row) ▸ table.distinct

def only (table : Table key) (keep : ρ → Bool) : Table key where
  rows := table.rows.filter keep
  distinct := table.distinct.sublist (List.filter_sublist.map key)

theorem mem_put [DecidableEq κ] (table : Table key) (row old : ρ) :
    old ∈ (table.put row).rows ↔ (old ∈ table.rows ∧ key old ≠ key row) ∨ old = row := by
  simp [put]

theorem put_fresh [DecidableEq κ] (table : Table key) (row : ρ) (fresh : ¬ table.Has (key row)) :
    (table.put row).rows = table.rows ++ [row] := by
  have kept : table.rows.filter (fun old => key old ≠ key row) = table.rows := by
    rw [List.filter_eq_self]
    intro old member
    rw [decide_eq_true_eq]
    intro same
    exact fresh (same ▸ List.mem_map_of_mem member)
  simp only [put, kept]

theorem has_append (table : Table key) (row : ρ) (fresh : ¬ table.Has (key row)) (k : κ) :
    (table.append row fresh).Has k ↔ table.Has k ∨ k = key row := by
  simp [Has, append, eq_comm]

theorem has_upsert [DecidableEq κ] (table : Table key) (row : ρ) (k : κ) :
    (table.upsert row).Has k ↔ table.Has k ∨ k = key row := by
  by_cases taken : table.Has (key row)
  · rw [upsert, dif_pos taken, Has, replace_keys]
    constructor
    · exact Or.inl
    · intro either
      obtain had | same := either
      · exact had
      · exact same ▸ taken
  · rw [upsert, dif_neg taken, has_append]

theorem has_put [DecidableEq κ] (table : Table key) (row : ρ) (k : κ) :
    (table.put row).Has k ↔ table.Has k ∨ k = key row := by
  rw [Has, Has, List.mem_map, List.mem_map]
  constructor
  · rintro ⟨old, member, rfl⟩
    obtain ⟨kept, -⟩ | rfl := (mem_put table row old).mp member
    · exact Or.inl ⟨old, kept, rfl⟩
    · exact Or.inr rfl
  · rintro (⟨old, member, rfl⟩ | rfl)
    · by_cases same : key old = key row
      · exact ⟨row, (mem_put table row row).mpr (Or.inr rfl), same.symm⟩
      · exact ⟨old, (mem_put table row old).mpr (Or.inl ⟨member, same⟩), rfl⟩
    · exact ⟨row, (mem_put table row row).mpr (Or.inr rfl), rfl⟩

theorem mem_upsert [DecidableEq κ] (table : Table key) (row old : ρ) :
    old ∈ (table.upsert row).rows ↔ (old ∈ table.rows ∧ key old ≠ key row) ∨ old = row := by
  by_cases taken : table.Has (key row)
  · rw [upsert, dif_pos taken]
    change old ∈ table.rows.map (fun kept => if key kept = key row then row else kept) ↔ _
    rw [List.mem_map]
    constructor
    · rintro ⟨kept, member, rfl⟩
      by_cases same : key kept = key row
      · exact Or.inr (if_pos same)
      · rw [if_neg same]
        exact Or.inl ⟨member, same⟩
    · rintro (⟨member, different⟩ | rfl)
      · exact ⟨old, member, if_neg different⟩
      · obtain ⟨kept, member, same⟩ := List.mem_map.mp taken
        exact ⟨kept, member, if_pos same⟩
  · rw [upsert, dif_neg taken, append, List.mem_append, List.mem_singleton]
    constructor
    · rintro (member | rfl)
      · exact Or.inl ⟨member, fun same => taken (same ▸ List.mem_map_of_mem member)⟩
      · exact Or.inr rfl
    · rintro (⟨member, -⟩ | rfl)
      · exact Or.inl member
      · exact Or.inr rfl

theorem upsert_again [DecidableEq κ] (table : Table key) (a b : ρ) (same : key a = key b) :
    (table.upsert a).upsert b = table.upsert b := by
  have hasA : (table.upsert a).Has (key b) := (has_upsert table a (key b)).mpr (Or.inr same.symm)
  rw [upsert, dif_pos hasA]
  by_cases taken : table.Has (key b)
  · simp only [upsert, same, dif_pos taken, replace, List.map_map, mk.injEq]
    refine List.map_congr_left fun old _ => ?_
    by_cases here : key old = key b <;> simp [here, same]
  · have others : replace key table.rows b = table.rows := by
      have kept : ∀ old ∈ table.rows, (if key old = key b then b else old) = id old := by
        intro old member
        have differs : key old ≠ key b := fun here => taken (here ▸ List.mem_map_of_mem member)
        exact if_neg differs
      exact (List.map_congr_left kept).trans (List.map_id table.rows)
    simp only [upsert, same, dif_neg taken, append, mk.injEq]
    simp only [replace, List.map_append, List.map_cons, List.map_nil, same, if_true] at others ⊢
    rw [others]

theorem insert_taken [DecidableEq κ] (table : Table key) (row : ρ) (taken : table.Has (key row)) :
    table.insert? row = none := dif_pos taken

theorem insert_fresh [DecidableEq κ] (table : Table key) (row : ρ) (fresh : ¬ table.Has (key row)) :
    table.insert? row = some (table.append row fresh) := dif_neg fresh

theorem has_row (table : Table key) (row : ρ) (member : row ∈ table.rows) : table.Has (key row) :=
  List.mem_map_of_mem member

theorem find_key [DecidableEq κ] (table : Table key) (k : κ) (row : ρ) (found : table.find? k = some row) :
    key row = k := by
  simpa using List.find?_some found

theorem find_replace [DecidableEq κ] (rows : List ρ) (row : ρ) (k : κ) :
    (replace key rows row).find? (fun old => key old = k) =
      if key row = k ∧ k ∈ rows.map key then some row else rows.find? fun old => key old = k := by
  induction rows with
  | nil => simp [replace]
  | cons head tail ih =>
      simp only [replace] at ih
      by_cases same : key head = key row
      · by_cases here : key row = k <;> simp [replace, same, here, ih]
      · by_cases here : key head = k
        · subst here
          simp [replace, same, Ne.symm same]
        · simp [replace, same, here, ih, Ne.symm here]

theorem find_upsert [DecidableEq κ] (table : Table key) (row : ρ) (k : κ) :
    (table.upsert row).find? k = if key row = k then some row else table.find? k := by
  by_cases taken : table.Has (key row)
  · rw [upsert, dif_pos taken, find?, find_replace]
    by_cases here : key row = k
    · rw [if_pos ⟨here, here ▸ taken⟩, if_pos here]
    · rw [if_neg fun both => here both.1, if_neg here]
      rfl
  · rw [upsert, dif_neg taken, find?, append, List.find?_append]
    by_cases here : key row = k
    · have absent : table.rows.find? (fun old => key old = k) = none := by
        rw [List.find?_eq_none]
        intro old member equal
        exact taken (here ▸ of_decide_eq_true equal ▸ List.mem_map_of_mem member)
      simp [absent, here]
    · simp [here, find?]

theorem row_unique (table : Table key) (a b : ρ) (inA : a ∈ table.rows) (inB : b ∈ table.rows)
    (same : key a = key b) : a = b :=
  List.inj_on_of_nodup_map table.distinct inA inB same

theorem find_mem [DecidableEq κ] (table : Table key) (k : κ) (row : ρ) (found : table.find? k = some row) :
    row ∈ table.rows := List.mem_of_find?_eq_some found

theorem find_row [DecidableEq κ] (table : Table key) (row : ρ) (member : row ∈ table.rows) :
    table.find? (key row) = some row := by
  cases found : table.find? (key row) with
  | none =>
      rw [find?, List.find?_eq_none] at found
      exact absurd (decide_eq_true rfl) (found row member)
  | some own =>
      exact congrArg some (table.row_unique own row (table.find_mem _ own found) member (table.find_key _ own found))

theorem upsert_same [DecidableEq κ] (table : Table key) (row : ρ) (held : table.find? (key row) = some row) :
    table.upsert row = table := by
  have taken : table.Has (key row) := table.has_row row (table.find_mem _ row held)
  have kept : ∀ old ∈ table.rows, (if key old = key row then row else old) = id old := by
    intro old member
    by_cases same : key old = key row
    · rw [if_pos same]
      exact table.row_unique row old (table.find_mem _ row held) member same.symm
    · exact if_neg same
  simp only [upsert, dif_pos taken, replace]
  congr 1
  exact (List.map_congr_left kept).trans (List.map_id table.rows)

theorem find_upserts [DecidableEq κ] (rows : List ρ) (table : Table key) (k : κ) :
    (rows.foldl upsert table).find? k = (rows.reverse.find? fun row => key row = k).or (table.find? k) := by
  induction rows using List.reverseRecOn with
  | nil => rfl
  | append_singleton rows last ih =>
      rw [List.foldl_append, List.foldl_cons, List.foldl_nil, find_upsert, ih, List.reverse_append,
        List.reverse_singleton, List.singleton_append, List.find?_cons]
      by_cases here : key last = k <;> simp [here]

theorem has_upserts [DecidableEq κ] (rows : List ρ) (table : Table key) (k : κ) :
    (rows.foldl upsert table).Has k ↔ table.Has k ∨ k ∈ rows.map key := by
  induction rows using List.reverseRecOn with
  | nil => simp
  | append_singleton rows last ih =>
      rw [List.foldl_append, List.foldl_cons, List.foldl_nil, has_upsert, ih, List.map_append, List.mem_append,
        List.map_singleton, List.mem_singleton, or_assoc]

theorem mem_upserts [DecidableEq κ] (rows : List ρ) (table : Table key) (row : ρ)
    (member : row ∈ (rows.foldl upsert table).rows) : row ∈ table.rows ∨ row ∈ rows := by
  induction rows using List.reverseRecOn with
  | nil => exact Or.inl member
  | append_singleton rows last ih =>
      rw [List.foldl_append, List.foldl_cons, List.foldl_nil, mem_upsert] at member
      obtain ⟨earlier, -⟩ | rfl := member
      · exact (ih earlier).imp_right (List.mem_append_left _)
      · exact Or.inr (List.mem_append_right _ List.mem_cons_self)

theorem mem_puts [DecidableEq κ] (rows : List ρ) (table : Table key) (row : ρ)
    (member : row ∈ (rows.foldl put table).rows) : row ∈ table.rows ∨ row ∈ rows := by
  induction rows using List.reverseRecOn with
  | nil => exact Or.inl member
  | append_singleton rows last ih =>
      rw [List.foldl_append, List.foldl_cons, List.foldl_nil, mem_put] at member
      obtain ⟨earlier, -⟩ | rfl := member
      · obtain old | written := ih earlier
        · exact Or.inl old
        · exact Or.inr (List.mem_append_left _ written)
      · exact Or.inr (List.mem_append_right _ List.mem_cons_self)

theorem puts_fresh [DecidableEq κ] (rows : List ρ) (table : Table key) (distinct : (rows.map key).Nodup)
    (fresh : ∀ row ∈ rows, ¬ table.Has (key row)) : (rows.foldl put table).rows = table.rows ++ rows := by
  induction rows generalizing table with
  | nil => exact (List.append_nil _).symm
  | cons first rest ih =>
      rw [List.map_cons, List.nodup_cons] at distinct
      rw [List.forall_mem_cons] at fresh
      have later : ∀ row ∈ rest, ¬ (table.put first).Has (key row) := by
        intro row member has
        obtain old | same := (has_put table first (key row)).mp has
        · exact fresh.2 row member old
        · exact distinct.1 (same ▸ List.mem_map_of_mem member)
      rw [List.foldl_cons, ih (table.put first) distinct.2 later, put_fresh table first fresh.1, List.append_assoc,
        List.singleton_append]

section Total

variable {ν : Type} [AddCommMonoid ν]

def total (weight : ρ → ν) (table : Table key) : ν := (table.rows.map weight).sum

theorem sum_without_key [DecidableEq κ] (weight : ρ → ν) (rows : List ρ) (distinct : (rows.map key).Nodup) (k : κ) :
    ((rows.filter fun row => key row ≠ k).map weight).sum +
      ((rows.find? fun row => key row = k).map weight).getD 0 = (rows.map weight).sum := by
  induction rows with
  | nil => simp
  | cons first rest ih =>
      rw [List.map_cons, List.nodup_cons] at distinct
      have later := ih distinct.2
      by_cases here : key first = k
      · subst here
        have absent : rest.find? (fun row => key row = key first) = none := by
          rw [List.find?_eq_none]
          intro row member same
          exact distinct.1 (of_decide_eq_true same ▸ List.mem_map_of_mem member)
        rw [absent, Option.map_none, Option.getD_none, add_zero] at later
        simp only [List.filter_cons, List.find?_cons, List.map_cons, List.sum_cons, ne_eq, not_true_eq_false,
          decide_false, decide_true, Option.map_some, Option.getD_some, Bool.false_eq_true, if_false]
        simp only [ne_eq] at later
        rw [later, add_comm]
      · simp only [List.filter_cons, List.find?_cons, List.map_cons, List.sum_cons, ne_eq, here, not_false_eq_true,
          decide_true, decide_false, if_true]
        simp only [ne_eq] at later
        rw [add_assoc, later]

theorem total_put [DecidableEq κ] (weight : ρ → ν) (table : Table key) (row : ρ) :
    (table.put row).total weight + ((table.find? (key row)).map weight).getD 0 = table.total weight + weight row := by
  have others := sum_without_key weight table.rows table.distinct (key row)
  rw [total, total, put, List.map_append, List.sum_append, List.map_singleton, List.sum_singleton, add_assoc,
    add_comm (weight row), ← add_assoc]
  exact congrArg (· + weight row) others

end Total

end Table

theorem ordered_insert_last {α : Type} (le : α → α → Prop) [DecidableRel le] (item last : α) (rest : List α)
    (before : le item last) : (rest ++ [last]).orderedInsert le item = rest.orderedInsert le item ++ [last] := by
  induction rest with
  | nil => rw [List.nil_append, List.orderedInsert_cons, if_pos before]; rfl
  | cons first rest ih =>
      rw [List.cons_append, List.orderedInsert_cons, List.orderedInsert_cons]
      split_ifs
      · rfl
      · rw [ih, List.cons_append]

theorem insertion_sort_last {α : Type} (le : α → α → Prop) [DecidableRel le] (items : List α) (last : α)
    (before : ∀ item ∈ items, le item last) :
    (items ++ [last]).insertionSort le = items.insertionSort le ++ [last] := by
  induction items with
  | nil => rfl
  | cons first rest ih =>
      rw [List.forall_mem_cons] at before
      rw [List.cons_append, List.insertionSort_cons, List.insertionSort_cons, ih before.2,
        ordered_insert_last le first last _ before.1]

theorem foldr_max (versions : List Nat) (start : Nat) :
    versions.foldr max start = max (versions.foldr max 0) start := by
  induction versions with
  | nil => simp
  | cons first rest ih => rw [List.foldr_cons, List.foldr_cons, ih, max_assoc]

end Foundation
