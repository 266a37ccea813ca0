import Vermyth.Protocol.JsonRoundTrip
import Vermyth.Schema.Swarm

set_option autoImplicit false

namespace Vermyth

-- Two dicts with the same values up to the order of keys, at any depth.
def Alike (a b : List (String × Json)) : Prop :=
  ∀ key, (a.lookup key).map Json.sorted = (b.lookup key).map Json.sorted

def Stable {α : Type} (read : Json → α) : Prop :=
  ∀ value other : Json, value.sorted = other.sorted → read value = read other

theorem lookup_ordered_insert (field : String × Json) (fields : List (String × Json)) (key : String) :
    (fields.orderedInsert (fun a b => a.1 ≤ b.1) field).lookup key = (field :: fields).lookup key := by
  obtain ⟨own, value⟩ := field
  induction fields with
  | nil => rfl
  | cons head rest ih =>
      obtain ⟨first, old⟩ := head
      rw [List.orderedInsert]
      split_ifs with before
      · rfl
      · rw [lookup_entry, ih, lookup_entry, lookup_entry, lookup_entry]
        by_cases here : key = first
        · have other : key ≠ own := fun same => before (le_of_eq (same.symm.trans here))
          simp [here, here ▸ other]
        · simp [here]

theorem lookup_insertion_sort (fields : List (String × Json)) (key : String) :
    (fields.insertionSort fun a b => a.1 ≤ b.1).lookup key = fields.lookup key := by
  induction fields with
  | nil => rfl
  | cons field rest ih =>
      obtain ⟨own, value⟩ := field
      rw [List.insertionSort_cons, lookup_ordered_insert, lookup_entry, lookup_entry, ih]

theorem lookup_sorted_fields (fields : List (String × Json)) (key : String) :
    (sortedFields fields).lookup key = (fields.lookup key).map Json.sorted := by
  induction fields with
  | nil => rfl
  | cons field rest ih =>
      obtain ⟨own, value⟩ := field
      rw [sortedFields, lookup_entry, lookup_entry, ih]
      split_ifs <;> rfl

theorem obj_alike (a b : List (String × Json)) (same : (Json.obj a).sorted = (Json.obj b).sorted) : Alike a b := by
  intro key
  rw [Json.sorted, Json.sorted, Json.obj.injEq] at same
  rw [← lookup_sorted_fields, ← lookup_sorted_fields, ← lookup_insertion_sort, same, lookup_insertion_sort]

theorem sorted_items_map (items : List Json) : sortedItems items = items.map Json.sorted := by
  induction items with
  | nil => rfl
  | cons item rest ih => rw [sortedItems, ih, List.map_cons]

theorem alike_pop (removed : String) (a b : List (String × Json)) (alike : Alike a b) :
    Alike (dictPop removed a) (dictPop removed b) := by
  intro key
  by_cases gone : key = removed
  · have absent : ∀ fields : List (String × Json), (dictPop removed fields).lookup key = none := by
      intro fields
      rw [List.lookup_eq_none_iff]
      intro field member
      have kept := of_decide_eq_true (List.mem_filter.mp member).2
      rw [gone, bne_iff_ne]
      exact Ne.symm kept
    rw [absent, absent]
  · rw [lookup_dict_pop removed key a gone, lookup_dict_pop removed key b gone]
    exact alike key

theorem lookup_alike (a b : List (String × Json)) (alike : Alike a b) (key : String) :
    (a.lookup key = none ∧ b.lookup key = none) ∨
      ∃ value other, a.lookup key = some value ∧ b.lookup key = some other ∧ value.sorted = other.sorted := by
  have same := alike key
  cases inA : a.lookup key with
  | none =>
      rw [inA, Option.map_none, eq_comm, Option.map_eq_none_iff] at same
      exact Or.inl ⟨rfl, same⟩
  | some value =>
      rw [inA, Option.map_some, eq_comm, Option.map_eq_some_iff] at same
      obtain ⟨other, inB, sorted⟩ := same
      exact Or.inr ⟨value, other, rfl, inB, sorted.symm⟩

theorem sorted_cases (value other : Json) (same : value.sorted = other.sorted) :
    value = other ∨
      (∃ items others, value = .arr items ∧ other = .arr others ∧ items.map Json.sorted = others.map Json.sorted) ∨
        ∃ a b, value = .obj a ∧ other = .obj b ∧ Alike a b := by
  cases value with
  | arr items =>
      cases other with
      | arr others =>
          rw [Json.sorted, Json.sorted, Json.arr.injEq, sorted_items_map, sorted_items_map] at same
          exact Or.inr (Or.inl ⟨items, others, rfl, rfl, same⟩)
      | _ => simp [Json.sorted] at same
  | obj a =>
      cases other with
      | obj b => exact Or.inr (Or.inr ⟨a, b, rfl, rfl, obj_alike a b same⟩)
      | _ => simp [Json.sorted] at same
  | _ => cases other <;> first | exact Or.inl same | simp [Json.sorted] at same

theorem stable_of {α : Type} (read : Json → α) (kept : ∀ value : Json, read value.sorted = read value) :
    Stable read := by
  intro value other same
  rw [← kept value, same, kept other]

theorem stable_text : Stable Json.text? := stable_of _ fun value => by cases value <;> rfl

theorem stable_named {α : Type} (next : String → Option α) : Stable fun value => value.text?.bind next :=
  stable_of _ fun value => by cases value <;> rfl

section Coerced

variable (coerce : Coercions)

theorem stable_int (least : Int) : Stable (coerce.int? least) := stable_of _ fun value => by cases value <;> rfl
theorem stable_float : Stable coerce.float? := stable_of _ fun value => by cases value <;> rfl
theorem stable_unit : Stable coerce.unit? := stable_of _ fun value => by cases value <;> rfl
theorem stable_bool : Stable coerce.bool? := stable_of _ fun value => by cases value <;> rfl

end Coerced

theorem stable_nullable {α : Type} (read : Json → Option α) (stable : Stable read) : Stable (nullable read) := by
  intro value other same
  have both := stable value other same
  obtain rfl | ⟨items, others, rfl, rfl, -⟩ | ⟨a, b, rfl, rfl, -⟩ := sorted_cases value other same
  · rfl
  · simp only [nullable, both]
  · simp only [nullable, both]

theorem map_m_stable {α : Type} (read : Json → Option α) (stable : Stable read) (items others : List Json)
    (same : items.map Json.sorted = others.map Json.sorted) : items.mapM read = others.mapM read := by
  induction items generalizing others with
  | nil =>
      obtain rfl := List.map_eq_nil_iff.mp same.symm
      rfl
  | cons item rest ih =>
      obtain ⟨other, more, rfl, first, later⟩ := List.map_eq_cons_iff.mp same.symm
      rw [List.mapM_cons, List.mapM_cons, stable item other first.symm, ih more later.symm]

theorem stable_items {α : Type} (read : Json → Option α) (stable : Stable read) : Stable (items? read) := by
  intro value other same
  obtain rfl | ⟨items, others, rfl, rfl, each⟩ | ⟨a, b, rfl, rfl, -⟩ := sorted_cases value other same
  · rfl
  · exact map_m_stable read stable items others each
  · rfl

theorem read_field_alike {α : Type} (read : Json → Option α) (stable : Stable read) (default : Option α)
    (a b : List (String × Json)) (alike : Alike a b) (model field : String) :
    readField read default a model field = readField read default b model field := by
  rw [readField, readField]
  obtain ⟨inA, inB⟩ | ⟨value, other, inA, inB, same⟩ := lookup_alike a b alike field
  · rw [inA, inB]
  · rw [inA, inB, Option.elim_some, Option.elim_some, stable value other same]

theorem forbid_extra_alike (known : List String) (a b : List (String × Json)) (alike : Alike a b) (model : String) :
    forbidExtra known a model = forbidExtra known b model := by
  have fields : ∀ a b : List (String × Json), Alike a b → (a.all fun field => field.1 ∈ known) = true →
      (b.all fun field => field.1 ∈ known) = true := by
    intro a b alike all
    rw [List.all_eq_true] at all ⊢
    intro field member
    by_contra unknown
    have absent : a.lookup field.1 = none := by
      rw [List.lookup_eq_none_iff]
      intro own ownIn
      rw [bne_iff_ne]
      intro same
      exact unknown (same ▸ all own ownIn)
    have absentB : b.lookup field.1 = none := by
      have same := alike field.1
      rwa [absent, Option.map_none, eq_comm, Option.map_eq_none_iff] at same
    have differs := (List.lookup_eq_none_iff.mp absentB) field member
    simp at differs
  have same : (a.all fun field => field.1 ∈ known) = (b.all fun field => field.1 ∈ known) := by
    rw [Bool.eq_iff_iff]
    exact ⟨fields a b alike, fields b a fun key => (alike key).symm⟩
  rw [forbidExtra, forbidExtra, same]

theorem stable_vector (coerce : Coercions) : Stable (SemanticVector.modelValidate coerce) := by
  intro value other same
  obtain rfl | ⟨items, others, rfl, rfl, -⟩ | ⟨a, b, rfl, rfl, alike⟩ := sorted_cases value other same
  · rfl
  · rfl
  · have floats := stable_items _ (stable_float coerce)
    have ints := stable_nullable _ (stable_int coerce 0)
    simp only [SemanticVector.modelValidate, forbid_extra_alike _ a b alike,
      read_field_alike _ floats _ a b alike, read_field_alike _ ints _ a b alike]

end Vermyth
