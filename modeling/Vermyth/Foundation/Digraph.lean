import Mathlib.Data.List.Chain
import Mathlib.Logic.Relation

set_option autoImplicit false

namespace Foundation

section Digraph

variable {α : Type} (edge : α → α → Prop)

def TopoSorted (order : List α) : Prop :=
  ∀ pre vertex post, order = pre ++ vertex :: post → ∀ source, edge source vertex → source ∈ pre

def Source (vertex : α) : Prop := ∀ other, ¬ edge other vertex

def IsPath (path : List α) (start stop : α) : Prop :=
  path.IsChain edge ∧ path.head? = some start ∧ path.getLast? = some stop

def Dominates (gate vertex : α) : Prop :=
  ∀ path start, Source edge start → IsPath edge path start vertex → gate ∈ path

def ReachableFrom (entries : List α) (vertex : α) : Prop :=
  ∃ entry ∈ entries, Relation.ReflTransGen edge entry vertex

variable {edge}

theorem topo_sorted_mem (order : List α) (sorted : TopoSorted edge order) (vertex source : α)
    (member : vertex ∈ order) (link : edge source vertex) : source ∈ order := by
  obtain ⟨pre, post, split⟩ := List.append_of_mem member
  rw [split]
  exact List.mem_append_left _ (sorted pre vertex post split source link)

theorem topo_sorted_front (pre post : List α) (sorted : TopoSorted edge (pre ++ post)) :
    TopoSorted edge pre := by
  intro before vertex after split source link
  exact sorted before vertex (after ++ post) (by rw [split]; simp) source link

theorem topo_sorted_filter (order : List α) (keep : α → Bool) (inner : α → α → Prop)
    (sorted : TopoSorted edge order)
    (within : ∀ source vertex, inner source vertex → edge source vertex ∧ keep source = true) :
    TopoSorted inner (order.filter keep) := by
  intro pre vertex post split source link
  obtain ⟨front, back, whole, frontEq, backEq⟩ := List.filter_eq_append_iff.mp split
  obtain ⟨skipped, rest, restSplit, dropped, _, _⟩ := List.filter_eq_cons_iff.mp backEq
  have member := sorted (front ++ skipped) vertex rest (by rw [whole, restSplit]; simp) source
    (within source vertex link).1
  have kept := (within source vertex link).2
  rw [← frontEq, List.mem_filter]
  refine ⟨?_, kept⟩
  rcases List.mem_append.mp member with inFront | inSkipped
  · exact inFront
  · exact absurd kept (dropped source inSkipped)

-- Induction along a sorted list: a property that passes from the
-- predecessors of a vertex to the vertex holds of every listed vertex.
theorem topo_induction (order : List α) (sorted : TopoSorted edge order) (holds : α → Prop)
    (step : ∀ vertex ∈ order, (∀ source, edge source vertex → holds source) → holds vertex) :
    ∀ vertex ∈ order, holds vertex := by
  induction order using List.reverseRecOn with
  | nil => simp
  | append_singleton pre last ih =>
      have earlier : ∀ vertex ∈ pre, holds vertex :=
        ih (topo_sorted_front pre [last] sorted) fun vertex member =>
          step vertex (List.mem_append_left _ member)
      intro vertex member
      rcases List.mem_append.mp member with before | final
      · exact earlier vertex before
      · have same := List.mem_singleton.mp final
        subst same
        exact step vertex member fun source link => earlier source (sorted pre vertex [] rfl source link)

theorem dominates_predecessor (gate vertex source : α) (dominated : Dominates edge gate vertex)
    (different : vertex ≠ gate) (link : edge source vertex) : Dominates edge gate source := by
  intro path start first isPath
  obtain ⟨chain, head, last⟩ := isPath
  have extended : IsPath edge (path ++ [vertex]) start vertex := by
    refine ⟨?_, ?_, by simp⟩
    · rw [List.isChain_append]
      refine ⟨chain, by simp, ?_⟩
      intro x isLast y isHead
      rw [last, Option.mem_some_iff] at isLast
      simp only [List.head?_cons, Option.mem_some_iff] at isHead
      rw [← isLast, ← isHead]
      exact link
    · cases path with
      | nil => simp at head
      | cons x rest => simpa using head
  rcases List.mem_append.mp (dominated _ start first extended) with inside | final
  · exact inside
  · exact absurd (List.mem_singleton.mp final).symm different

theorem dominates_self (gate : α) : Dominates edge gate gate := by
  intro path _ _ isPath
  exact List.mem_of_getLast? isPath.2.2

theorem dominates_of_predecessors (gate vertex : α) (fed : ¬ Source edge vertex)
    (all : ∀ source, edge source vertex → Dominates edge gate source) : Dominates edge gate vertex := by
  intro path start first isPath
  obtain ⟨chain, head, last⟩ := isPath
  obtain ⟨front, rfl⟩ := List.getLast?_eq_some_iff.mp last
  cases front using List.reverseRecOn with
  | nil =>
      simp only [List.nil_append, List.head?_cons, Option.some.injEq] at head
      exact absurd (head ▸ first) fed
  | append_singleton front source =>
      have link : edge source vertex := by
        rw [List.append_assoc, List.isChain_append] at chain
        simpa using chain.2.1
      have isPath : IsPath edge (front ++ [source]) start source := by
        refine ⟨(List.isChain_append.mp chain).1, ?_, by simp⟩
        cases front with
        | nil => simpa using head
        | cons x rest => simpa using head
      exact List.mem_append_left _ (all source link _ start first isPath)

theorem reachable_successor (entries : List α) (source vertex : α) (reachable : ReachableFrom edge entries source)
    (link : edge source vertex) : ReachableFrom edge entries vertex := by
  obtain ⟨entry, member, path⟩ := reachable
  exact ⟨entry, member, path.tail link⟩

end Digraph

end Foundation
