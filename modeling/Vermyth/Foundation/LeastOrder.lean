import Mathlib.Data.Fintype.Card
import Mathlib.Data.List.Lex
import Mathlib.Data.Set.Finite.List
import Vermyth.Foundation.Kahn

set_option autoImplicit false

namespace Foundation

section Cycles

variable {α : Type} {edge : α → α → Prop}

def Cyclic (edge : α → α → Prop) : Prop := ∃ vertex, Relation.TransGen edge vertex vertex

theorem acc_no_loop (vertex : α) (accessible : Acc edge vertex) : ¬ edge vertex vertex := by
  induction accessible with
  | intro vertex _ ih => exact fun loop => ih vertex loop loop

theorem ranked_acyclic {β : Type} [Preorder β] (rank : α → β)
    (rises : ∀ source target, edge source target → rank source < rank target) : ¬ Cyclic edge := by
  rintro ⟨vertex, loop⟩
  have higher : ∀ target, Relation.TransGen edge vertex target → rank vertex < rank target := by
    intro target path
    induction path with
    | single first => exact rises _ _ first
    | tail _ last ih => exact ih.trans (rises _ _ last)
  exact lt_irrefl _ (higher vertex loop)

theorem topo_sorted_no_loop (order : List α) (sorted : TopoSorted edge order) (vertex : α) (member : vertex ∈ order) :
    ¬ Relation.TransGen edge vertex vertex := by
  have accessible : ∀ vertex ∈ order, Acc edge vertex :=
    topo_induction order sorted (Acc edge) fun vertex _ earlier => Acc.intro vertex earlier
  exact acc_no_loop vertex (accessible vertex member).transGen

theorem acyclic_induction (vertices : List α) (within : ∀ source target, edge source target → source ∈ vertices)
    (acyclic : ¬ Cyclic edge) (holds : α → Prop)
    (step : ∀ vertex ∈ vertices, (∀ source, edge source vertex → holds source) → holds vertex) :
    ∀ vertex ∈ vertices, holds vertex := by
  let before (a b : { vertex // vertex ∈ vertices }) : Prop := Relation.TransGen edge a b
  have trans : IsTrans { vertex // vertex ∈ vertices } before := ⟨fun _ _ _ first second => first.trans second⟩
  have irreflexive : Std.Irrefl before := ⟨fun vertex loop => acyclic ⟨vertex, loop⟩⟩
  have finite : Finite { vertex // vertex ∈ vertices } := (List.finite_toSet vertices).to_subtype
  have wellFounded : WellFounded before := Finite.wellFounded_of_trans_of_irrefl before
  intro vertex member
  have each := wellFounded.induction (C := fun vertex => holds vertex) ⟨vertex, member⟩
  apply each
  intro own earlier
  exact step own own.2 fun source link =>
    earlier ⟨source, within source own link⟩ (Relation.TransGen.single link)

end Cycles

section Least

variable {α : Type} [LinearOrder α]

theorem relax_ordered (table : (α → Int) × List α) (next : α) (ordered : table.2.Pairwise (· ≤ ·)) :
    (relax table next).2.Pairwise (· ≤ ·) := by
  rw [relax]
  by_cases met : Function.update table.1 next (table.1 next - 1) next = 0
  · simp only [if_pos met]
    exact List.pairwise_insertionSort (· ≤ ·) _
  · simp only [if_neg met]
    exact ordered

theorem relax_all_ordered (rest : List α) (table : (α → Int) × List α) (ordered : table.2.Pairwise (· ≤ ·)) :
    (rest.foldl relax table).2.Pairwise (· ≤ ·) := by
  induction rest generalizing table with
  | nil => exact ordered
  | cons next rest ih => exact ih _ (relax_ordered table next ordered)

theorem kahn_loop_extends (successors : α → List α) (fuel : Nat) (indegree : α → Int) (ready out : List α) :
    ∃ more, kahnLoop successors fuel indegree ready out = out ++ more := by
  induction fuel generalizing indegree ready out with
  | zero => exact ⟨[], (List.append_nil out).symm⟩
  | succ fuel ih =>
      cases ready with
      | nil => exact ⟨[], (List.append_nil out).symm⟩
      | cons cur ready =>
          obtain ⟨more, longer⟩ := ih _ _ (out ++ [cur])
          exact ⟨cur :: more, by rw [kahnLoop, longer, List.append_assoc, List.singleton_append]⟩

theorem prefix_le (front rest : List α) : front ≤ front ++ rest := by
  cases rest with
  | nil => exact (List.append_nil front).ge
  | cons first rest =>
      have shorter : List.Lex (· < ·) (front ++ []) (front ++ first :: rest) :=
        List.Lex.append_left (· < ·) List.Lex.nil front
      rw [List.append_nil] at shorter
      exact le_of_lt shorter

variable (vertices : List α) (successors : α → List α)
  (closed : ∀ vertex ∈ vertices, ∀ next ∈ successors vertex, next ∈ vertices)

include closed

theorem kahn_loop_least (fuel : Nat) (indegree : α → Int) (ready out rest : List α)
    (tables : Relaxing vertices successors out [] indegree ready) (ordered : ready.Pairwise (· ≤ ·))
    (whole : (out ++ rest).Perm vertices) (distinct : vertices.Nodup)
    (sorted : TopoSorted (Arc vertices successors) (out ++ rest)) :
    kahnLoop successors fuel indegree ready out ≤ out ++ rest := by
  induction fuel generalizing indegree ready out rest with
  | zero => exact prefix_le out rest
  | succ fuel ih =>
      cases ready with
      | nil => exact prefix_le out rest
      | cons cur ready =>
          have listed := tables.listed cur (List.mem_append_right _ List.mem_cons_self)
          have fresh : cur ∉ out := fun already =>
            (List.nodup_append.mp tables.distinct).2.2 cur already cur List.mem_cons_self rfl
          cases rest with
          | nil =>
              rw [List.append_nil] at whole
              exact absurd (whole.mem_iff.mpr listed) fresh
          | cons head rest =>
              have split := (List.nodup_append.mp (whole.nodup_iff.mpr distinct)).2.2
              have known := whole.mem_iff.mp (List.mem_append_right out List.mem_cons_self)
              have isReady : head ∈ cur :: ready := by
                have settled := relaxing_settled tables head known (sorted out head rest rfl)
                rcases List.mem_append.mp settled with already | isReady
                · exact absurd rfl (split head already head List.mem_cons_self)
                · exact isReady
              have least : cur ≤ head := by
                rcases List.mem_cons.mp isReady with same | later
                · exact same.ge
                · exact (List.pairwise_cons.mp ordered).1 head later
              rcases least.lt_or_eq with below | rfl
              · obtain ⟨more, longer⟩ := kahn_loop_extends successors fuel
                  ((successors cur).foldl relax (indegree, ready)).1
                  ((successors cur).foldl relax (indegree, ready)).2 (out ++ [cur])
                rw [kahnLoop, longer, List.append_assoc, List.singleton_append]
                exact le_of_lt (List.Lex.append_left _ (List.Lex.rel below) out)
              · have regroup : out ++ cur :: rest = out ++ [cur] ++ rest := by
                  rw [List.append_assoc, List.singleton_append]
                rw [regroup] at whole sorted ⊢
                exact ih _ _ _ _ (relaxing_all (successors cur) (relaxing_pop cur tables) (closed cur listed))
                  (relax_all_ordered _ _ (List.pairwise_cons.mp ordered).2) whole sorted

theorem kahn_loop_ends (fuel extra : Nat) (indegree : α → Int) (ready out : List α)
    (tables : Relaxing vertices successors out [] indegree ready) (enough : vertices.length ≤ out.length + fuel) :
    kahnLoop successors (fuel + extra) indegree ready out = kahnLoop successors fuel indegree ready out := by
  induction fuel generalizing indegree ready out with
  | zero =>
      have few := (List.subperm_of_subset tables.distinct tables.listed).length_le
      rw [List.length_append] at few
      obtain rfl : ready = [] := List.eq_nil_of_length_eq_zero (by omega)
      cases extra <;> rfl
  | succ fuel ih =>
      rw [Nat.succ_add]
      cases ready with
      | nil => rfl
      | cons cur ready =>
          have listed := tables.listed cur (List.mem_append_right _ List.mem_cons_self)
          refine ih _ _ _ (relaxing_all (successors cur) (relaxing_pop cur tables) (closed cur listed)) ?_
          rw [List.length_append, List.length_singleton]
          omega

variable (indegree : α → Int) (distinct : vertices.Nodup)
  (counts : ∀ vertex ∈ vertices, indegree vertex = unmet vertices successors [] vertex)

include distinct counts

theorem kahn_acyclic (acyclic : ¬ Cyclic (Arc vertices successors)) :
    (kahnLoop successors vertices.length indegree (startReady vertices indegree) []).length = vertices.length := by
  obtain ⟨_, finalReady, tables, _, ended⟩ := kahn_loop_spec vertices successors closed vertices.length indegree _ []
    (relaxing_start vertices successors indegree distinct counts) (by intro pre vertex post split; simp at split)
  rcases ended with rfl | full
  · refine relaxing_length tables distinct ?_
    refine acyclic_induction vertices (fun source target (link : Arc vertices successors source target) => link.1)
      acyclic _ ?_
    intro vertex member earlier
    have settled := relaxing_settled tables vertex member earlier
    rwa [List.append_nil] at settled
  · simpa using full

theorem kahn_least (order : List α) (whole : order.Perm vertices) (sorted : TopoSorted (Arc vertices successors) order) :
    kahnLoop successors vertices.length indegree (startReady vertices indegree) [] ≤ order :=
  kahn_loop_least vertices successors closed vertices.length indegree _ [] order
    (relaxing_start vertices successors indegree distinct counts) (List.pairwise_insertionSort (· ≤ ·) _) whole distinct
    sorted

end Least

end Foundation
