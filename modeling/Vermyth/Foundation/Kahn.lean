import Mathlib.Algebra.BigOperators.Group.Finset.Basic
import Mathlib.Algebra.Order.BigOperators.Group.Finset
import Mathlib.Data.List.Sort
import Vermyth.Foundation.Digraph

set_option autoImplicit false

namespace Foundation

-- Kahn's algorithm with a sorted ready list: the smallest ready vertex is
-- popped, and each edge out of it lowers the count of its target.
section Kahn

variable {α : Type} [LinearOrder α]

def relax (table : (α → Int) × List α) (next : α) : (α → Int) × List α :=
  let indegree := Function.update table.1 next (table.1 next - 1)
  if indegree next = 0 then (indegree, (table.2 ++ [next]).insertionSort (· ≤ ·))
  else (indegree, table.2)

-- A vertex becomes ready once, so as many rounds as there are vertices let
-- the while loop run to its end.
def kahnLoop (successors : α → List α) : Nat → (α → Int) → List α → List α → List α
  | 0, _, _, out => out
  | _ + 1, _, [], out => out
  | fuel + 1, indegree, cur :: ready, out =>
      let relaxed := (successors cur).foldl relax (indegree, ready)
      kahnLoop successors fuel relaxed.1 relaxed.2 (out ++ [cur])

def Arc (vertices : List α) (successors : α → List α) (source target : α) : Prop :=
  source ∈ vertices ∧ target ∈ successors source

def unmet (vertices : List α) (successors : α → List α) (out : List α) (vertex : α) : Nat :=
  ∑ source ∈ vertices.toFinset \ out.toFinset, (successors source).count vertex

structure Relaxing (vertices : List α) (successors : α → List α) (out rest : List α)
    (indegree : α → Int) (ready : List α) : Prop where
  distinct : (out ++ ready).Nodup
  listed : ∀ vertex ∈ out ++ ready, vertex ∈ vertices
  counts : ∀ vertex ∈ vertices, indegree vertex = unmet vertices successors out vertex + rest.count vertex
  zero : ∀ vertex ∈ vertices, indegree vertex = 0 ↔ vertex ∈ out ++ ready

theorem unmet_zero (vertices : List α) (successors : α → List α) (out : List α) (vertex source : α)
    (met : unmet vertices successors out vertex = 0) (link : Arc vertices successors source vertex) :
    source ∈ out := by
  by_contra missing
  have member : source ∈ vertices.toFinset \ out.toFinset := by simp [link.1, missing]
  have none := (Finset.sum_eq_zero_iff.mp met) source member
  exact (List.count_eq_zero.mp none) link.2

theorem unmet_pop (vertices : List α) (successors : α → List α) (out : List α) (cur vertex : α)
    (listed : cur ∈ vertices) (fresh : cur ∉ out) :
    unmet vertices successors out vertex =
      unmet vertices successors (out ++ [cur]) vertex + (successors cur).count vertex := by
  have member : cur ∈ vertices.toFinset \ out.toFinset := by simp [listed, fresh]
  have erased : vertices.toFinset \ (out ++ [cur]).toFinset = (vertices.toFinset \ out.toFinset).erase cur := by
    ext x
    simp only [Finset.mem_sdiff, List.mem_toFinset, List.mem_append, List.mem_singleton, Finset.mem_erase]
    tauto
  rw [unmet, unmet, erased]
  exact (Finset.sum_erase_add _ _ member).symm

section Step

variable {vertices : List α} {successors : α → List α} {out ready : List α} {indegree : α → Int}

theorem relaxing_pop (cur : α) (tables : Relaxing vertices successors out [] indegree (cur :: ready)) :
    Relaxing vertices successors (out ++ [cur]) (successors cur) indegree ready := by
  have regroup : out ++ [cur] ++ ready = out ++ cur :: ready := by simp
  have listed := tables.listed cur (by simp)
  have fresh : cur ∉ out := by
    intro already
    exact (List.nodup_append.mp tables.distinct).2.2 cur already cur List.mem_cons_self rfl
  refine ⟨regroup ▸ tables.distinct, regroup ▸ tables.listed, ?_, regroup ▸ tables.zero⟩
  intro vertex member
  rw [tables.counts vertex member, unmet_pop vertices successors out cur vertex listed fresh]
  simp

theorem relaxing_step (next : α) (rest : List α)
    (tables : Relaxing vertices successors out (next :: rest) indegree ready) (known : next ∈ vertices) :
    Relaxing vertices successors out rest (relax (indegree, ready) next).1 (relax (indegree, ready) next).2 := by
  have before := tables.counts next known
  rw [List.count_cons_self] at before
  have notListed : next ∉ out ++ ready := by
    intro already
    have zero := (tables.zero next known).mpr already
    omega
  have counts : ∀ vertex ∈ vertices, Function.update indegree next (indegree next - 1) vertex =
      unmet vertices successors out vertex + rest.count vertex := by
    intro vertex member
    by_cases same : vertex = next
    · subst same
      rw [Function.update_self]
      omega
    · rw [Function.update_of_ne same, tables.counts vertex member, List.count_cons_of_ne (Ne.symm same)]
  by_cases met : Function.update indegree next (indegree next - 1) next = 0
  · simp only [relax, met, if_true]
    have perm : ((ready ++ [next]).insertionSort (· ≤ ·)).Perm (next :: ready) :=
      (List.perm_insertionSort _ _).trans (List.perm_append_singleton next ready)
    have members : ∀ vertex, vertex ∈ out ++ (ready ++ [next]).insertionSort (· ≤ ·) ↔
        vertex = next ∨ vertex ∈ out ++ ready := by
      intro vertex
      rw [List.mem_append, perm.mem_iff, List.mem_append, List.mem_cons]
      tauto
    refine ⟨?_, ?_, counts, ?_⟩
    · rw [(perm.append_left out).nodup_iff, List.nodup_middle, List.nodup_cons]
      exact ⟨notListed, tables.distinct⟩
    · intro vertex member
      rcases (members vertex).mp member with same | old
      · rw [same]
        exact known
      · exact tables.listed vertex old
    · intro vertex member
      rw [members]
      by_cases same : vertex = next
      · simp only [same, met, true_or]
      · simpa only [Function.update_of_ne same, same, false_or] using tables.zero vertex member
  · simp only [relax, met, if_false]
    refine ⟨tables.distinct, tables.listed, counts, ?_⟩
    intro vertex member
    by_cases same : vertex = next
    · subst same
      simp only [met, false_iff]
      exact notListed
    · rw [Function.update_of_ne same]
      exact tables.zero vertex member

theorem relaxing_all (rest : List α) (tables : Relaxing vertices successors out rest indegree ready)
    (known : ∀ next ∈ rest, next ∈ vertices) :
    Relaxing vertices successors out [] (rest.foldl relax (indegree, ready)).1
      (rest.foldl relax (indegree, ready)).2 := by
  induction rest generalizing indegree ready with
  | nil => exact tables
  | cons next rest ih =>
      have stepped := relaxing_step next rest tables (known next List.mem_cons_self)
      exact ih stepped fun later member => known later (List.mem_cons_of_mem _ member)

theorem pop_sorted (cur : α) (tables : Relaxing vertices successors out [] indegree (cur :: ready))
    (sorted : TopoSorted (Arc vertices successors) out) :
    TopoSorted (Arc vertices successors) (out ++ [cur]) := by
  intro pre vertex post split source link
  rcases List.eq_nil_or_concat post with empty | ⟨before, last, concat⟩
  · subst empty
    obtain ⟨same, final⟩ := List.append_inj' split rfl
    subst same
    have isCur : vertex = cur := (List.cons.inj final).1.symm
    subst isCur
    have listed := tables.listed vertex (by simp)
    have zero := (tables.zero vertex listed).mpr (by simp)
    have counts := tables.counts vertex listed
    rw [List.count_nil] at counts
    exact unmet_zero vertices successors out vertex source (by omega) link
  · subst concat
    have regroup : out ++ [cur] = (pre ++ vertex :: before) ++ [last] := by rw [split]; simp
    exact sorted pre vertex before (List.append_inj' regroup rfl).1 source link

theorem relaxing_settled (tables : Relaxing vertices successors out [] indegree ready) (vertex : α)
    (listed : vertex ∈ vertices) (earlier : ∀ source, Arc vertices successors source vertex → source ∈ out) :
    vertex ∈ out ++ ready := by
  have met : unmet vertices successors out vertex = 0 := by
    rw [unmet, Finset.sum_eq_zero_iff]
    intro source member
    rw [List.count_eq_zero]
    intro link
    simp only [Finset.mem_sdiff, List.mem_toFinset] at member
    exact member.2 (earlier source ⟨member.1, link⟩)
  have zero := tables.counts vertex listed
  rw [met, List.count_nil] at zero
  exact (tables.zero vertex listed).mp (by simpa using zero)

theorem relaxing_length (tables : Relaxing vertices successors out [] indegree ready) (distinct : vertices.Nodup)
    (all : ∀ vertex ∈ vertices, vertex ∈ out) : out.length = vertices.length := by
  have outDistinct := (List.nodup_append.mp tables.distinct).1
  apply Nat.le_antisymm
  · exact (List.subperm_of_subset outDistinct fun vertex member =>
      tables.listed vertex (List.mem_append_left _ member)).length_le
  · exact (List.subperm_of_subset distinct all).length_le

end Step

theorem kahn_loop_spec (vertices : List α) (successors : α → List α)
    (closed : ∀ vertex ∈ vertices, ∀ next ∈ successors vertex, next ∈ vertices) (fuel : Nat)
    (indegree : α → Int) (ready out : List α) (tables : Relaxing vertices successors out [] indegree ready)
    (sorted : TopoSorted (Arc vertices successors) out) :
    ∃ finalIndegree finalReady,
      Relaxing vertices successors (kahnLoop successors fuel indegree ready out) [] finalIndegree finalReady ∧
      TopoSorted (Arc vertices successors) (kahnLoop successors fuel indegree ready out) ∧
      (finalReady = [] ∨ (kahnLoop successors fuel indegree ready out).length = out.length + fuel) := by
  induction fuel generalizing indegree ready out with
  | zero => exact ⟨indegree, ready, tables, sorted, Or.inr rfl⟩
  | succ fuel ih =>
      cases ready with
      | nil => exact ⟨indegree, [], tables, sorted, Or.inl rfl⟩
      | cons cur ready =>
          have popped := relaxing_pop cur tables
          have listed := tables.listed cur (by simp)
          have relaxed := relaxing_all (successors cur) popped (closed cur listed)
          obtain ⟨finalIndegree, finalReady, final, finalSorted, ended⟩ :=
            ih _ _ _ relaxed (pop_sorted cur tables sorted)
          refine ⟨finalIndegree, finalReady, final, finalSorted, ended.imp_right ?_⟩
          intro length
          rw [kahnLoop, length, List.length_append, List.length_singleton]
          omega

section Start

variable (vertices : List α) (successors : α → List α) (indegree : α → Int)

def startReady : List α :=
  (vertices.filter fun vertex => indegree vertex = 0).insertionSort (· ≤ ·)

variable (distinct : vertices.Nodup)
  (closed : ∀ vertex ∈ vertices, ∀ next ∈ successors vertex, next ∈ vertices)
  (counts : ∀ vertex ∈ vertices, indegree vertex = unmet vertices successors [] vertex)

include distinct counts in
theorem relaxing_start : Relaxing vertices successors [] [] indegree (startReady vertices indegree) := by
  have perm := List.perm_insertionSort (· ≤ ·) (vertices.filter fun vertex => indegree vertex = 0)
  refine ⟨?_, ?_, ?_, ?_⟩
  · exact (perm.nodup_iff).mpr (distinct.filter _)
  · intro vertex member
    exact (List.mem_filter.mp (perm.mem_iff.mp member)).1
  · simpa using counts
  · intro vertex member
    rw [List.nil_append, startReady, perm.mem_iff, List.mem_filter]
    simp [member]

include distinct closed counts

theorem kahn_sound :
    TopoSorted (Arc vertices successors)
      (kahnLoop successors vertices.length indegree (startReady vertices indegree) []) ∧
    ((kahnLoop successors vertices.length indegree (startReady vertices indegree) []).length =
      vertices.length →
      (kahnLoop successors vertices.length indegree (startReady vertices indegree) []).Perm vertices) := by
  obtain ⟨_, _, tables, sorted, _⟩ := kahn_loop_spec vertices successors closed vertices.length indegree _ []
    (relaxing_start vertices successors indegree distinct counts) (by intro pre vertex post split; simp at split)
  refine ⟨sorted, fun length => ?_⟩
  have outDistinct := (List.nodup_append.mp tables.distinct).1
  have subset : ∀ vertex ∈ kahnLoop successors vertices.length indegree (startReady vertices indegree) [],
      vertex ∈ vertices := fun vertex member => tables.listed vertex (List.mem_append_left _ member)
  exact (List.subperm_of_subset outDistinct subset).perm_of_length_le (Nat.le_of_eq length.symm)

theorem kahn_complete (order : List α) (same : ∀ vertex, vertex ∈ order ↔ vertex ∈ vertices)
    (sorted : TopoSorted (Arc vertices successors) order) :
    (kahnLoop successors vertices.length indegree (startReady vertices indegree) []).length =
      vertices.length := by
  obtain ⟨_, finalReady, tables, _, ended⟩ := kahn_loop_spec vertices successors closed vertices.length indegree _ []
    (relaxing_start vertices successors indegree distinct counts) (by intro pre vertex post split; simp at split)
  rcases ended with empty | full
  · subst empty
    have all : ∀ vertex ∈ order,
        vertex ∈ kahnLoop successors vertices.length indegree (startReady vertices indegree) [] := by
      apply topo_induction order sorted
      intro vertex member earlier
      have settled := relaxing_settled tables vertex ((same vertex).mp member) earlier
      rwa [List.append_nil] at settled
    exact relaxing_length tables distinct fun vertex member => all vertex ((same vertex).mpr member)
  · simpa using full

end Start

end Kahn

end Foundation
