import Mathlib.Data.List.Induction
import Mathlib.Data.List.Nodup
import Mathlib.Order.Monotone.Defs
import Vermyth.Foundation.Heapq

set_option autoImplicit false

-- The items that score highest, in a heap of bounded size: an item comes in
-- while there is room, and then in the place of the root if it scores higher.
namespace Foundation.TopK

open Heapq

variable {α β : Type} [LinearOrder β] (score : α → β) (limit : Nat)

def admittedAfter (before : List α) : List α → List α
  | [] => []
  | item :: rest =>
      if before.countP (fun other => score item ≤ score other) < limit then item :: admittedAfter (before ++ [item]) rest
      else admittedAfter (before ++ [item]) rest

def admitted (items : List α) : List α := admittedAfter score limit [] items

theorem admitted_after_concat (before items : List α) (item : α) :
    admittedAfter score limit before (items ++ [item]) = admittedAfter score limit before items ++
      if (before ++ items).countP (fun other => score item ≤ score other) < limit then [item] else [] := by
  induction items generalizing before with
  | nil =>
      by_cases high : before.countP (fun other => score item ≤ score other) < limit <;>
        simp [admittedAfter, high]
  | cons first rest ih =>
      rw [List.cons_append, admittedAfter, admittedAfter, ih, List.append_assoc, List.singleton_append]
      by_cases high : before.countP (fun other => score first ≤ score other) < limit
      · rw [if_pos high, if_pos high, List.cons_append]
      · rw [if_neg high, if_neg high]

theorem admitted_concat (items : List α) (item : α) :
    admitted score limit (items ++ [item]) = admitted score limit items ++
      if items.countP (fun other => score item ≤ score other) < limit then [item] else [] :=
  admitted_after_concat score limit [] items item

theorem admitted_after_sublist (before items : List α) : (admittedAfter score limit before items).Sublist items := by
  induction items generalizing before with
  | nil => exact List.Sublist.slnil
  | cons first rest ih =>
      rw [admittedAfter]
      by_cases high : before.countP (fun other => score first ≤ score other) < limit
      · rw [if_pos high]
        exact (ih _).cons_cons first
      · rw [if_neg high]
        exact (ih _).cons first

theorem admitted_sublist (items : List α) : (admitted score limit items).Sublist items :=
  admitted_after_sublist score limit [] items

variable [LinearOrder α]

def offer (top : List α) (item : α) : List α :=
  if top.length < limit then heappush top item
  else
    match top with
    | [] => []
    | least :: rest => if 0 < limit ∧ score least < score item then heapreplace (least :: rest) item else least :: rest

def Chosen (items : List α) (item : α) : Prop :=
  item ∈ admitted score limit items ∧ (admitted score limit items).countP (fun other => item < other) < limit

structure Selects (items top : List α) : Prop where
  ordered : Ordered top
  size : top.length = min limit items.length
  highest : ∃ rest, items.Perm (top ++ rest) ∧ ∀ out ∈ rest, ∀ kept ∈ top, score out ≤ score kept
  latest : ∃ rest, (admitted score limit items).Perm (top ++ rest) ∧ ∀ out ∈ rest, ∀ kept ∈ top, out < kept

variable {score limit}

theorem selects_nil : Selects score limit [] [] where
  ordered := by
    intro pos above below _ read
    cases read
  size := (Nat.min_zero limit).symm
  highest := ⟨[], List.Perm.refl [], fun _ out => absurd out List.not_mem_nil⟩
  latest := ⟨[], List.Perm.refl [], fun _ out => absurd out List.not_mem_nil⟩

theorem selects_room (items top : List α) (item : α) (selects : Selects score limit items top)
    (room : top.length < limit) : Selects score limit (items ++ [item]) (heappush top item) := by
  have few : items.length < limit := by
    have size := selects.size
    omega
  have pushed := heappush_perm top item
  obtain ⟨rest, perm, -⟩ := selects.highest
  obtain ⟨dropped, admits, -⟩ := selects.latest
  have none : rest = [] := by
    have lengths := perm.length_eq
    rw [List.length_append] at lengths
    refine List.eq_nil_of_length_eq_zero ?_
    have size := selects.size
    omega
  have noneDropped : dropped = [] := by
    have lengths := admits.length_eq
    have shorter := (admitted_sublist score limit items).length_le
    rw [List.length_append] at lengths
    refine List.eq_nil_of_length_eq_zero ?_
    have size := selects.size
    omega
  rw [none, List.append_nil] at perm
  rw [noneDropped, List.append_nil] at admits
  have counted : items.countP (fun other => score item ≤ score other) < limit :=
    List.countP_le_length.trans_lt few
  have both (all : List α) (same : all.Perm top) : (all ++ [item]).Perm (heappush top item ++ []) := by
    rw [List.append_nil]
    exact (List.perm_append_singleton item all).trans ((same.cons item).trans pushed.symm)
  refine ⟨heappush_ordered top item selects.ordered, ?_, ⟨[], both items perm, ?_⟩, ⟨[], ?_, ?_⟩⟩
  · have size := selects.size
    rw [pushed.length_eq, List.length_cons, List.length_append, List.length_singleton]
    omega
  · exact fun _ out => absurd out List.not_mem_nil
  · rw [admitted_concat, if_pos counted]
    exact both _ admits
  · exact fun _ out => absurd out List.not_mem_nil

theorem selects_replace (mono : Monotone score) (items rest : List α) (least item : α)
    (distinct : (items ++ [item]).Nodup) (selects : Selects score limit items (least :: rest))
    (full : limit ≤ (least :: rest).length) (higher : score least < score item) :
    Selects score limit (items ++ [item]) (heapreplace (least :: rest) item) := by
  have size := selects.size
  have under := root_least least rest selects.ordered
  have lower : least < item := lt_of_not_ge fun above => (mono above).not_gt higher
  have replaced := heapreplace_perm least item rest
  obtain ⟨out, perm, outLower⟩ := selects.highest
  obtain ⟨dropped, admits, droppedBefore⟩ := selects.latest
  have itemsDistinct := (List.nodup_append.mp distinct).1
  have leastOnce : least ∉ rest := by
    have topDistinct := (List.nodup_append.mp (perm.nodup_iff.mp itemsDistinct)).1
    exact (List.nodup_cons.mp topDistinct).1
  have counted : items.countP (fun other => score item ≤ score other) < limit := by
    have none : out.countP (fun other => score item ≤ score other) = 0 := by
      rw [List.countP_eq_zero]
      intro other member
      rw [decide_eq_true_eq, not_le]
      exact (outLower other member least List.mem_cons_self).trans_lt higher
    have few := List.countP_le_length (p := fun other => decide (score item ≤ score other)) (l := rest)
    rw [perm.countP_eq, List.countP_append, none, List.countP_cons, decide_eq_false (not_le.mpr higher)]
    rw [List.length_cons] at size
    simp only [Bool.false_eq_true, if_false]
    omega
  have both (all gone : List α) (same : all.Perm (least :: rest ++ gone)) :
      (all ++ [item]).Perm (heapreplace (least :: rest) item ++ (least :: gone)) := by
    have front : (all ++ [item]).Perm (item :: least :: (rest ++ gone)) :=
      (List.perm_append_singleton item all).trans (same.cons item)
    exact front.trans ((List.perm_middle.symm.cons item).trans (replaced.symm.append_right (least :: gone)))
  refine ⟨heapreplace_ordered _ item selects.ordered, ?_, ⟨least :: out, both items out perm, ?_⟩,
    ⟨least :: dropped, ?_, ?_⟩⟩
  · rw [replaced.length_eq, List.length_append, List.length_singleton]
    rw [List.length_cons] at size full ⊢
    omega
  · have leastLower : ∀ kept ∈ heapreplace (least :: rest) item, score least ≤ score kept := by
      intro kept member
      obtain rfl | inRest := List.mem_cons.mp (replaced.mem_iff.mp member)
      · exact higher.le
      · exact mono (under kept (List.mem_cons_of_mem least inRest))
    intro other member kept inTop
    obtain rfl | inOut := List.mem_cons.mp member
    · exact leastLower kept inTop
    · exact (outLower other inOut least List.mem_cons_self).trans (leastLower kept inTop)
  · rw [admitted_concat, if_pos counted]
    exact both _ dropped admits
  · have leastBefore : ∀ kept ∈ heapreplace (least :: rest) item, least < kept := by
      intro kept member
      obtain rfl | inRest := List.mem_cons.mp (replaced.mem_iff.mp member)
      · exact lower
      · exact lt_of_le_of_ne (under kept (List.mem_cons_of_mem least inRest)) fun same => leastOnce (same ▸ inRest)
    intro other member kept inTop
    obtain rfl | inDropped := List.mem_cons.mp member
    · exact leastBefore kept inTop
    · exact (droppedBefore other inDropped least List.mem_cons_self).trans (leastBefore kept inTop)

theorem selects_refuse (items top : List α) (item : α) (selects : Selects score limit items top)
    (full : limit ≤ top.length) (lower : ∀ kept ∈ top, score item ≤ score kept) :
    Selects score limit (items ++ [item]) top := by
  have size := selects.size
  obtain ⟨out, perm, outLower⟩ := selects.highest
  have counted : ¬ items.countP (fun other => score item ≤ score other) < limit := by
    have all : top.countP (fun other => score item ≤ score other) = top.length := by
      rw [List.countP_eq_length]
      intro kept member
      exact decide_eq_true (lower kept member)
    rw [perm.countP_eq, List.countP_append, all]
    omega
  refine ⟨selects.ordered, ?_, ⟨out ++ [item], ?_, ?_⟩, ?_⟩
  · rw [List.length_append, List.length_singleton]
    omega
  · rw [← List.append_assoc]
    exact perm.append_right [item]
  · intro other member kept inTop
    obtain inOut | isItem := List.mem_append.mp member
    · exact outLower other inOut kept inTop
    · rw [List.mem_singleton.mp isItem]
      exact lower kept inTop
  · rw [admitted_concat, if_neg counted, List.append_nil]
    exact selects.latest

theorem selects_offer (mono : Monotone score) (items top : List α) (item : α) (distinct : (items ++ [item]).Nodup)
    (selects : Selects score limit items top) : Selects score limit (items ++ [item]) (offer score limit top item) := by
  unfold offer
  by_cases room : top.length < limit
  · rw [if_pos room]
    exact selects_room items top item selects room
  · rw [if_neg room]
    cases top with
    | nil => exact selects_refuse items [] item selects (not_lt.mp room) fun _ kept => absurd kept List.not_mem_nil
    | cons least rest =>
        have size := selects.size
        have some : 0 < limit := by
          rw [List.length_cons] at size
          omega
        by_cases higher : score least < score item
        · simp only [some, higher, and_self, if_true]
          exact selects_replace mono items rest least item distinct selects (not_lt.mp room) higher
        · simp only [some, higher, and_false, if_false]
          refine selects_refuse items _ item selects (not_lt.mp room) ?_
          intro kept member
          exact (not_lt.mp higher).trans (mono (root_least least rest selects.ordered kept member))

theorem selects_run (limit : Nat) (mono : Monotone score) (items : List α) (distinct : items.Nodup) :
    Selects score limit items (items.foldl (offer score limit) []) := by
  induction items using List.reverseRecOn with
  | nil => exact selects_nil
  | append_singleton items item ih =>
      rw [List.foldl_append, List.foldl_cons, List.foldl_nil]
      exact selects_offer mono items _ item distinct (ih (List.nodup_append.mp distinct).1)

theorem selects_chosen (items top : List α) (distinct : items.Nodup) (selects : Selects score limit items top)
    (item : α) : item ∈ top ↔ Chosen score limit items item := by
  obtain ⟨dropped, admits, before⟩ := selects.latest
  have size := selects.size
  have admittedDistinct := admits.nodup_iff.mp ((admitted_sublist score limit items).nodup distinct)
  constructor
  · intro kept
    refine ⟨admits.mem_iff.mpr (List.mem_append_left dropped kept), ?_⟩
    have none : dropped.countP (fun other => item < other) = 0 := by
      rw [List.countP_eq_zero]
      intro other member
      rw [decide_eq_true_eq, not_lt]
      exact (before other member item kept).le
    have fewer : top.countP (fun other => item < other) < top.length := by
      refine lt_of_le_of_ne List.countP_le_length ?_
      rw [Ne, List.countP_eq_length]
      intro all
      exact lt_irrefl item (of_decide_eq_true (all item kept))
    rw [admits.countP_eq, List.countP_append, none]
    omega
  · rintro ⟨member, few⟩
    obtain kept | out := List.mem_append.mp (admits.mem_iff.mp member)
    · exact kept
    · have all : top.countP (fun other => item < other) = top.length := by
        rw [List.countP_eq_length]
        intro kept inTop
        exact decide_eq_true (before item out kept inTop)
      have lengths := admits.length_eq
      have shorter := (admitted_sublist score limit items).length_le
      have some := List.length_pos_of_mem out
      rw [admits.countP_eq, List.countP_append, all] at few
      rw [List.length_append] at lengths
      omega

end Foundation.TopK
