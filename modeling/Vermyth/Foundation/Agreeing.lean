import Mathlib.Data.List.Forall2
import Mathlib.Data.List.MinMax
import Mathlib.Data.List.Sort

set_option autoImplicit false

namespace Foundation

variable {α β γ δ ε φ K : Type}

inductive Agreeing (related : α → β → Prop) : Except ε α → Except φ β → Prop
  | ok (left : α) (right : β) (same : related left right) : Agreeing related (.ok left) (.ok right)
  | error (left : ε) (right : φ) : Agreeing related (.error left) (.error right)

theorem alike_bind (related : α → β → Prop) (after : γ → δ → Prop) (left : Except ε α) (right : Except φ β)
    (next : α → Except ε γ) (other : β → Except φ δ) (first : Agreeing related left right)
    (rest : ∀ a b, related a b → Agreeing after (next a) (other b)) :
    Agreeing after (left >>= next) (right >>= other) := by
  cases first with
  | ok a b same => exact rest a b same
  | error raised thrown => exact .error raised thrown

theorem Agreeing.mono {related after : α → β → Prop} {left : Except ε α} {right : Except φ β}
    (alike : Agreeing related left right) (weaker : ∀ a b, related a b → after a b) : Agreeing after left right := by
  cases alike with
  | ok a b same => exact .ok a b (weaker a b same)
  | error raised thrown => exact .error raised thrown

theorem alike_ok (related : α → β → Prop) (left : Except ε α) (b : β)
    (alike : Agreeing related left (.ok b : Except φ β)) : ∃ a, left = .ok a ∧ related a b := by
  cases alike with
  | ok a _ same => exact ⟨a, rfl, same⟩

theorem alike_map_m (between : α → β → Prop) (related : γ → δ → Prop) (read : α → Except ε γ) (other : β → Except φ δ)
    (reads : ∀ a b, between a b → Agreeing related (read a) (other b)) (items : List α) (others : List β)
    (each : List.Forall₂ between items others) :
    Agreeing (List.Forall₂ related) (items.mapM read) (others.mapM other) := by
  induction each with
  | nil => exact .ok [] [] .nil
  | cons first _ ih =>
      rw [List.mapM_cons, List.mapM_cons]
      refine alike_bind related _ _ _ _ _ (reads _ _ first) fun a b own => ?_
      refine alike_bind _ _ _ _ _ _ ih fun rest more same => ?_
      exact .ok _ _ (.cons own same)

theorem related_ordered_insert (between : α → β → Prop) (before : α → α → Prop) (earlier : β → β → Prop)
    [DecidableRel before] [DecidableRel earlier]
    (same : ∀ a b c d, between a b → between c d → (before a c ↔ earlier b d)) (item : α) (other : β)
    (own : between item other) (items : List α) (others : List β) (each : List.Forall₂ between items others) :
    List.Forall₂ between (items.orderedInsert before item) (others.orderedInsert earlier other) := by
  induction each with
  | nil => exact .cons own .nil
  | @cons head top _ _ first rest ih =>
      rw [List.orderedInsert_cons, List.orderedInsert_cons]
      have agrees := same item other head top own first
      by_cases less : before item head
      · rw [if_pos less, if_pos (agrees.mp less)]
        exact .cons own (.cons first rest)
      · rw [if_neg less, if_neg fun more => less (agrees.mpr more)]
        exact .cons first ih

theorem related_insertion_sort (between : α → β → Prop) (before : α → α → Prop) (earlier : β → β → Prop)
    [DecidableRel before] [DecidableRel earlier]
    (same : ∀ a b c d, between a b → between c d → (before a c ↔ earlier b d)) (items : List α) (others : List β)
    (each : List.Forall₂ between items others) :
    List.Forall₂ between (items.insertionSort before) (others.insertionSort earlier) := by
  induction each with
  | nil => exact .nil
  | cons first _ ih => exact related_ordered_insert between before earlier same _ _ first _ _ ih

theorem related_zip_with (between : α → β → Prop) (related : γ → δ → Prop) (join : α → K → γ) (other : β → K → δ)
    (joins : ∀ a b weight, between a b → related (join a weight) (other b weight)) (items : List α) (others : List β)
    (each : List.Forall₂ between items others) (weights : List K) :
    List.Forall₂ related (List.zipWith join items weights) (List.zipWith other others weights) := by
  induction each generalizing weights with
  | nil => exact .nil
  | cons first _ ih =>
      cases weights with
      | nil => exact .nil
      | cons weight rest => exact .cons (joins _ _ weight first) (ih rest)

theorem related_map (between : α → β → Prop) (value : α → γ) (worth : β → γ)
    (same : ∀ a b, between a b → value a = worth b) (items : List α) (others : List β)
    (each : List.Forall₂ between items others) : items.map value = others.map worth := by
  induction each with
  | nil => rfl
  | cons first _ ih => rw [List.map_cons, List.map_cons, same _ _ first, ih]

theorem related_last (between : α → β → Prop) (items : List α) (others : List β)
    (each : List.Forall₂ between items others) : Option.Rel between items.getLast? others.getLast? := by
  have backwards := List.forall₂_reverse_iff.mpr each
  rw [List.getLast?_eq_head?_reverse, List.getLast?_eq_head?_reverse]
  generalize items.reverse = left at backwards ⊢
  generalize others.reverse = right at backwards ⊢
  cases backwards with
  | nil => exact .none
  | cons first _ => exact .some first

variable [LinearOrder K]

def scanBest (value : α → K) (first : α) (rest : List α) : α :=
  rest.foldl (fun best item => if value best < value item then item else best) first

theorem scan_best_argmax (value : α → K) (first : α) (rest : List α) :
    (first :: rest).argmax value = some (scanBest value first rest) := by
  induction rest using List.reverseRecOn with
  | nil => exact List.argmax_singleton
  | append_singleton front last ih =>
      rw [← List.cons_append, List.argmax_concat, ih, scanBest, scanBest, List.foldl_append]
      exact (apply_ite some _ _ _).symm

theorem related_scan_best (between : α → β → Prop) (value : α → K) (worth : β → K)
    (same : ∀ a b, between a b → value a = worth b) (items : List α) (others : List β)
    (each : List.Forall₂ between items others) (first : α) (other : β) (start : between first other) :
    between (scanBest value first items) (scanBest worth other others) := by
  induction each generalizing first other with
  | nil => exact start
  | cons own _ ih =>
      refine ih _ _ ?_
      simp only [same _ _ start, same _ _ own]
      split_ifs
      · exact own
      · exact start

end Foundation
