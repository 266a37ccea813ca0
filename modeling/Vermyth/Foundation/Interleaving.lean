import Mathlib.Logic.Function.Iterate
import Vermyth.Foundation.Transition

set_option autoImplicit false

namespace Foundation

-- Parties over one shared state, and where each of them stands. A step is the
-- next atomic one of a party, and any of them may be the next to take its own.
structure Parties (ι σ π : Type) where
  shared : σ
  phases : ι → π

section Interleaving

variable {ι σ π : Type} [DecidableEq ι] (step : ι → σ → π → σ × π)

def act (parties : Parties ι σ π) (i : ι) : Parties ι σ π where
  shared := (step i parties.shared (parties.phases i)).1
  phases := Function.update parties.phases i (step i parties.shared (parties.phases i)).2

variable {step}

theorem act_shared (parties : Parties ι σ π) (i : ι) :
    (act step parties i).shared = (step i parties.shared (parties.phases i)).1 := rfl

@[simp] theorem act_self (parties : Parties ι σ π) (i : ι) :
    (act step parties i).phases i = (step i parties.shared (parties.phases i)).2 := Function.update_self ..

theorem act_other (parties : Parties ι σ π) (i j : ι) (other : j ≠ i) :
    (act step parties i).phases j = parties.phases j := Function.update_of_ne other ..

theorem act_eq (parties : Parties ι σ π) (i : ι) (shared : σ) (phase : π)
    (steps : step i parties.shared (parties.phases i) = (shared, phase)) :
    act step parties i = { shared := shared, phases := Function.update parties.phases i phase } := by
  rw [act, steps]

variable (step) in
def alone (i : ι) (stand : σ × π) : σ × π := step i stand.1 stand.2

variable (step) in
theorem run_alone (parties : Parties ι σ π) (i : ι) (n : Nat) :
    (run (act step) parties (List.replicate n i)).shared =
        ((alone step i)^[n] (parties.shared, parties.phases i)).1 ∧
      (run (act step) parties (List.replicate n i)).phases =
        Function.update parties.phases i ((alone step i)^[n] (parties.shared, parties.phases i)).2 := by
  induction n generalizing parties with
  | zero => exact ⟨rfl, (Function.update_eq_self i parties.phases).symm⟩
  | succ n ih =>
      obtain ⟨shared, phases⟩ := ih (act step parties i)
      rw [act_self, act_shared] at shared phases
      refine ⟨shared, phases.trans ?_⟩
      exact Function.update_idem ..

variable (step) in
def traced (passes : π → Bool) : Parties ι σ π → List ι → List ι
  | _, [] => []
  | parties, i :: rest =>
      (if passes (parties.phases i) then [i] else []) ++ traced passes (act step parties i) rest

theorem traced_concat (passes : π → Bool) (parties : Parties ι σ π) (schedule : List ι) (i : ι) :
    traced step passes parties (schedule ++ [i]) = traced step passes parties schedule ++
      if passes ((run (act step) parties schedule).phases i) then [i] else [] := by
  induction schedule generalizing parties with
  | nil => rw [List.nil_append, traced, traced, traced, List.append_nil, List.nil_append, run_nil]
  | cons first rest ih =>
      rw [List.cons_append, traced, ih, traced, List.append_assoc]
      rfl

def Exclusive (inside : π → Prop) (clash : ι → ι → Prop) (parties : Parties ι σ π) : Prop :=
  ∀ i j, clash i j → inside (parties.phases i) → inside (parties.phases j) → i = j

def Vacant (inside : π → Prop) (clash : ι → ι → Prop) (parties : Parties ι σ π) (i : ι) : Prop :=
  ∀ j, clash i j → ¬ inside (parties.phases j)

theorem exclusive_act (inside : π → Prop) (clash : ι → ι → Prop) (symm : ∀ i j, clash i j → clash j i)
    (parties : Parties ι σ π) (i : ι) (exclusive : Exclusive inside clash parties)
    (enters : ¬ inside (parties.phases i) → inside (step i parties.shared (parties.phases i)).2 →
      Vacant inside clash parties i) : Exclusive inside clash (act step parties i) := by
  have joins : ∀ j, j ≠ i → clash i j → inside (step i parties.shared (parties.phases i)).2 →
      inside (parties.phases j) → i = j := by
    intro j other clashes into within
    by_cases already : inside (parties.phases i)
    · exact exclusive i j clashes already within
    · exact absurd within (enters already into j clashes)
  intro a b clashes insideA insideB
  by_cases isA : a = i
  · subst isA
    by_cases isB : b = a
    · exact isB.symm
    · rw [act_self] at insideA
      rw [act_other parties a b isB] at insideB
      exact joins b isB clashes insideA insideB
  · rw [act_other parties i a isA] at insideA
    by_cases isB : b = i
    · subst isB
      rw [act_self] at insideB
      exact (joins a isA (symm a b clashes) insideB insideA).symm
    · rw [act_other parties i b isB] at insideB
      exact exclusive a b clashes insideA insideB

end Interleaving

end Foundation
