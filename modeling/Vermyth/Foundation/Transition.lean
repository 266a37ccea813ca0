import Mathlib.Data.List.Induction

set_option autoImplicit false

namespace Foundation

section Transition

variable {σ α : Type} (step : σ → α → σ)

def run (start : σ) (actions : List α) : σ := actions.foldl step start

def Taken (start : σ) (actions : List α) (before : σ) (action : α) : Prop :=
  ∃ pre post, actions = pre ++ action :: post ∧ before = run step start pre

variable {step}

@[simp] theorem run_nil (start : σ) : run step start [] = start := rfl

theorem run_append (start : σ) (pre post : List α) :
    run step start (pre ++ post) = run step (run step start pre) post := List.foldl_append

@[simp] theorem run_concat (start : σ) (actions : List α) (action : α) :
    run step start (actions ++ [action]) = step (run step start actions) action := by
  rw [run_append]
  rfl

theorem taken_concat (start : σ) (actions : List α) (last : α) (before : σ) (action : α) :
    Taken step start (actions ++ [last]) before action ↔
      Taken step start actions before action ∨ (before = run step start actions ∧ action = last) := by
  constructor
  · rintro ⟨pre, post, split, state⟩
    cases post using List.reverseRecOn with
    | nil =>
        obtain ⟨same, isLast⟩ := List.append_inj' split rfl
        exact Or.inr ⟨same ▸ state, (List.cons.inj isLast).1.symm⟩
    | append_singleton post final =>
        rw [← List.cons_append, ← List.append_assoc] at split
        exact Or.inl ⟨pre, post, (List.append_inj' split rfl).1, state⟩
  · rintro (⟨pre, post, split, state⟩ | ⟨state, isLast⟩)
    · exact ⟨pre, post ++ [last], by rw [split]; simp, state⟩
    · exact ⟨actions, [], by rw [isLast], state⟩

theorem run_invariant (holds : σ → Prop) (start : σ) (actions : List α) (initially : holds start)
    (preserved : ∀ before action, Taken step start actions before action → holds before →
      holds (step before action)) : holds (run step start actions) := by
  induction actions using List.reverseRecOn with
  | nil => exact initially
  | append_singleton actions last ih =>
      rw [run_concat]
      have earlier := ih fun before action taken =>
        preserved before action ((taken_concat start actions last before action).mpr (Or.inl taken))
      exact preserved _ last ((taken_concat start actions last _ last).mpr (Or.inr ⟨rfl, rfl⟩)) earlier

theorem taken_front (start : σ) (pre post : List α) (before : σ) (action : α)
    (taken : Taken step start pre before action) : Taken step start (pre ++ post) before action := by
  obtain ⟨front, back, split, state⟩ := taken
  exact ⟨front, back ++ post, by rw [split]; simp, state⟩

theorem taken_back (start : σ) (pre post : List α) (before : σ) (action : α)
    (taken : Taken step (run step start pre) post before action) : Taken step start (pre ++ post) before action := by
  obtain ⟨front, back, split, state⟩ := taken
  exact ⟨pre ++ front, back, by rw [split, List.append_assoc], by rw [run_append, state]⟩

variable (step) in
def Along (holds : σ → α → Prop) : σ → List α → Prop
  | _, [] => True
  | start, first :: rest => holds start first ∧ Along holds (step start first) rest

instance Along.decidable (holds : σ → α → Prop) [∀ state action, Decidable (holds state action)] :
    (start : σ) → (actions : List α) → Decidable (Along step holds start actions)
  | _, [] => isTrue trivial
  | start, first :: rest => @instDecidableAnd _ _ _ (Along.decidable holds (step start first) rest)

theorem along_taken (holds : σ → α → Prop) (start : σ) (actions : List α) (along : Along step holds start actions)
    (before : σ) (action : α) (taken : Taken step start actions before action) : holds before action := by
  obtain ⟨pre, post, rfl, rfl⟩ := taken
  induction pre generalizing start with
  | nil => exact along.1
  | cons first pre ih => exact ih (step start first) along.2

theorem always_iff_along (holds : σ → Prop) (allowed : σ → α → Prop)
    (exact : ∀ before action, holds before → (holds (step before action) ↔ allowed before action))
    (start : σ) (actions : List α) (initially : holds start) :
    (∀ pre, pre <+: actions → holds (run step start pre)) ↔ Along step allowed start actions := by
  induction actions generalizing start with
  | nil =>
      refine iff_of_true ?_ trivial
      intro pre front
      rw [List.prefix_nil.mp front]
      exact initially
  | cons first rest ih =>
      constructor
      · intro always
        have next : holds (step start first) := always [first] (List.prefix_append [first] rest)
        refine ⟨(exact start first initially).mp next, (ih (step start first) next).mp ?_⟩
        intro pre front
        exact always (first :: pre) ((List.prefix_cons_inj first).mpr front)
      · rintro ⟨here, later⟩ pre front
        have next := (exact start first initially).mpr here
        obtain rfl | ⟨tail, rfl, within⟩ := List.prefix_cons_iff.mp front
        · exact initially
        · exact (ih (step start first) next).mpr later tail within

end Transition

end Foundation
