import Mathlib.Data.List.Basic

set_option autoImplicit false

-- Answers that are kept by the key of what was asked.
namespace Foundation

section Memo

variable {α κ ν : Type} [DecidableEq κ] (key : α → κ) (answer : α → ν)

abbrev Memo (κ ν : Type) := List (κ × ν)

def memoize (memo : Memo κ ν) (asked : α) : ν × Memo κ ν :=
  match memo.lookup (key asked) with
  | some held => (held, memo)
  | none => (answer asked, (key asked, answer asked) :: memo)

def Current (memo : Memo κ ν) : Prop := ∀ entry ∈ memo, ∀ asked, key asked = entry.1 → answer asked = entry.2

variable {key answer}

theorem lookup_mem (memo : Memo κ ν) (k : κ) (held : ν) (found : memo.lookup k = some held) : (k, held) ∈ memo := by
  obtain ⟨pre, post, rfl, -⟩ := List.lookup_eq_some_iff.mp found
  exact List.mem_append_right _ List.mem_cons_self

theorem memoize_answers (memo : Memo κ ν) (asked : α) (current : Current key answer memo) :
    (memoize key answer memo asked).1 = answer asked := by
  rw [memoize]
  cases found : memo.lookup (key asked) with
  | none => rfl
  | some held => exact (current _ (lookup_mem memo _ held found) asked rfl).symm

theorem memoize_current (memo : Memo κ ν) (asked : α) (current : Current key answer memo)
    (determined : ∀ other, key other = key asked → answer other = answer asked) :
    Current key answer (memoize key answer memo asked).2 := by
  rw [memoize]
  cases memo.lookup (key asked) with
  | some held => exact current
  | none =>
      intro entry member
      obtain rfl | earlier := List.mem_cons.mp member
      · exact determined
      · exact current entry earlier

theorem memoize_keys (holds : κ → Prop) (memo : Memo κ ν) (asked : α) (each : ∀ entry ∈ memo, holds entry.1)
    (own : holds (key asked)) : ∀ entry ∈ (memoize key answer memo asked).2, holds entry.1 := by
  rw [memoize]
  cases memo.lookup (key asked) with
  | some held => exact each
  | none =>
      intro entry member
      obtain rfl | earlier := List.mem_cons.mp member
      · exact own
      · exact each entry earlier

omit [DecidableEq κ] in
theorem current_change (later : α → ν) (memo : Memo κ ν) (current : Current key answer memo)
    (same : ∀ entry ∈ memo, ∀ asked, key asked = entry.1 → later asked = answer asked) : Current key later memo := by
  intro entry member asked isKey
  rw [same entry member asked isKey]
  exact current entry member asked isKey

omit [DecidableEq κ] in
theorem current_empty : Current key answer [] := fun _ member => absurd member List.not_mem_nil

end Memo

end Foundation
