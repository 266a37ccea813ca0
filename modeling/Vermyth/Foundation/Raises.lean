set_option autoImplicit false

namespace Foundation

variable {ε α β : Type} (kind : ε → Prop)

-- What a computation raises is of a kind.
def OnlyRaises (action : Except ε α) : Prop := ∀ raised, action = .error raised → kind raised

theorem raises_ok (value : α) : OnlyRaises kind (.ok value) := by
  intro raised same
  contradiction

theorem raises_error (raised : ε) (own : kind raised) : OnlyRaises kind (.error raised : Except ε α) := by
  intro other same
  cases same
  exact own

theorem raises_error_iff (raised : ε) : OnlyRaises kind (.error raised : Except ε α) ↔ kind raised := by
  constructor
  · exact fun own => own raised rfl
  · exact raises_error kind raised

theorem raises_bind (action : Except ε α) (next : α → Except ε β) (first : OnlyRaises kind action)
    (later : ∀ value, action = .ok value → OnlyRaises kind (next value)) : OnlyRaises kind (action >>= next) := by
  cases outcome : action with
  | error raised => exact raises_error kind raised (first raised outcome)
  | ok value => exact later value outcome

theorem raises_first (action : Except ε α) (next : α → Except ε β) (own : OnlyRaises kind (action >>= next)) :
    OnlyRaises kind action := by
  intro raised failed
  apply own
  rw [failed]
  rfl

theorem raises_map_iff (action : Except ε α) (after : α → β) :
    OnlyRaises kind (action.map after) ↔ OnlyRaises kind action := by
  cases action with
  | error raised =>
      constructor
      · exact fun own => raises_error kind raised (own raised rfl)
      · exact fun own => raises_error kind raised (own raised rfl)
  | ok value => exact iff_of_true (raises_ok kind _) (raises_ok kind _)

theorem raises_map (action : Except ε α) (after : α → β) (own : OnlyRaises kind action) :
    OnlyRaises kind (action.map after) := (raises_map_iff kind action after).mpr own

theorem raises_map_error (action : Except ε α) (wrap : ε → ε) (wraps : ∀ raised, kind raised → kind (wrap raised))
    (own : OnlyRaises kind action) : OnlyRaises kind (action.mapError wrap) := by
  cases outcome : action with
  | error raised => exact raises_error kind (wrap raised) (wraps raised (own raised outcome))
  | ok value => exact raises_ok kind value

theorem raises_map_m (action : α → Except ε β) (items : List α) (own : ∀ item ∈ items, OnlyRaises kind (action item)) :
    OnlyRaises kind (items.mapM action) := by
  induction items with
  | nil => exact raises_ok kind []
  | cons item rest ih =>
      rw [List.mapM_cons]
      apply raises_bind
      · exact own item List.mem_cons_self
      · intro value _
        apply raises_bind
        · exact ih fun other member => own other (List.mem_cons_of_mem item member)
        · intro values _
          exact raises_ok kind _

theorem raises_ite (condition : Prop) [Decidable condition] (a b : Except ε α)
    (left : condition → OnlyRaises kind a) (right : ¬ condition → OnlyRaises kind b) :
    OnlyRaises kind (if condition then a else b) := by
  by_cases holds : condition
  · rw [if_pos holds]
    exact left holds
  · rw [if_neg holds]
    exact right holds

theorem map_ok (action : Except ε α) (after : α → β) (result : β) :
    action.map after = .ok result ↔ ∃ value, action = .ok value ∧ after value = result := by
  cases action with
  | error raised => exact iff_of_false (fun same => nomatch same) (fun same => nomatch same.choose_spec.1)
  | ok own =>
      constructor
      · exact fun same => ⟨own, rfl, Except.ok.inj same⟩
      · rintro ⟨value, same, rfl⟩
        rw [Except.ok.inj same]
        rfl

theorem to_option_some (action : Except ε α) (value : α) : action.toOption = some value ↔ action = .ok value := by
  cases action with
  | error raised => exact iff_of_false (fun same => nomatch same) (fun same => nomatch same)
  | ok own => exact ⟨fun same => congrArg _ (Option.some.inj same), fun same => congrArg _ (Except.ok.inj same)⟩

theorem ok_where (action : Except ε α) (holds : α → Bool) (checked : action.toOption.any holds = true) :
    ∃ value, action = .ok value ∧ holds value = true := by
  cases action with
  | error raised => contradiction
  | ok value => exact ⟨value, rfl, checked⟩

end Foundation
