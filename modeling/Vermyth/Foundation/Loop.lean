import Mathlib.Data.List.Basic

set_option autoImplicit false

namespace Foundation

-- A for loop whose body may raise, go on (yield) or break (done).
def sweep {σ α ε : Type} (body : σ → α → Except ε (ForInStep σ)) : List α → σ → Except ε (ForInStep σ)
  | [], state => .ok (.yield state)
  | item :: rest, state =>
      match body state item with
      | .error raised => .error raised
      | .ok (.done final) => .ok (.done final)
      | .ok (.yield next) => sweep body rest next

def exitState {σ : Type} : ForInStep σ → σ
  | .done state => state
  | .yield state => state

def Reaches {σ α ε : Type} (body : σ → α → Except ε (ForInStep σ)) (items : List α) (start : σ)
    (pre : List α) (item : α) (state : σ) : Prop :=
  (∃ rest, items = pre ++ item :: rest) ∧ sweep body pre start = .ok (.yield state)

theorem sweep_congr {σ α ε : Type} (body other : σ → α → Except ε (ForInStep σ)) (items : List α) (start : σ)
    (same : ∀ item ∈ items, ∀ state, body state item = other state item) :
    sweep body items start = sweep other items start := by
  induction items generalizing start with
  | nil => rfl
  | cons item rest ih =>
      rw [sweep, sweep, same item List.mem_cons_self start]
      split
      · rfl
      · rfl
      · exact ih _ fun later member => same later (List.mem_cons_of_mem _ member)

theorem sweep_append {σ α ε : Type} (body : σ → α → Except ε (ForInStep σ)) (pre rest : List α)
    (start state : σ) (before : sweep body pre start = .ok (.yield state)) :
    sweep body (pre ++ rest) start = sweep body rest state := by
  induction pre generalizing start with
  | nil =>
      simp only [sweep, Except.ok.injEq, ForInStep.yield.injEq] at before
      rw [List.nil_append, before]
  | cons item pre ih =>
      simp only [List.cons_append, sweep] at before ⊢
      cases step : body start item with
      | error raised => simp [step] at before
      | ok flow =>
          cases flow with
          | done final => simp [step] at before
          | yield next =>
              simp only [step] at before ⊢
              exact ih next before

theorem sweep_raises {σ α ε : Type} (body : σ → α → Except ε (ForInStep σ)) (items : List α) (start : σ)
    (raised : ε) :
    sweep body items start = .error raised ↔
      ∃ pre item state, Reaches body items start pre item state ∧ body state item = .error raised := by
  constructor
  · intro failed
    induction items generalizing start with
    | nil => simp [sweep] at failed
    | cons item rest ih =>
        simp only [sweep] at failed
        cases step : body start item with
        | error other =>
            simp only [step, Except.error.injEq] at failed
            exact ⟨[], item, start, ⟨⟨rest, rfl⟩, rfl⟩, failed ▸ step⟩
        | ok flow =>
            cases flow with
            | done final => simp [step] at failed
            | yield next =>
                simp only [step] at failed
                obtain ⟨pre, reached, state, ⟨⟨left, split⟩, before⟩, raises⟩ := ih next failed
                refine ⟨item :: pre, reached, state, ⟨⟨left, by rw [split]; rfl⟩, ?_⟩, raises⟩
                simpa only [sweep, step] using before
  · rintro ⟨pre, item, state, ⟨⟨rest, split⟩, before⟩, raises⟩
    rw [split, sweep_append body pre _ start state before, sweep, raises]

inductive SameFlow {σ τ ε : Type} (related : σ → τ → Prop) :
    Except ε (ForInStep σ) → Except ε (ForInStep τ) → Prop where
  | raised (error : ε) : SameFlow related (.error error) (.error error)
  | done (state : σ) (other : τ) (same : related state other) : SameFlow related (.ok (.done state)) (.ok (.done other))
  | yield (state : σ) (other : τ) (same : related state other) :
      SameFlow related (.ok (.yield state)) (.ok (.yield other))

theorem sweep_same {σ τ α ε : Type} (related : σ → τ → Prop) (body : σ → α → Except ε (ForInStep σ))
    (otherBody : τ → α → Except ε (ForInStep τ))
    (step : ∀ state other item, related state other → SameFlow related (body state item) (otherBody other item))
    (items : List α) (start : σ) (other : τ) (initially : related start other) :
    SameFlow related (sweep body items start) (sweep otherBody items other) := by
  induction items generalizing start other with
  | nil => exact .yield start other initially
  | cons item rest ih =>
      have first := step start other item initially
      rw [sweep, sweep]
      generalize body start item = here, otherBody other item = there at first
      cases first with
      | raised error => exact .raised error
      | done state last same => exact .done state last same
      | yield state next same => exact ih state next same

-- A loop body that looks at the state, breaks on some of what it sees and
-- records it. What it saw, in order, is the history of the run.
section History

variable {σ α β ε : Type} (look : σ → α → Except ε β) (stops : β → Bool) (record : σ → β → σ)

def recording (state : σ) (item : α) : Except ε (ForInStep σ) :=
  match look state item with
  | .error raised => .error raised
  | .ok seen => if stops seen then .ok (.done (record state seen)) else .ok (.yield (record state seen))

def IsHistory (start : σ) : List α → List β → Prop
  | [], [] => True
  | item :: items, fresh :: seen =>
      look start item = .ok fresh ∧ (seen ≠ [] → stops fresh = false) ∧
        IsHistory (record start fresh) items seen
  | _, _ => False

def broke (seen : List β) : Bool := seen.getLast?.any stops

def exitOf (start : σ) (seen : List β) : ForInStep σ :=
  if broke stops seen then .done (seen.foldl record start) else .yield (seen.foldl record start)

variable {look stops record}

theorem broke_cons (first : β) (seen : List β) (goesOn : stops first = false) :
    broke stops (first :: seen) = broke stops seen := by
  cases seen with
  | nil => simp [broke, goesOn]
  | cons second seen => rfl

theorem exit_of_cons (start : σ) (first : β) (seen : List β) (goesOn : stops first = false) :
    exitOf stops record start (first :: seen) = exitOf stops record (record start first) seen := by
  simp only [exitOf, broke_cons first seen goesOn, List.foldl_cons]

-- Every loop that returns has a history of the items it visited, and leaves
-- the state that recording the history builds.
theorem sweep_history (items : List α) (start : σ) (flow : ForInStep σ)
    (ran : sweep (recording look stops record) items start = .ok flow) :
    ∃ visited left seen, items = visited ++ left ∧ IsHistory look stops record start visited seen ∧
      flow = exitOf stops record start seen ∧ (broke stops seen = false → left = []) := by
  induction items generalizing start with
  | nil =>
      simp only [sweep, Except.ok.injEq] at ran
      exact ⟨[], [], [], rfl, trivial, ran.symm, fun _ => rfl⟩
  | cons item rest ih =>
      cases saw : look start item with
      | error raised => simp [sweep, recording, saw] at ran
      | ok first =>
          cases stop : stops first with
          | true =>
              simp only [sweep, recording, saw, stop, if_true, Except.ok.injEq] at ran
              refine ⟨[item], rest, [first], rfl, ⟨saw, fun more => absurd rfl more, trivial⟩, ?_, ?_⟩
              · simpa [exitOf, broke, stop] using ran.symm
              · simp [broke, stop]
          | false =>
              simp only [sweep, recording, saw, stop, Bool.false_eq_true, if_false] at ran
              obtain ⟨visited, left, seen, split, history, exit, ended⟩ := ih _ ran
              refine ⟨item :: visited, left, first :: seen, by rw [split]; rfl,
                ⟨saw, fun _ => stop, history⟩, ?_, ?_⟩
              · rw [exit, exit_of_cons start first seen stop]
              · intro wentOn
                exact ended (broke_cons first seen stop ▸ wentOn)

theorem history_split (start : σ) (visited : List α) (early late : List β) (fresh : β)
    (history : IsHistory look stops record start visited (early ++ fresh :: late)) :
    ∃ pre item post, visited = pre ++ item :: post ∧ IsHistory look stops record start pre early ∧
      look (early.foldl record start) item = .ok fresh ∧ (∀ seen ∈ early, stops seen = false) ∧
      (late ≠ [] → stops fresh = false) := by
  induction early generalizing start visited with
  | nil =>
      cases visited with
      | nil => exact absurd history (by simp [IsHistory])
      | cons item post =>
          obtain ⟨saw, goesOn, _⟩ := history
          exact ⟨[], item, post, rfl, trivial, saw, by simp, goesOn⟩
  | cons first early ih =>
      cases visited with
      | nil => exact absurd history (by simp [IsHistory])
      | cons item rest =>
          obtain ⟨saw, goesOn, tail⟩ := history
          obtain ⟨pre, reached, post, split, before, sawFresh, quiet, last⟩ := ih _ _ tail
          have firstQuiet : stops first = false := goesOn (by simp)
          refine ⟨item :: pre, reached, post, by rw [split]; rfl, ⟨saw, fun _ => firstQuiet, before⟩,
            sawFresh, ?_, last⟩
          intro seen member
          rcases List.mem_cons.mp member with same | later
          · rw [same]
            exact firstQuiet
          · exact quiet seen later

theorem history_sweep (start : σ) (visited : List α) (seen : List β)
    (history : IsHistory look stops record start visited seen) (quiet : ∀ fresh ∈ seen, stops fresh = false) :
    sweep (recording look stops record) visited start = .ok (.yield (seen.foldl record start)) := by
  induction visited generalizing start seen with
  | nil =>
      cases seen with
      | nil => rfl
      | cons fresh seen => exact absurd history (by simp [IsHistory])
  | cons item rest ih =>
      cases seen with
      | nil => exact absurd history (by simp [IsHistory])
      | cons fresh seen =>
          obtain ⟨saw, _, tail⟩ := history
          have goesOn := quiet fresh List.mem_cons_self
          simp only [sweep, recording, saw, goesOn, Bool.false_eq_true, if_false, List.foldl_cons]
          exact ih _ _ tail fun later member => quiet later (List.mem_cons_of_mem _ member)

theorem reaches_history (items : List α) (start : σ) (pre : List α) (item : α) (state : σ)
    (visited left : List α) (seen : List β) (split : items = visited ++ left)
    (history : IsHistory look stops record start visited seen) (ended : broke stops seen = false → left = [])
    (reached : Reaches (recording look stops record) items start pre item state) :
    ∃ early fresh late, seen = early ++ fresh :: late ∧ IsHistory look stops record start pre early ∧
      state = early.foldl record start ∧ look state item = .ok fresh := by
  obtain ⟨⟨rest, cut⟩, before⟩ := reached
  induction pre generalizing start items visited seen with
  | nil =>
      simp only [sweep, Except.ok.injEq, ForInStep.yield.injEq] at before
      subst before
      cases visited with
      | nil =>
          cases seen with
          | nil =>
              have none := ended rfl
              simp [cut, none] at split
          | cons fresh seen => exact absurd history (by simp [IsHistory])
      | cons first visited =>
          cases seen with
          | nil => exact absurd history (by simp [IsHistory])
          | cons fresh seen =>
              have same : item = first := by
                rw [cut, List.nil_append, List.cons_append] at split
                exact (List.cons.inj split).1
              exact ⟨[], fresh, seen, rfl, trivial, rfl, same ▸ history.1⟩
  | cons head pre ih =>
      cases visited with
      | nil =>
          cases seen with
          | nil =>
              have none := ended rfl
              simp [cut, none] at split
          | cons fresh seen => exact absurd history (by simp [IsHistory])
      | cons first visited =>
          cases seen with
          | nil => exact absurd history (by simp [IsHistory])
          | cons fresh seen =>
              obtain ⟨saw, _, tail⟩ := history
              rw [cut, List.cons_append, List.cons_append] at split
              obtain ⟨same, splitTail⟩ := List.cons.inj split
              subst same
              have goesOn : stops fresh = false := by
                cases stop : stops fresh with
                | false => rfl
                | true => simp [sweep, recording, saw, stop] at before
              simp only [sweep, recording, saw, goesOn, Bool.false_eq_true, if_false] at before
              have endedTail : broke stops seen = false → left = [] := by
                intro wentOn
                exact ended ((broke_cons fresh seen goesOn).trans wentOn)
              obtain ⟨early, found, late, parts, earlier, stateEq, look⟩ :=
                ih (pre ++ item :: rest) (record start fresh) visited seen splitTail tail endedTail before rfl
              exact ⟨fresh :: early, found, late, by rw [parts]; rfl, ⟨saw, fun _ => goesOn, earlier⟩,
                stateEq, look⟩

end History

-- Bounded retry: attempts are numbered from one, the first that does not
-- raise ends the loop, and the last error seen is kept.
structure Attempts (α ε : Type) where
  value : Option α := none
  retries : Nat := 0
  lastError : Option ε := none
deriving DecidableEq

def retryFrom {α ε : Type} (body : Nat → Except ε α) : Nat → Nat → Attempts α ε → Attempts α ε
  | 0, _, sofar => sofar
  | left + 1, attempt, sofar =>
      match body attempt with
      | .ok value => { value := some value, retries := attempt - 1, lastError := sofar.lastError }
      | .error raised =>
          retryFrom body left (attempt + 1) { value := none, retries := attempt - 1, lastError := some raised }

def retry {α ε : Type} (body : Nat → Except ε α) (attempts : Nat) : Attempts α ε :=
  retryFrom body attempts 1 {}

theorem retry_from_exhausted {α ε : Type} (body : Nat → Except ε α) (left attempt : Nat)
    (sofar : Attempts α ε) (nothing : sofar.value = none) :
    (retryFrom body left attempt sofar).value = none ↔
      ∀ k, attempt ≤ k → k < attempt + left → ∃ raised, body k = .error raised := by
  induction left generalizing attempt sofar with
  | zero =>
      simp only [retryFrom, nothing, true_iff]
      intro k low high
      omega
  | succ left ih =>
      simp only [retryFrom]
      cases step : body attempt with
      | ok value =>
          simp only [reduceCtorEq, false_iff]
          intro all
          obtain ⟨raised, failed⟩ := all attempt (Nat.le_refl _) (by omega)
          rw [step] at failed
          cases failed
      | error raised =>
          simp only
          rw [ih (attempt + 1) _ rfl]
          constructor
          · intro later k low high
            by_cases same : k = attempt
            · exact ⟨raised, same ▸ step⟩
            · exact later k (by omega) (by omega)
          · intro all k low high
            exact all k (by omega) (by omega)

theorem retry_exhausted {α ε : Type} (body : Nat → Except ε α) (attempts : Nat) :
    (retry body attempts).value = none ↔
      ∀ k, 1 ≤ k → k ≤ attempts → ∃ raised, body k = .error raised := by
  rw [retry, retry_from_exhausted body attempts 1 {} rfl]
  constructor
  · intro all k low high
    exact all k low (by omega)
  · intro all k low high
    exact all k low (by omega)

theorem retry_from_value {α ε : Type} (body : Nat → Except ε α) (left attempt : Nat) (sofar : Attempts α ε)
    (nothing : sofar.value = none) (value : α) (found : (retryFrom body left attempt sofar).value = some value) :
    ∃ k, body k = .ok value := by
  induction left generalizing attempt sofar with
  | zero =>
      rw [retryFrom, nothing] at found
      contradiction
  | succ left ih =>
      rw [retryFrom] at found
      cases tried : body attempt with
      | ok first =>
          rw [tried] at found
          exact ⟨attempt, tried.trans (congrArg Except.ok (Option.some.inj found))⟩
      | error raised =>
          rw [tried] at found
          exact ih _ _ rfl found

theorem retry_value {α ε : Type} (body : Nat → Except ε α) (attempts : Nat) (value : α)
    (found : (retry body attempts).value = some value) : ∃ k, body k = .ok value :=
  retry_from_value body attempts 1 {} rfl value found

theorem retry_from_retries {α ε : Type} (body : Nat → Except ε α) (left attempt : Nat) (sofar : Attempts α ε)
    (bound : sofar.retries + 2 ≤ attempt) :
    (retryFrom body left attempt sofar).retries + 2 ≤ attempt + left := by
  induction left generalizing attempt sofar with
  | zero => exact bound
  | succ left ih =>
      simp only [retryFrom]
      cases body attempt with
      | ok value =>
          simp only
          omega
      | error raised =>
          have later := ih (attempt + 1) { value := none, retries := attempt - 1, lastError := some raised }
            (by simp only; omega)
          simp only at later ⊢
          omega

theorem retry_retries {α ε : Type} (body : Nat → Except ε α) (attempts : Nat) (pos : 1 ≤ attempts) :
    (retry body attempts).retries < attempts := by
  obtain ⟨left, rfl⟩ : ∃ left, attempts = left + 1 := ⟨attempts - 1, by omega⟩
  simp only [retry, retryFrom]
  cases body 1 with
  | ok value => exact Nat.succ_pos left
  | error raised =>
      have later := retry_from_retries body left 2 { value := none, retries := 0, lastError := some raised }
        (Nat.le_refl 2)
      simp only [Nat.sub_self, Nat.reduceAdd] at later ⊢
      omega

def Attempts.map {α β ε : Type} (f : α → β) (tried : Attempts α ε) : Attempts β ε :=
  { value := tried.value.map f, retries := tried.retries, lastError := tried.lastError }

theorem retry_from_map {α β ε : Type} (body : Nat → Except ε α) (f : α → β) (left attempt : Nat)
    (sofar : Attempts α ε) :
    retryFrom (fun k => (body k).map f) left attempt (sofar.map f) = (retryFrom body left attempt sofar).map f := by
  induction left generalizing attempt sofar with
  | zero => rfl
  | succ left ih =>
      simp only [retryFrom]
      cases body attempt with
      | ok value => rfl
      | error raised => exact ih (attempt + 1) { value := none, retries := attempt - 1, lastError := some raised }

theorem retry_map {α β ε : Type} (body : Nat → Except ε α) (f : α → β) (attempts : Nat) :
    retry (fun k => (body k).map f) attempts = (retry body attempts).map f :=
  retry_from_map body f attempts 1 {}

theorem retry_first {α ε : Type} (body : Nat → Except ε α) (attempts : Nat) (value : α) (pos : 1 ≤ attempts)
    (ok : body 1 = .ok value) : retry body attempts = { value := some value } := by
  obtain ⟨left, rfl⟩ : ∃ left, attempts = left + 1 := ⟨attempts - 1, by omega⟩
  simp only [retry, retryFrom, ok, Nat.sub_self]

end Foundation
