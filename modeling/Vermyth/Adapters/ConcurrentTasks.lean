import Vermyth.Adapters.Scope
import Vermyth.Foundation.Interleaving
import Vermyth.Protocol.JsonScan

set_option autoImplicit false

namespace Vermyth

open Foundation

structure TaskRequest where
  idempotencyKey : Option String
  payload : Json
  now : Datetime

inductive TaskPhase where
  | arrived
  | missed
  | handled (result : TaskResult)
  | done (outcome : Except PyError TaskResult)

structure TaskServer (ω : Type) where
  gateway : GatewayState ω
  ran : List Nat := []

variable {ω : Type} (env : GatewayEnv ω) (requests : Nat → TaskRequest)

-- f"{idempotency_key}:{json.dumps(payload, sort_keys=True)}"
def compositeText (floatRepr : ℚ → String) (idempotencyKey : String) (payload : Json) : String :=
  idempotencyKey ++ ":" ++ String.ofList (dumps .default floatRepr payload.sorted)

def TaskRequest.composite (request : TaskRequest) : Option String :=
  (request.idempotencyKey.filter (· ≠ "")).map fun key => compositeText env.platform.floatRepr key request.payload

def GatewayEnv.servedAt (env : GatewayEnv ω) (now : Datetime) : GatewayEnv ω := { env with now := now }

-- The three atomic steps of execute_task: the lookup, the handler with what
-- stands before it, and the record. Each request builds a gateway of its own
-- over the shared store.
def taskStep (i : Nat) (server : TaskServer ω) : TaskPhase → TaskServer ω × TaskPhase
  | .arrived =>
      match storedResult ((requests i).composite env) server.gateway with
      | some result => (server, .done (.ok result))
      | none => (server, .missed)
  | .missed =>
      let called := executeTask (env.servedAt (requests i).now) none (requests i).payload server.gateway
      match called.1 with
      | .error raised => ({ server with gateway := called.2 }, .done (.error raised))
      | .ok result =>
          if result.status = .completed then ({ gateway := called.2, ran := server.ran ++ [i] }, .handled result)
          else ({ server with gateway := called.2 }, .done (.ok result))
  | .handled result =>
      ({ server with gateway := storeResult ((requests i).composite env) result server.gateway }, .done (.ok result))
  | .done outcome => (server, .done outcome)

abbrev TaskParties (ω : Type) := Parties Nat (TaskServer ω) TaskPhase

def newServer (world : ω) : TaskParties ω where
  shared := { gateway := { world := world, idempotencyStore := some [] } }
  phases := fun _ => .arrived

def TaskPhase.InFlight : TaskPhase → Prop
  | .missed => True
  | .handled _ => True
  | _ => False

instance TaskPhase.InFlight.decidable : (phase : TaskPhase) → Decidable phase.InFlight
  | .missed => isTrue trivial
  | .handled _ => isTrue trivial
  | .arrived => isFalse id
  | .done _ => isFalse id

def TaskPhase.Started (phase : TaskPhase) : Prop := phase ≠ .arrived

def TaskPhase.Completes (phase : TaskPhase) (result : TaskResult) : Prop :=
  phase = .done (.ok result) ∧ result.status = .completed

def SamePair (request other : TaskRequest) : Prop :=
  request.idempotencyKey.isSome ∧ request.idempotencyKey = other.idempotencyKey ∧
    request.payload.sorted = other.payload.sorted

structure AtMostOnce (parties : TaskParties ω) : Prop where
  once : parties.shared.ran.Pairwise fun i j => ¬ SamePair (requests i) (requests j)
  same : ∀ i j result other, SamePair (requests i) (requests j) → (parties.phases i).Completes result →
    (parties.phases j).Completes other → result = other

def SameComposite (i j : Nat) : Prop :=
  ∃ key, (requests i).composite env = some key ∧ (requests j).composite env = some key

def SameUnkeyed (i j : Nat) : Prop :=
  (requests i).idempotencyKey = some "" ∧ SamePair (requests i) (requests j)

-- The step is not a lookup made while another request for the same key and
-- payload stands between its own lookup and its record, nor one under an empty
-- header that comes after another.
def Undisturbed (parties : TaskParties ω) (i : Nat) : Prop :=
  parties.phases i = .arrived → Vacant TaskPhase.InFlight (SameComposite env requests) parties i ∧
    Vacant TaskPhase.Started (SameUnkeyed requests) parties i

theorem same_composite_symm (i j : Nat) (same : SameComposite env requests i j) : SameComposite env requests j i := by
  obtain ⟨key, own, others⟩ := same
  exact ⟨key, others, own⟩

theorem same_pair_symm (request other : TaskRequest) (same : SamePair request other) : SamePair other request := by
  obtain ⟨given, key, payload⟩ := same
  exact ⟨key ▸ given, key.symm, payload.symm⟩

theorem same_unkeyed_symm (i j : Nat) (same : SameUnkeyed requests i j) : SameUnkeyed requests j i := by
  obtain ⟨empty, pair⟩ := same
  exact ⟨pair.2.1 ▸ empty, same_pair_symm _ _ pair⟩

theorem same_pair_cases (i j : Nat) (pair : SamePair (requests i) (requests j)) :
    SameComposite env requests i j ∨ SameUnkeyed requests i j := by
  obtain ⟨given, key, payload⟩ := pair
  obtain ⟨header, isHeader⟩ := Option.isSome_iff_exists.mp given
  by_cases empty : header = ""
  · subst empty
    exact Or.inr ⟨isHeader, given, key, payload⟩
  · refine Or.inl ⟨compositeText env.platform.floatRepr header (requests i).payload, ?_, ?_⟩
    · simp [TaskRequest.composite, isHeader, empty]
    · simp [TaskRequest.composite, ← key, isHeader, empty, compositeText, payload]

@[simp] theorem stored_none (state : GatewayState ω) : storedResult none state = none := by
  unfold storedResult
  cases state.idempotencyStore <;> rfl

@[simp] theorem store_none (result : TaskResult) (state : GatewayState ω) : storeResult none result state = state := by
  unfold storeResult
  cases state.idempotencyStore <;> rfl

theorem stored_congr (composite : Option String) (state other : GatewayState ω)
    (same : state.idempotencyStore = other.idempotencyStore) :
    storedResult composite state = storedResult composite other := by
  simp only [storedResult, same]

theorem lookup_others {β : Type} (removed key : String) (other : key ≠ removed) (entries : List (String × β)) :
    (entries.filter fun old => old.1 ≠ removed).lookup key = entries.lookup key := by
  induction entries with
  | nil => rfl
  | cons entry rest ih =>
      obtain ⟨own, value⟩ := entry
      by_cases gone : own = removed
      · rw [List.filter_cons_of_neg (by simpa using gone), lookup_entry, if_neg (gone ▸ other), ih]
      · rw [List.filter_cons_of_pos (by simpa using gone), lookup_entry, lookup_entry, ih]

theorem stored_after (composite own : String) (result : TaskResult) (state : GatewayState ω)
    (kept : state.idempotencyStore.isSome) : storedResult (some composite) (storeResult (some own) result state) =
      if composite = own then some result else storedResult (some composite) state := by
  obtain ⟨store, isStore⟩ := Option.isSome_iff_exists.mp kept
  simp only [storeResult, storedResult, isStore]
  rw [lookup_entry]
  by_cases same : composite = own
  · rw [if_pos same, if_pos same]
  · rw [if_neg same, if_neg same, lookup_others own composite same]

theorem store_result_kept (composite : Option String) (result : TaskResult) (state : GatewayState ω) :
    (storeResult composite result state).idempotencyStore.isSome = state.idempotencyStore.isSome := by
  simp only [storeResult]
  cases isStore : state.idempotencyStore <;> cases composite <;> simp [isStore]

theorem dispatch_task_recorded (composite : Option String) (task : Task) (skillId : String)
    (inp : List (String × Json)) (arcProv : Option (List (String × Json))) (state : GatewayState ω) :
    let called := dispatchTask env none task skillId inp arcProv state
    dispatchTask env composite task skillId inp arcProv state =
      if called.1.status = .completed then (called.1, storeResult composite called.1 called.2) else called := by
  simp only [dispatchTask]
  cases env.toolDispatch.lookup skillId with
  | none => rfl
  | some handler =>
      by_cases allowed : toolInScope env skillId = true
      · cases called : (handler inp state.world).1 with
        | error raised => simp [allowed, called, failedTask]
        | ok out => simp [allowed, called]
      · simp [allowed, failedTask]

theorem dispatch_task_store (task : Task) (skillId : String) (inp : List (String × Json))
    (arcProv : Option (List (String × Json))) (state : GatewayState ω) :
    (dispatchTask env none task skillId inp arcProv state).2.idempotencyStore = state.idempotencyStore := by
  rw [dispatchTask]
  cases env.toolDispatch.lookup skillId with
  | none => rfl
  | some handler =>
      by_cases allowed : toolInScope env skillId = true
      · cases called : (handler inp state.world).1 <;> simp [allowed, called]
      · simp [allowed]

theorem composite_none (payload : Json) (state : GatewayState ω) : compositeKey env none payload state = none := by
  rw [compositeKey]
  cases state.idempotencyStore <;> rfl

theorem missed_keyless (payload : Json) (state : GatewayState ω) :
    storedResult (compositeKey env none payload state) state = none := by
  rw [composite_none, stored_none]

theorem execute_task_store (payload : Json) (state : GatewayState ω) :
    (executeTask env none payload state).2.idempotencyStore = state.idempotencyStore := by
  rcases execute_task_cases env payload state with
    ⟨raised, reply, -, -, called⟩ | ⟨task, skillId, inp, arcProv, -, -, -, called⟩
  · rw [called none (missed_keyless env payload state)]
  · rw [called none (missed_keyless env payload state), composite_none, dispatch_task_store]

theorem execute_task_recorded (idempotencyKey : Option String) (payload : Json) (state : GatewayState ω)
    (missed : storedResult (compositeKey env idempotencyKey payload state) state = none) :
    let called := executeTask env none payload state
    executeTask env idempotencyKey payload state = match called.1 with
      | .error _ => called
      | .ok result =>
          if result.status = .completed then
            (.ok result, storeResult (compositeKey env idempotencyKey payload state) result called.2)
          else called := by
  rcases execute_task_cases env payload state with
    ⟨raised, reply, -, failed, called⟩ | ⟨task, skillId, inp, arcProv, -, -, -, called⟩
  · simp only [called idempotencyKey missed, called none (missed_keyless env payload state)]
    cases reply with
    | error raised => rfl
    | ok result => simp [failed result rfl]
  · simp only [called idempotencyKey missed, called none (missed_keyless env payload state), composite_none]
    rw [dispatch_task_recorded]
    split_ifs <;> rfl

theorem execute_task_completed (payload : Json) (state : GatewayState ω) (result : TaskResult)
    (returned : (executeTask env none payload state).1 = .ok result) (completed : result.status = .completed) :
    ∃ dispatch handler out, (executeTask env none payload state).2.dispatched = state.dispatched ++ [dispatch] ∧
      env.toolDispatch.lookup dispatch.1 = some handler ∧
        (handler dispatch.2 (env.freshUlid state.world).2).1 = .ok out := by
  rcases execute_task_cases env payload state with
    ⟨raised, reply, -, failed, called⟩ | ⟨task, skillId, inp, arcProv, -, -, -, called⟩
  · rw [called none (missed_keyless env payload state)] at returned
    have status := failed result returned
    rw [completed] at status
    contradiction
  · rw [called none (missed_keyless env payload state)] at returned ⊢
    simp only [Except.ok.injEq, dispatchTask] at returned ⊢
    cases found : env.toolDispatch.lookup skillId with
    | none =>
        simp only [found] at returned
        subst returned
        contradiction
    | some handler =>
        by_cases allowed : toolInScope env skillId = true
        · cases called : (handler inp (env.freshUlid state.world).2).1 with
          | error raised =>
              simp only [found, allowed, called, Bool.not_true, Bool.false_eq_true, if_false] at returned
              subst returned
              contradiction
          | ok out =>
              refine ⟨(skillId, inp), handler, out, ?_, found, called⟩
              simp only [allowed, called, Bool.not_true, Bool.false_eq_true, if_false, composite_none, storeResult]
              cases state.idempotencyStore <;> rfl
        · simp only [found, allowed, Bool.not_false, if_true] at returned
          subst returned
          contradiction

theorem task_step_cases (i : Nat) (server : TaskServer ω) (phase : TaskPhase) :
    (∃ result, phase = .arrived ∧ storedResult ((requests i).composite env) server.gateway = some result ∧
      taskStep env requests i server phase = (server, .done (.ok result))) ∨
    (phase = .arrived ∧ storedResult ((requests i).composite env) server.gateway = none ∧
      taskStep env requests i server phase = (server, .missed)) ∨
    (∃ gateway outcome, phase = .missed ∧ gateway.idempotencyStore = server.gateway.idempotencyStore ∧
      (∀ result, outcome = .ok result → result.status ≠ .completed) ∧
        taskStep env requests i server phase = ({ server with gateway := gateway }, .done outcome)) ∨
    (∃ gateway result, phase = .missed ∧ gateway.idempotencyStore = server.gateway.idempotencyStore ∧
      result.status = .completed ∧
        taskStep env requests i server phase = ({ gateway := gateway, ran := server.ran ++ [i] }, .handled result)) ∨
    (∃ result, phase = .handled result ∧ taskStep env requests i server phase =
      ({ server with gateway := storeResult ((requests i).composite env) result server.gateway },
        .done (.ok result))) ∨
    (∃ outcome, phase = .done outcome ∧ taskStep env requests i server phase = (server, phase)) := by
  cases phase with
  | arrived =>
      cases stored : storedResult ((requests i).composite env) server.gateway with
      | some result => exact Or.inl ⟨result, rfl, rfl, by rw [taskStep, stored]⟩
      | none => exact Or.inr (Or.inl ⟨rfl, rfl, by rw [taskStep, stored]⟩)
  | missed =>
      have kept := execute_task_store (env.servedAt (requests i).now) (requests i).payload server.gateway
      cases called : (executeTask (env.servedAt (requests i).now) none (requests i).payload server.gateway).1 with
      | error raised =>
          refine Or.inr (Or.inr (Or.inl ⟨_, .error raised, rfl, kept, ?_, by simp only [taskStep, called]⟩))
          intro result isOk
          contradiction
      | ok result =>
          by_cases completed : result.status = .completed
          · exact Or.inr (Or.inr (Or.inr (Or.inl ⟨_, result, rfl, kept, completed,
              by simp only [taskStep, called, if_pos completed]⟩)))
          · refine Or.inr (Or.inr (Or.inl ⟨_, .ok result, rfl, kept, ?_, by
              simp only [taskStep, called, if_neg completed]⟩))
            intro other isOk
            obtain rfl := Except.ok.inj isOk
            exact completed
  | handled result => exact Or.inr (Or.inr (Or.inr (Or.inr (Or.inl ⟨result, rfl, rfl⟩))))
  | done outcome => exact Or.inr (Or.inr (Or.inr (Or.inr (Or.inr ⟨outcome, rfl, rfl⟩))))

theorem composite_key_eq (request : TaskRequest) (state : GatewayState ω) (kept : state.idempotencyStore.isSome) :
    compositeKey (env.servedAt request.now) request.idempotencyKey request.payload state =
      request.composite env := by
  obtain ⟨store, isStore⟩ := Option.isSome_iff_exists.mp kept
  simp only [compositeKey, TaskRequest.composite, compositeText, isStore]
  cases request.idempotencyKey.filter (· ≠ "") <;> rfl

theorem alone_is_execute_task (parties : TaskParties ω) (i : Nat) (arrived : parties.phases i = .arrived)
    (kept : parties.shared.gateway.idempotencyStore.isSome) :
    let called := executeTask (env.servedAt (requests i).now) (requests i).idempotencyKey (requests i).payload
      parties.shared.gateway
    let ended := run (act (taskStep env requests)) parties [i, i, i]
    ended.shared.gateway = called.2 ∧ ended.phases i = .done called.1 := by
  have key := composite_key_eq env (requests i) parties.shared.gateway kept
  obtain ⟨shared, phases⟩ := run_alone (taskStep env requests) parties i 3
  rw [arrived] at shared phases
  change (run (act (taskStep env requests)) parties (List.replicate 3 i)).shared.gateway = _ ∧
    (run (act (taskStep env requests)) parties (List.replicate 3 i)).phases i = _
  rw [shared, phases, Function.update_self]
  simp only [Function.iterate_succ_apply, Function.iterate_zero_apply, alone]
  cases stored : storedResult ((requests i).composite env) parties.shared.gateway with
  | some result => simp only [taskStep, stored, executeTask, key, and_self]
  | none =>
      have recorded := execute_task_recorded (env.servedAt (requests i).now) (requests i).idempotencyKey
        (requests i).payload parties.shared.gateway (by rw [key, stored])
      rw [key] at recorded
      generalize isCalled : executeTask (env.servedAt (requests i).now) none (requests i).payload
        parties.shared.gateway = called at recorded
      obtain ⟨outcome, gateway⟩ := called
      rw [recorded]
      cases outcome with
      | error raised => simp only [taskStep, stored, isCalled, and_self]
      | ok result =>
          by_cases completed : result.status = .completed
          · simp only [taskStep, stored, isCalled, if_pos completed, and_self]
          · simp only [taskStep, stored, isCalled, if_neg completed, and_self]

structure TasksRecorded (parties : TaskParties ω) : Prop where
  kept : parties.shared.gateway.idempotencyStore.isSome
  exclusive : Exclusive TaskPhase.InFlight (SameComposite env requests) parties
  alone : Exclusive TaskPhase.Started (SameUnkeyed requests) parties
  quiet : ∀ i key, (requests i).composite env = some key → (parties.phases i).InFlight →
    storedResult (some key) parties.shared.gateway = none
  handled : ∀ i ∈ parties.shared.ran, ∃ result, parties.phases i = .handled result ∨ parties.phases i = .done (.ok result)
  settled : ∀ i ∈ parties.shared.ran, ∀ key, (requests i).composite env = some key →
    (parties.phases i).InFlight ∨ (storedResult (some key) parties.shared.gateway).isSome
  answers : ∀ i key result, (requests i).composite env = some key → (parties.phases i).Completes result →
    storedResult (some key) parties.shared.gateway = some result
  once : parties.shared.ran.Pairwise fun i j => ¬ SamePair (requests i) (requests j)

theorem recorded_new (world : ω) : TasksRecorded env requests (newServer world) where
  kept := rfl
  exclusive := fun _ _ _ inside _ => absurd inside id
  alone := fun _ _ _ inside _ => absurd rfl inside
  quiet := fun _ _ _ inside => absurd inside id
  handled := fun _ member => absurd member List.not_mem_nil
  settled := fun _ member => absurd member List.not_mem_nil
  answers := fun _ _ _ _ completes => by cases completes.1
  once := List.Pairwise.nil

section Store

variable (parties : TaskParties ω) (i : Nat) (kept : parties.shared.gateway.idempotencyStore.isSome)

include kept

theorem kept_act : (act (taskStep env requests) parties i).shared.gateway.idempotencyStore.isSome := by
  rw [act_shared]
  obtain ⟨_, -, -, steps⟩ | ⟨-, -, steps⟩ | ⟨_, _, -, same, -, steps⟩ | ⟨_, _, -, same, -, steps⟩ | ⟨_, -, steps⟩ |
    ⟨_, -, steps⟩ := task_step_cases env requests i parties.shared (parties.phases i)
  · rw [steps]; exact kept
  · rw [steps]; exact kept
  · rw [steps]; exact same ▸ kept
  · rw [steps]; exact same ▸ kept
  · rw [steps, store_result_kept]; exact kept
  · rw [steps]; exact kept

theorem stored_act (key : String) :
    (∃ result, parties.phases i = .handled result ∧ (requests i).composite env = some key ∧
      storedResult (some key) (act (taskStep env requests) parties i).shared.gateway = some result) ∨
    storedResult (some key) (act (taskStep env requests) parties i).shared.gateway =
      storedResult (some key) parties.shared.gateway := by
  rw [act_shared]
  obtain ⟨_, -, -, steps⟩ | ⟨-, -, steps⟩ | ⟨_, _, -, same, -, steps⟩ | ⟨_, _, -, same, -, steps⟩ |
    ⟨result, phase, steps⟩ | ⟨_, -, steps⟩ := task_step_cases env requests i parties.shared (parties.phases i)
  · rw [steps]; exact Or.inr rfl
  · rw [steps]; exact Or.inr rfl
  · rw [steps]; exact Or.inr (stored_congr _ _ _ same)
  · rw [steps]; exact Or.inr (stored_congr _ _ _ same)
  · rw [steps]
    cases composite : (requests i).composite env with
    | none => rw [store_none]; exact Or.inr rfl
    | some own =>
        rw [stored_after key own result _ kept]
        by_cases same : key = own
        · exact Or.inl ⟨result, phase, by rw [same], by rw [if_pos same]⟩
        · exact Or.inr (by rw [if_neg same])
  · rw [steps]; exact Or.inr rfl

end Store

section Step

variable (parties : TaskParties ω) (i : Nat) (recorded : TasksRecorded env requests parties)

include recorded

omit recorded in
theorem flies_from (grounded : ¬ (parties.phases i).InFlight)
    (flies : (taskStep env requests i parties.shared (parties.phases i)).2.InFlight) : parties.phases i = .arrived := by
  cases phase : parties.phases i with
  | arrived => rfl
  | missed =>
      rw [phase] at grounded
      exact absurd trivial grounded
  | handled result =>
      rw [phase] at grounded
      exact absurd trivial grounded
  | done outcome =>
      rw [phase] at flies
      exact absurd flies id

theorem quiet_act (j : Nat) (key : String) (composite : (requests j).composite env = some key)
    (flies : ((act (taskStep env requests) parties i).phases j).InFlight) :
    storedResult (some key) (act (taskStep env requests) parties i).shared.gateway = none := by
  by_cases own : j = i
  · subst own
    rw [act_self] at flies
    rw [act_shared]
    obtain ⟨_, -, -, steps⟩ | ⟨-, missed, steps⟩ | ⟨_, _, -, -, -, steps⟩ | ⟨gateway, result, phase, same, -, steps⟩ |
      ⟨_, -, steps⟩ | ⟨outcome, phase, steps⟩ := task_step_cases env requests j parties.shared (parties.phases j)
    · rw [steps] at flies; exact absurd flies id
    · rw [steps, ← composite]; exact missed
    · rw [steps] at flies; exact absurd flies id
    · rw [steps, ← recorded.quiet j key composite (by rw [phase]; trivial)]
      exact stored_congr _ _ _ same
    · rw [steps] at flies; exact absurd flies id
    · rw [steps, phase] at flies; exact absurd flies id
  · rw [act_other _ _ _ own] at flies
    obtain ⟨result, phase, same, -⟩ | unchanged := stored_act env requests parties i recorded.kept key
    · have alone := recorded.exclusive j i ⟨key, composite, same⟩ flies (by rw [phase]; trivial)
      exact absurd alone own
    · rw [unchanged]
      exact recorded.quiet j key composite flies

omit recorded in
theorem ran_act : (act (taskStep env requests) parties i).shared.ran = parties.shared.ran ∨
    (parties.phases i = .missed ∧ (∃ result, (act (taskStep env requests) parties i).phases i = .handled result) ∧
      (act (taskStep env requests) parties i).shared.ran = parties.shared.ran ++ [i]) := by
  rw [act_shared, act_self]
  obtain ⟨_, -, -, steps⟩ | ⟨-, -, steps⟩ | ⟨_, _, -, -, -, steps⟩ | ⟨_, result, phase, -, -, steps⟩ | ⟨_, -, steps⟩ |
    ⟨_, -, steps⟩ := task_step_cases env requests i parties.shared (parties.phases i)
  · rw [steps]; exact Or.inl rfl
  · rw [steps]; exact Or.inl rfl
  · rw [steps]; exact Or.inl rfl
  · rw [steps]; exact Or.inr ⟨phase, ⟨result, rfl⟩, rfl⟩
  · rw [steps]; exact Or.inl rfl
  · rw [steps]; exact Or.inl rfl

theorem handled_act (j : Nat) (member : j ∈ (act (taskStep env requests) parties i).shared.ran) :
    ∃ result, (act (taskStep env requests) parties i).phases j = .handled result ∨
      (act (taskStep env requests) parties i).phases j = .done (.ok result) := by
  by_cases earlier : j ∈ parties.shared.ran
  · obtain ⟨result, phase⟩ := recorded.handled j earlier
    refine ⟨result, ?_⟩
    by_cases own : j = i
    · subst own
      rw [act_self]
      obtain phase | phase := phase
      · exact Or.inr (by rw [phase]; rfl)
      · exact Or.inr (by rw [phase]; rfl)
    · rw [act_other _ _ _ own]
      exact phase
  · obtain unchanged | ⟨-, ⟨result, handled⟩, grown⟩ := ran_act env requests parties i
    · exact absurd (unchanged ▸ member) earlier
    · rw [grown, List.mem_append, List.mem_singleton] at member
      obtain rfl := member.resolve_left earlier
      exact ⟨result, Or.inl handled⟩

theorem settled_act (j : Nat) (member : j ∈ (act (taskStep env requests) parties i).shared.ran) (key : String)
    (composite : (requests j).composite env = some key) :
    ((act (taskStep env requests) parties i).phases j).InFlight ∨
      (storedResult (some key) (act (taskStep env requests) parties i).shared.gateway).isSome := by
  obtain ⟨result, -, -, found⟩ | unchanged := stored_act env requests parties i recorded.kept key
  · exact Or.inr (by rw [found]; rfl)
  by_cases earlier : j ∈ parties.shared.ran
  · obtain flies | found := recorded.settled j earlier key composite
    · by_cases own : j = i
      · subst own
        obtain ⟨result, phase | phase⟩ := recorded.handled j earlier
        · -- the record step of the request itself
          refine Or.inr ?_
          rw [act_shared, phase, taskStep, composite, stored_after _ _ _ _ recorded.kept, if_pos rfl]
          rfl
        · rw [phase] at flies
          exact absurd flies id
      · exact Or.inl (by rw [act_other _ _ _ own]; exact flies)
    · exact Or.inr (by rw [unchanged]; exact found)
  · obtain same | ⟨-, ⟨result, handled⟩, grown⟩ := ran_act env requests parties i
    · exact absurd (same ▸ member) earlier
    · rw [grown, List.mem_append, List.mem_singleton] at member
      obtain rfl := member.resolve_left earlier
      exact Or.inl (by rw [handled]; trivial)

theorem answers_act (j : Nat) (key : String) (result : TaskResult) (composite : (requests j).composite env = some key)
    (completes : ((act (taskStep env requests) parties i).phases j).Completes result) :
    storedResult (some key) (act (taskStep env requests) parties i).shared.gateway = some result := by
  by_cases own : j = i
  · subst own
    obtain ⟨phase', completed⟩ := completes
    rw [act_self] at phase'
    rw [act_shared]
    obtain ⟨_, -, stored, steps⟩ | ⟨-, -, steps⟩ | ⟨_, outcome, -, -, fails, steps⟩ | ⟨_, _, -, -, -, steps⟩ |
      ⟨_, -, steps⟩ | ⟨_, phase, steps⟩ := task_step_cases env requests j parties.shared (parties.phases j)
    · rw [steps] at phase' ⊢
      obtain rfl := Except.ok.inj (TaskPhase.done.inj phase')
      rw [← composite]
      exact stored
    · rw [steps] at phase'
      contradiction
    · rw [steps] at phase'
      exact absurd completed (fails result (TaskPhase.done.inj phase'))
    · rw [steps] at phase'
      contradiction
    · rw [steps] at phase' ⊢
      obtain rfl := Except.ok.inj (TaskPhase.done.inj phase')
      rw [composite, stored_after _ _ _ _ recorded.kept, if_pos rfl]
    · rw [steps] at phase' ⊢
      exact recorded.answers j key result composite ⟨phase', completed⟩
  · rw [TaskPhase.Completes, act_other _ _ _ own] at completes
    have before := recorded.answers j key result composite completes
    obtain ⟨_, phase, same, -⟩ | unchanged := stored_act env requests parties i recorded.kept key
    · rw [recorded.quiet i key same (by rw [phase]; trivial)] at before
      contradiction
    · rw [unchanged, before]

theorem once_act (j : Nat) (earlier : j ∈ parties.shared.ran) (phase : parties.phases i = .missed) :
    ¬ SamePair (requests j) (requests i) := by
  have flies : (parties.phases i).InFlight := by rw [phase]; trivial
  have other : j ≠ i := by
    rintro rfl
    obtain ⟨result, handled | isDone⟩ := recorded.handled j earlier
    · rw [handled] at phase
      contradiction
    · rw [isDone] at phase
      contradiction
  intro pair
  obtain ⟨key, own, others⟩ | unkeyed := same_pair_cases env requests j i pair
  · obtain inside | found := recorded.settled j earlier key own
    · exact other (recorded.exclusive j i ⟨key, own, others⟩ inside flies)
    · rw [recorded.quiet i key others flies] at found
      contradiction
  · refine other (recorded.alone j i unkeyed ?_ (by rw [phase]; exact TaskPhase.noConfusion))
    obtain ⟨result, handled | isDone⟩ := recorded.handled j earlier
    · rw [handled]
      exact TaskPhase.noConfusion
    · rw [isDone]
      exact TaskPhase.noConfusion

theorem recorded_act (undisturbed : Undisturbed env requests parties i) :
    TasksRecorded env requests (act (taskStep env requests) parties i) where
  kept := kept_act env requests parties i recorded.kept
  exclusive := exclusive_act _ _ (same_composite_symm env requests) parties i recorded.exclusive fun grounded flies =>
    (undisturbed (flies_from env requests parties i grounded flies)).1
  alone := exclusive_act _ _ (same_unkeyed_symm requests) parties i recorded.alone fun waits _ =>
    (undisturbed (not_not.mp waits)).2
  quiet := quiet_act env requests parties i recorded
  handled := handled_act env requests parties i recorded
  settled := settled_act env requests parties i recorded
  answers := answers_act env requests parties i recorded
  once := by
    obtain unchanged | ⟨missed, -, grown⟩ := ran_act env requests parties i
    · rw [unchanged]
      exact recorded.once
    · rw [grown, List.pairwise_append]
      refine ⟨recorded.once, List.pairwise_singleton _ i, ?_⟩
      intro j earlier last isLast
      obtain rfl := List.mem_singleton.mp isLast
      exact once_act env requests parties last recorded j earlier missed

end Step

theorem recorded_once (parties : TaskParties ω) (recorded : TasksRecorded env requests parties) :
    AtMostOnce requests parties where
  once := recorded.once
  same := by
    intro i j result other pair completes completes'
    obtain ⟨key, own, others⟩ | unkeyed := same_pair_cases env requests i j pair
    · have first := recorded.answers i key result own completes
      rw [recorded.answers j key other others completes'] at first
      exact (Option.some.inj first).symm
    · obtain rfl := recorded.alone i j unkeyed (by rw [completes.1]; exact TaskPhase.noConfusion)
        (by rw [completes'.1]; exact TaskPhase.noConfusion)
      exact Except.ok.inj (TaskPhase.done.inj (completes.1.symm.trans completes'.1))

theorem undisturbed_run_recorded (world : ω) (events : List Nat)
    (undisturbed : ∀ parties i, Taken (act (taskStep env requests)) (newServer world) events parties i →
      Undisturbed env requests parties i) :
    TasksRecorded env requests (run (act (taskStep env requests)) (newServer world) events) := by
  refine run_invariant (TasksRecorded env requests) (newServer world) events (recorded_new env requests world) ?_
  intro parties i taken recorded
  exact recorded_act env requests parties i recorded (undisturbed parties i taken)

theorem undisturbed_at_most_once (world : ω) (events : List Nat)
    (undisturbed : ∀ parties i, Taken (act (taskStep env requests)) (newServer world) events parties i →
      Undisturbed env requests parties i) :
    AtMostOnce requests (run (act (taskStep env requests)) (newServer world) events) :=
  recorded_once env requests _ (undisturbed_run_recorded env requests world events undisturbed)

def countingEnv : GatewayEnv Nat where
  toSecurityEnv := { probeEnv.toSecurityEnv with
    requireCapability := false
    platform := Platform.over plainFloat (fun _ => String.ofList (List.replicate 64 '0'))
      (fun _ _ => List.replicate 32 0) zero_digest_length zero_mac_length }
  loadBundle := probeEnv.loadBundle
  pyStr := probeEnv.pyStr
  formatText := probeEnv.formatText
  mergeWard := probeEnv.mergeWard
  toolDispatch := [("cast", fun _ calls => (.ok (.int calls), calls + 1))]
  freshUlid := fun calls => ("01", calls)

def castRequest : TaskRequest where
  idempotencyKey := some "retry-1"
  payload := .obj [("skill_id", .str "cast")]
  now := sampleExpiry

theorem cast_undisturbed (parties : TaskParties Nat) (i : Nat)
    (vacant : parties.phases i = .arrived → ∀ j, ¬ (parties.phases j).InFlight) :
    Undisturbed countingEnv (fun _ => castRequest) parties i := by
  intro arrived
  refine ⟨fun j _ => vacant arrived j, ?_⟩
  rintro j ⟨empty, -⟩
  exact absurd empty (show castRequest.idempotencyKey ≠ some "" by decide)

theorem undisturbed_at_most_once_in_turn :
    AtMostOnce (fun _ => castRequest)
      (run (act (taskStep countingEnv fun _ => castRequest)) (newServer 0) [0, 0, 0, 1]) := by
  refine undisturbed_at_most_once countingEnv (fun _ => castRequest) 0 [0, 0, 0, 1] (along_taken _ _ _ ?_)
  have inFlight : ∀ parties : TaskParties Nat, (parties.phases 0).InFlight →
      Undisturbed countingEnv (fun _ => castRequest) parties 0 := by
    intro parties flies
    refine cast_undisturbed parties 0 ?_
    intro arrived
    rw [arrived] at flies
    exact absurd flies id
  refine ⟨cast_undisturbed _ 0 fun _ _ => id, inFlight _ (by decide +kernel), inFlight _ (by decide +kernel),
    cast_undisturbed _ 1 ?_, trivial⟩
  intro _ j
  by_cases first : j = 0
  · subst first
    decide +kernel
  · rw [act_other _ _ _ first, act_other _ _ _ first, act_other _ _ _ first]
    exact id

theorem both_handlers_run : ¬ ∀ (env : GatewayEnv Nat) (requests : Nat → TaskRequest) (world : Nat) (events : List Nat),
    AtMostOnce requests (run (act (taskStep env requests)) (newServer world) events) := by
  intro always
  have once := (always countingEnv (fun _ => castRequest) 0 [0, 1, 0, 1]).once
  have ran : (run (act (taskStep countingEnv fun _ => castRequest)) (newServer 0) [0, 1, 0, 1]).shared.ran = [0, 1] := by
    decide +kernel
  rw [ran] at once
  exact List.rel_of_pairwise_cons once (List.mem_singleton_self 1) ⟨rfl, rfl, rfl⟩

structure Attributed (parties : TaskParties ω) : Prop where
  kept : parties.shared.gateway.idempotencyStore.isSome
  worked : ∀ i result, parties.phases i = .handled result → result.status = .completed
  owned : ∀ key result, storedResult (some key) parties.shared.gateway = some result →
    ∃ i, (requests i).composite env = some key ∧ (parties.phases i).Completes result

theorem attributed_new (world : ω) : Attributed env requests (newServer world) where
  kept := rfl
  worked := fun _ _ handled => by cases handled
  owned := fun _ _ stored => by cases stored

theorem attributed_act (parties : TaskParties ω) (i : Nat) (attributed : Attributed env requests parties) :
    Attributed env requests (act (taskStep env requests) parties i) where
  kept := kept_act env requests parties i attributed.kept
  worked := by
    intro j result handled
    by_cases own : j = i
    · subst own
      rw [act_self] at handled
      obtain ⟨_, -, -, steps⟩ | ⟨-, -, steps⟩ | ⟨_, _, -, -, -, steps⟩ | ⟨_, other, -, -, completed, steps⟩ |
        ⟨_, -, steps⟩ | ⟨_, phase, steps⟩ := task_step_cases env requests j parties.shared (parties.phases j)
      · rw [steps] at handled; contradiction
      · rw [steps] at handled; contradiction
      · rw [steps] at handled; contradiction
      · rw [steps] at handled
        exact TaskPhase.handled.inj handled ▸ completed
      · rw [steps] at handled; contradiction
      · rw [steps, phase] at handled; contradiction
    · rw [act_other _ _ _ own] at handled
      exact attributed.worked j result handled
  owned := by
    intro key result stored
    obtain ⟨other, handled, composite, found⟩ | unchanged := stored_act env requests parties i attributed.kept key
    · rw [found] at stored
      obtain rfl := Option.some.inj stored
      refine ⟨i, composite, ?_, attributed.worked i other handled⟩
      rw [act_self, handled]
      rfl
    · rw [unchanged] at stored
      obtain ⟨j, composite, completes⟩ := attributed.owned key result stored
      refine ⟨j, composite, ?_⟩
      by_cases own : j = i
      · subst own
        rw [act_self, completes.1]
        exact ⟨rfl, completes.2⟩
      · rw [act_other _ _ _ own]
        exact completes

theorem run_attributed (world : ω) (events : List Nat) :
    Attributed env requests (run (act (taskStep env requests)) (newServer world) events) :=
  run_invariant (Attributed env requests) (newServer world) events (attributed_new env requests world)
    fun parties i _ => attributed_act env requests parties i

section Keys

variable {floatRepr : ℚ → String} {readFloat : List Char → Option ℚ}

theorem composite_text_injective (text : FloatText floatRepr readFloat) (key other : String) (payload given : Json)
    (same : compositeText floatRepr key payload = compositeText floatRepr other given) :
    key = other ∧ payload.sorted = given.sorted := by
  have chars := congrArg String.toList same
  simp only [compositeText, String.toList_append, String.toList_ofList, List.append_assoc] at chars
  obtain ⟨keys, payloads⟩ := colon_splits text key.toList other.toList payload.sorted given.sorted chars
  exact ⟨String.toList_inj.mp keys, payloads⟩

end Keys

theorem same_composite_pair {readFloat : List Char → Option ℚ} (text : FloatText env.platform.floatRepr readFloat)
    (i j : Nat) (same : SameComposite env requests i j) : SamePair (requests i) (requests j) := by
  obtain ⟨composite, own, others⟩ := same
  obtain ⟨key, isKey, spelt⟩ := Option.map_eq_some_iff.mp own
  obtain ⟨other, isOther, spelt'⟩ := Option.map_eq_some_iff.mp others
  obtain ⟨rfl, payloads⟩ := composite_text_injective text key other _ _ (spelt.trans spelt'.symm)
  have given := (Option.filter_eq_some_iff.mp isKey).1
  exact ⟨by rw [given]; rfl, given.trans (Option.filter_eq_some_iff.mp isOther).1.symm, payloads⟩

theorem composite_binds {readFloat : List Char → Option ℚ} (text : FloatText env.platform.floatRepr readFloat) :
    (∀ key other payload given, compositeText env.platform.floatRepr key payload =
      compositeText env.platform.floatRepr other given → key = other ∧ payload.sorted = given.sorted) ∧
    ∀ world events parties i result, Taken (act (taskStep env requests)) (newServer world) events parties i →
      storedResult ((requests i).composite env) parties.shared.gateway = some result →
        ∃ j, SamePair (requests j) (requests i) ∧ (parties.phases j).Completes result := by
  refine ⟨fun key other payload given => composite_text_injective text key other payload given, ?_⟩
  rintro world events parties i result ⟨pre, post, -, rfl⟩ stored
  cases own : (requests i).composite env with
  | none =>
      rw [own, stored_none] at stored
      contradiction
  | some key =>
      rw [own] at stored
      obtain ⟨j, others, completes⟩ := (run_attributed env requests world pre).owned key result stored
      exact ⟨j, same_composite_pair env requests text j i ⟨key, others, own⟩, completes⟩

def tangledRequests (i : Nat) : TaskRequest :=
  if i = 0 then castRequest else { castRequest with idempotencyKey := some "retry-1:\x7b\x7d" }

theorem composite_binds_tangled :
    (∀ key other payload given, compositeText plainFloat key payload = compositeText plainFloat other given →
      key = other ∧ payload.sorted = given.sorted) ∧
    ∀ world events parties i result, Taken (act (taskStep countingEnv tangledRequests)) (newServer world)
      events parties i →
        storedResult ((tangledRequests i).composite countingEnv) parties.shared.gateway = some result →
          ∃ j, SamePair (tangledRequests j) (tangledRequests i) ∧ (parties.phases j).Completes result :=
  composite_binds countingEnv tangledRequests plain_float_text

end Vermyth
