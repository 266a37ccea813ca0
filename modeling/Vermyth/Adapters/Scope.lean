import Vermyth.Adapters.Gateway
import Vermyth.Adapters.SignMaterial

set_option autoImplicit false

namespace Vermyth

variable {ω : Type} (env : GatewayEnv ω)

def dispatchable (skillId : String) : Bool := (env.toolDispatch.lookup skillId).isSome && toolInScope env skillId

def payloadTask (payload : Json) (state : GatewayState ω) : Except PyError Task :=
  Task.modelValidate (env.freshUlid state.world).1 payload

def ScopeBinds (idempotencyKey : Option String) (payload : Json) (state : GatewayState ω) : Prop :=
  ∀ dispatch, (executeTask env idempotencyKey payload state).2.dispatched = state.dispatched ++ [dispatch] →
    ∃ task token, payloadTask env payload state = .ok task ∧
      presentedToken env.toSecurityEnv task.input = .ok token ∧ fnmatch dispatch.1 token.toolScope = true ∧
        ∃ arcProv, executorAdmits env task.skillId task.input none = .ok (dispatch.1, dispatch.2, arcProv)

-- The bundle a payload names, where the payload gets past the token check and
-- to a handler: it compiles to a skill in the token's scope, and a token its
-- template brings along covers that skill too.
def BundleInScope (idempotencyKey : Option String) (payload : Json) (state : GatewayState ω) : Prop :=
  ∀ task token ref inv, storedResult (compositeKey env idempotencyKey payload state) state = none →
    payloadTask env payload state = .ok task → authorize env.toSecurityEnv task.skillId task.input = .ok token →
      extractSemanticBundleRef task.input = some ref → ref ≠ [] → compileSemanticBundleRef env ref = .ok inv →
        dispatchable env inv.skillId = true →
          fnmatch inv.skillId token.toolScope = true ∧
            ∀ own, (dictOf inv.input).lookup "capability_token" = some own →
              ∃ brought, authorize env.toSecurityEnv inv.skillId [("capability_token", own)] = .ok brought

@[simp] theorem store_result_dispatched (composite : Option String) (result : TaskResult) (state : GatewayState ω) :
    (storeResult composite result state).dispatched = state.dispatched := by
  simp only [storeResult]
  cases state.idempotencyStore <;> cases composite <;> rfl

theorem dispatch_task_dispatched (composite : Option String) (task : Task) (skillId : String)
    (inp : List (String × Json)) (arcProv : Option (List (String × Json))) (state : GatewayState ω) :
    (dispatchTask env composite task skillId inp arcProv state).2.dispatched =
      if dispatchable env skillId then state.dispatched ++ [(skillId, inp)] else state.dispatched := by
  rw [dispatchTask, dispatchable]
  cases found : env.toolDispatch.lookup skillId with
  | none => simp
  | some handler =>
      by_cases allowed : toolInScope env skillId = true
      · cases called : (handler inp state.world).1 <;> simp [allowed, called]
      · simp [allowed]

theorem execute_task_cases (payload : Json) (state : GatewayState ω) :
    let drawn := { state with world := (env.freshUlid state.world).2 }
    (∃ raised reply,
      (do
        let task ← payloadTask env payload state
        checkTask env task
        expandTaskInput env task.skillId task.input) = .error raised ∧
      (∀ result, reply = .ok result → result.status = .failed) ∧
        ∀ idempotencyKey, storedResult (compositeKey env idempotencyKey payload state) state = none →
          executeTask env idempotencyKey payload state = (reply, drawn)) ∨
    ∃ task skillId inp arcProv, payloadTask env payload state = .ok task ∧ checkTask env task = .ok () ∧
      expandTaskInput env task.skillId task.input = .ok (skillId, inp, arcProv) ∧
        ∀ idempotencyKey, storedResult (compositeKey env idempotencyKey payload state) state = none →
          let done := dispatchTask env (compositeKey env idempotencyKey payload state) task skillId inp arcProv drawn
          executeTask env idempotencyKey payload state = (.ok done.1, done.2) := by
  simp only [executeTask, payloadTask]
  cases valid : Task.modelValidate (env.freshUlid state.world).1 payload with
  | error raised =>
      refine Or.inl ⟨raised, .error raised, rfl, fun result same => by contradiction, fun key missed => ?_⟩
      rw [missed]
  | ok task =>
      simp only [bind, Except.bind]
      cases checked : checkTask env task with
      | error raised =>
          refine Or.inl ⟨raised, .ok (failedTask env task raised.text), rfl, ?_, fun key missed => ?_⟩
          · intro result same
            rw [← Except.ok.inj same]
            rfl
          · simp only [missed]
      | ok _ =>
          simp only []
          cases expanded : expandTaskInput env task.skillId task.input with
          | error raised =>
              refine Or.inl ⟨raised, .error raised, rfl, fun result same => by contradiction, fun key missed => ?_⟩
              simp only [missed]
          | ok invocation =>
              obtain ⟨skillId, inp, arcProv⟩ := invocation
              refine Or.inr ⟨task, skillId, inp, arcProv, rfl, checked, expanded, fun key missed => ?_⟩
              simp only [missed]

theorem execute_task_dispatched (idempotencyKey : Option String) (payload : Json) (state : GatewayState ω)
    (dispatch : String × List (String × Json)) :
    (executeTask env idempotencyKey payload state).2.dispatched = state.dispatched ++ [dispatch] ↔
      storedResult (compositeKey env idempotencyKey payload state) state = none ∧
        ∃ task arcProv, payloadTask env payload state = .ok task ∧ checkTask env task = .ok () ∧
          expandTaskInput env task.skillId task.input = .ok (dispatch.1, dispatch.2, arcProv) ∧
            dispatchable env dispatch.1 = true := by
  cases stored : storedResult (compositeKey env idempotencyKey payload state) state with
  | some result => simp [executeTask, stored]
  | none =>
      rcases execute_task_cases env payload state with
        ⟨raised, reply, stopped, -, called⟩ | ⟨task, skillId, inp, arcProv, valid, checked, expanded, called⟩
      · rw [called idempotencyKey stored]
        refine iff_of_false (by simp) ?_
        rintro ⟨-, task, arcProv, valid, checked, expanded, -⟩
        simp only [valid, checked, expanded, bind, Except.bind] at stopped
        contradiction
      · rw [called idempotencyKey stored, valid]
        obtain ⟨tool, given⟩ := dispatch
        simp only [dispatch_task_dispatched]
        by_cases allowed : dispatchable env skillId = true
        · rw [if_pos allowed]
          constructor
          · intro same
            obtain ⟨rfl, rfl⟩ : skillId = tool ∧ inp = given := by simpa using same
            exact ⟨trivial, task, arcProv, rfl, checked, expanded, allowed⟩
          · rintro ⟨-, _, _, same, -, reached, -⟩
            obtain rfl := Except.ok.inj same
            obtain ⟨rfl, rfl, -⟩ : skillId = tool ∧ inp = given ∧ _ = _ := by simpa [expanded] using reached
            rfl
        · rw [if_neg allowed]
          refine iff_of_false (by simp) ?_
          rintro ⟨-, _, _, same, -, reached, reachable⟩
          obtain rfl := Except.ok.inj same
          obtain ⟨rfl, -, -⟩ : skillId = tool ∧ inp = given ∧ _ = _ := by simpa [expanded] using reached
          exact absurd reachable allowed

theorem expand_plain (skillId : String) (inp : List (String × Json))
    (plain : ∀ ref, extractSemanticBundleRef inp = some ref → ref = []) :
    expandTaskInput env skillId inp = .ok (skillId, inp, none) := by
  rw [expandTaskInput]
  cases extracted : extractSemanticBundleRef inp with
  | none => rfl
  | some ref =>
      obtain rfl := plain ref extracted
      rfl

theorem expand_bundle (skillId : String) (inp ref : List (String × Json))
    (extracted : extractSemanticBundleRef inp = some ref) (named : ref ≠ [])
    (expanded : String × List (String × Json) × Option (List (String × Json))) :
    expandTaskInput env skillId inp = .ok expanded ↔
      ∃ inv, compileSemanticBundleRef env ref = .ok inv ∧
        expanded = (inv.skillId, dictMerge (stripBundleKeys inp) inv.input, some inv.arcaneProvenance) := by
  rw [expandTaskInput, extracted]
  cases ref with
  | nil => exact absurd rfl named
  | cons field rest =>
      simp only [bind_ok]
      constructor
      · intro compiled
        obtain ⟨inv, ok, returned⟩ := compiled
        exact ⟨inv, ok, (Except.ok.inj returned).symm⟩
      · intro compiled
        obtain ⟨inv, ok, rfl⟩ := compiled
        exact ⟨inv, ok, rfl⟩

theorem strip_keeps_token (inp : List (String × Json)) :
    (stripBundleKeys inp).lookup "capability_token" = inp.lookup "capability_token" := by
  have popped : (dictPop "semantic_bundle" inp).lookup "capability_token" = inp.lookup "capability_token" :=
    lookup_dict_pop _ _ inp (by decide)
  rw [stripBundleKeys, ← popped]
  cases extensions : (dictPop "semantic_bundle" inp).lookup "extensions" with
  | none => rfl
  | some ext =>
      cases ext with
      | obj ext =>
          simp only []
          split_ifs
          · exact lookup_dict_pop _ _ _ (by decide)
          · rw [lookup_dict_set, if_neg (by decide)]
          · rfl
      | _ => rfl

theorem authorize_ok (security : SecurityEnv) (skillId : String) (inp : List (String × Json))
    (token : CapabilityToken) : authorize security skillId inp = .ok token ↔
      presentedToken security inp = .ok token ∧ fnmatch skillId token.toolScope = true := by
  rw [authorize, bind_ok]
  constructor
  · intro passed
    obtain ⟨presented, verified, passed⟩ := passed
    split_ifs at passed with covers
    obtain rfl := Except.ok.inj passed
    exact ⟨verified, covers⟩
  · intro passed
    exact ⟨token, passed.1, if_pos passed.2⟩

theorem presented_token_congr (security : SecurityEnv) (inp other : List (String × Json))
    (same : inp.lookup "capability_token" = other.lookup "capability_token") :
    presentedToken security inp = presentedToken security other := by
  rw [presentedToken, presentedToken, same]

theorem check_task_ok (enforced : env.requireCapability = true) (task : Task) :
    checkTask env task = .ok () ↔ ∃ token, authorize env.toSecurityEnv task.skillId task.input = .ok token := by
  rw [checkTask, if_pos enforced]
  cases authorize env.toSecurityEnv task.skillId task.input <;> simp [Except.map]

theorem executor_admits_ok (enforced : env.requireCapability = true) (skillId : String)
    (inp : List (String × Json)) (expanded : String × List (String × Json) × Option (List (String × Json))) :
    executorAdmits env skillId inp none = .ok expanded ↔ expandTaskInput env skillId inp = .ok expanded ∧
      ∃ token, authorize env.toSecurityEnv expanded.1 expanded.2.1 = .ok token := by
  simp only [executorAdmits, enforced, if_true, bind_ok]
  constructor
  · intro admitted
    obtain ⟨found, ok, token, passed, returned⟩ := admitted
    obtain rfl := Except.ok.inj returned
    exact ⟨ok, token, passed⟩
  · intro admitted
    obtain ⟨ok, token, passed⟩ := admitted
    exact ⟨expanded, ok, token, passed, rfl⟩

theorem merged_token (security : SecurityEnv) (inp brought : List (String × Json)) :
    presentedToken security (dictMerge (stripBundleKeys inp) brought) =
      match (dictOf brought).lookup "capability_token" with
      | some own => presentedToken security [("capability_token", own)]
      | none => presentedToken security inp := by
  have merged : (dictMerge (stripBundleKeys inp) brought).lookup "capability_token" =
      ((dictOf brought).lookup "capability_token").or (inp.lookup "capability_token") := by
    rw [dictMerge, lookup_dict_update, strip_keeps_token]
  cases found : (dictOf brought).lookup "capability_token" with
  | none => exact presented_token_congr _ _ _ (by rw [merged, found, Option.none_or])
  | some own => exact presented_token_congr _ _ _ (by rw [merged, found, Option.some_or, lookup_entry, if_pos rfl])

theorem gateway_scope_iff (idempotencyKey : Option String) (payload : Json) (state : GatewayState ω)
    (enforced : env.requireCapability = true) :
    ScopeBinds env idempotencyKey payload state ↔ BundleInScope env idempotencyKey payload state := by
  constructor
  · intro binds task token ref inv stored valid authorized extracted named compiled reachable
    have expanded := (expand_bundle env task.skillId task.input ref extracted named _).mpr ⟨inv, compiled, rfl⟩
    have checked := (check_task_ok env enforced task).mpr ⟨token, authorized⟩
    obtain ⟨task, held, valid', presented, covers, arcProv, admitted⟩ :=
      binds (inv.skillId, dictMerge (stripBundleKeys task.input) inv.input)
        ((execute_task_dispatched env _ _ _ _).mpr ⟨stored, task, _, valid, checked, expanded, reachable⟩)
    obtain rfl := Except.ok.inj (valid.symm.trans valid')
    obtain ⟨verified, -⟩ := (authorize_ok _ _ _ _).mp authorized
    obtain rfl := Except.ok.inj (verified.symm.trans presented)
    refine ⟨covers, ?_⟩
    intro own found
    obtain ⟨-, brought, passed⟩ := (executor_admits_ok env enforced _ _ _).mp admitted
    obtain ⟨shown, covered⟩ := (authorize_ok _ _ _ _).mp passed
    rw [merged_token, found] at shown
    exact ⟨brought, (authorize_ok _ _ _ _).mpr ⟨shown, covered⟩⟩
  · intro bundled dispatch dispatched
    obtain ⟨stored, task, arcProv, valid, checked, expanded, reachable⟩ :=
      (execute_task_dispatched env _ _ _ _).mp dispatched
    obtain ⟨token, authorized⟩ := (check_task_ok env enforced task).mp checked
    obtain ⟨verified, covers⟩ := (authorize_ok _ _ _ _).mp authorized
    by_cases plain : ∀ ref, extractSemanticBundleRef task.input = some ref → ref = []
    · obtain ⟨skillId, inp⟩ := dispatch
      have same := Except.ok.inj ((expand_plain env task.skillId task.input plain).symm.trans expanded)
      obtain ⟨rfl, rfl, -⟩ : task.skillId = skillId ∧ task.input = inp ∧ _ = _ := by simpa using same
      exact ⟨task, token, valid, verified, covers, arcProv,
        (executor_admits_ok env enforced _ _ _).mpr ⟨expanded, token, authorized⟩⟩
    · push Not at plain
      obtain ⟨ref, extracted, named⟩ := plain
      obtain ⟨inv, compiled, same⟩ := (expand_bundle env _ _ ref extracted named _).mp expanded
      obtain ⟨skillId, inp⟩ := dispatch
      obtain ⟨rfl, rfl, -⟩ : skillId = inv.skillId ∧ inp = _ ∧ _ = _ := by simpa using same
      obtain ⟨binds, own⟩ := bundled task token ref inv stored valid authorized extracted named compiled reachable
      have admits : ∃ held, authorize env.toSecurityEnv inv.skillId
          (dictMerge (stripBundleKeys task.input) inv.input) = .ok held := by
        cases found : (dictOf inv.input).lookup "capability_token" with
        | none => exact ⟨token, (authorize_ok _ _ _ _).mpr ⟨by rw [merged_token, found]; exact verified, binds⟩⟩
        | some brought =>
            obtain ⟨held, passed⟩ := own brought found
            obtain ⟨shown, covered⟩ := (authorize_ok _ _ _ _).mp passed
            exact ⟨held, (authorize_ok _ _ _ _).mpr ⟨by rw [merged_token, found]; exact shown, covered⟩⟩
      exact ⟨task, token, valid, verified, binds, arcProv,
        (executor_admits_ok env enforced _ _ _).mpr ⟨expanded, admits⟩⟩

def zeroPlatform : Platform :=
  Platform.over (fun _ => "0.0") (fun _ => String.ofList (List.replicate 64 '0')) (fun _ _ => List.replicate 32 0)
    zero_digest_length zero_mac_length

def probeBundle : SemanticBundleManifest where
  id := "coherent_probe"
  version := 1
  kind := .decide
  template := [("aspects", .arr [.str "MIND"])]
  paramKeys := ["topic"]

def probeEnv : GatewayEnv Unit where
  platform := zeroPlatform
  now := sampleExpiry
  requireCapability := true
  capabilitySecret := some "secret"
  ed25519PublicKey := none
  parseDatetime := fun _ => some sampleExpiry
  verifyEd25519 := fun _ _ _ => .error (.valueError "invalid capability token signature")
  loadBundle := fun bundleId version =>
    if bundleId = probeBundle.id ∧ version = probeBundle.version then .ok probeBundle
    else .error (.valueError ("semantic bundle not found: " ++ bundleId))
  pyStr := fun value => value.text?.getD ""
  formatText := fun text _ => .ok text
  mergeWard := fun thresholds _ => .ok thresholds
  toolDispatch := [("decide", fun _ world => (.ok .null, world)), ("cast", fun _ world => (.ok .null, world))]
  freshUlid := fun world => ("01", world)

def probeState : GatewayState Unit where
  world := ()
  idempotencyStore := none

def probeTask (skillId : String) : Json :=
  .obj [("skill_id", .str skillId), ("input", .obj [
    ("capability_token", .obj [("holder", .str "agent-a"), ("tool_scope", .str skillId),
      ("expiry", .str "2030-01-01T00:00:00+00:00"), ("issuer", .str "issuer-a"),
      ("signature", .str (String.ofList (List.replicate 64 '0'))), ("algorithm", .str "HMAC_SHA256")]),
    ("semantic_bundle", .obj [("bundle_id", .str "coherent_probe"), ("version", .int 1),
      ("params", .obj [("topic", .str "audit")])])])]

def bundleTarget (payload : Json) (state : GatewayState ω) : Except PyError (Option (String × Bool)) := do
  let task ← payloadTask env payload state
  match extractSemanticBundleRef task.input with
  | none => return none
  | some ref => do
      let inv ← compileSemanticBundleRef env ref
      return some (inv.skillId, ((dictOf inv.input).lookup "capability_token").isSome)

def tokenScope (payload : Json) (state : GatewayState ω) : Except PyError String := do
  let task ← payloadTask env payload state
  let token ← presentedToken env.toSecurityEnv task.input
  return token.toolScope

theorem bundle_target_ok (payload : Json) (state : GatewayState ω) (task : Task) (ref : List (String × Json))
    (inv : CompiledInvocation) (valid : payloadTask env payload state = .ok task)
    (extracted : extractSemanticBundleRef task.input = some ref)
    (compiled : compileSemanticBundleRef env ref = .ok inv) : bundleTarget env payload state =
      .ok (some (inv.skillId, ((dictOf inv.input).lookup "capability_token").isSome)) := by
  simp only [bundleTarget, bind_ok]
  exact ⟨task, valid, by simp only [extracted, bind_ok]; exact ⟨inv, compiled, rfl⟩⟩

theorem token_scope_ok (payload : Json) (state : GatewayState ω) (task : Task) (token : CapabilityToken)
    (valid : payloadTask env payload state = .ok task)
    (presented : presentedToken env.toSecurityEnv task.input = .ok token) :
    tokenScope env payload state = .ok token.toolScope := by
  simp only [tokenScope, bind_ok]
  exact ⟨task, valid, token, presented, rfl⟩

theorem gateway_scope_iff_decide :
    (executeTask probeEnv none (probeTask "decide") probeState).2.dispatched.map Prod.fst = ["decide"] ∧
      ScopeBinds probeEnv none (probeTask "decide") probeState := by
  refine ⟨by decide +kernel, (gateway_scope_iff probeEnv none (probeTask "decide") probeState rfl).mpr ?_⟩
  intro task token ref inv _ valid authorized extracted _ compiled _
  obtain ⟨presented, -⟩ := (authorize_ok _ _ _ _).mp authorized
  have target := bundle_target_ok probeEnv _ _ task ref inv valid extracted compiled
  have scope := token_scope_ok probeEnv _ _ task token valid presented
  have reached : bundleTarget probeEnv (probeTask "decide") probeState = .ok (some ("decide", false)) := by
    decide +kernel
  have shown : tokenScope probeEnv (probeTask "decide") probeState = .ok "decide" := by decide +kernel
  simp only [reached, Except.ok.injEq, Option.some.injEq, Prod.mk.injEq] at target
  obtain ⟨skill, brings⟩ := target
  rw [shown, Except.ok.injEq] at scope
  refine ⟨by rw [← skill, ← scope]; decide, ?_⟩
  intro own found
  rw [found] at brings
  cases brings

theorem bundle_leaves_scope : ¬ ∀ (env : GatewayEnv Unit) (idempotencyKey : Option String) (payload : Json)
    (state : GatewayState Unit), env.requireCapability = true → ScopeBinds env idempotencyKey payload state := by
  intro binds
  have ran : (executeTask probeEnv none (probeTask "cast") probeState).2.dispatched.map Prod.fst = ["decide"] := by
    decide +kernel
  obtain ⟨dispatch, dispatched, tool⟩ := List.map_eq_singleton_iff.mp ran
  obtain ⟨task, token, valid, presented, covers, -⟩ := binds probeEnv none (probeTask "cast") probeState rfl dispatch
    dispatched
  have shown : tokenScope probeEnv (probeTask "cast") probeState = .ok "cast" := by decide +kernel
  rw [token_scope_ok probeEnv _ _ task token valid presented, Except.ok.injEq] at shown
  rw [tool, shown] at covers
  exact absurd covers (by decide)

end Vermyth
