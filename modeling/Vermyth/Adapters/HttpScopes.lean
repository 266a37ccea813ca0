import Vermyth.Adapters.ToolScope

set_option autoImplicit false

namespace Vermyth

variable {ω : Type} (env : AuthEnv ω)

def PostRoute.request (post : HttpPost) : PostRoute → TransportRequest
  | .tools toolName => .postTool toolName post
  | .tasks => .postTask post

def Lists (scopes : List String) (toolName : String) : Prop :=
  "tool:*" ∈ scopes ∨ "tool:" ++ toolName ∈ scopes ∨
    ∃ front, "tool:" ++ front ++ "*" ∈ scopes ∧ front.toList <+: toolName.toList

def PrincipalPermits (principal : AuthPrincipal) (toolName : String) : Prop :=
  (principal.authMethod = .none ∧ setting env.httpToken = none) ∨ Lists principal.scopes toolName

def HandlersPermitted (route : PostRoute) (post : HttpPost) (state : HttpState ω) : Prop :=
  ∀ ran, (doPost env route post state).2.server.ran = state.server.ran ++ ran →
    ∀ toolName ∈ ran, ∃ principal, resolvePrincipal env post.authorization = .ok principal ∧
      PrincipalPermits env principal toolName

def GrantedTo (authorization toolName : String) : Prop :=
  match parseAuthorizationBearer authorization with
  | none => setting env.httpToken = none
  | some token =>
      if setting env.httpToken = some token then Lists (staticScopes env.httpScopes) toolName
      else ∃ claims, jwtClaims env token = .ok (some claims) ∧ Lists (claimScopes env claims) toolName

def ScopesKept (route : PostRoute) (post : HttpPost) (state : HttpState ω) : Prop :=
  ∀ principal, resolvePrincipal env post.authorization = .ok principal →
    ∀ target ∈ requestTarget env state (route.request post), target.Passes env.toHttpEnv →
      GrantedTo env post.authorization target.name

def WildcardsAgree (principal : AuthPrincipal) (toolName : String) : Prop :=
  (principal.authMethod = .none ∧ setting env.httpToken = none) ∨ "tool:*" ∈ principal.scopes ∨
    "tool:" ++ toolName ∈ principal.scopes ∨
    ((∃ front, "tool:" ++ front ++ "*" ∈ principal.scopes ∧ front.toList <+: toolName.toList) ↔
      ∃ front, front ++ "*" ∈ principal.scopes ∧ front.toList <+: toolName.toList)

theorem wildcard_matches_iff (scope toolName : String) :
    wildcardMatches scope toolName = true ↔ ∃ front, scope = front ++ "*" ∧ front.toList <+: toolName.toList := by
  simp only [wildcardMatches, Bool.and_eq_true, decide_eq_true_eq, List.isPrefixOf_iff_prefix]
  constructor
  · rintro ⟨star, front⟩
    refine ⟨String.ofList scope.toList.dropLast, ?_, by rwa [String.toList_ofList]⟩
    rw [← String.toList_inj, String.toList_append, String.toList_ofList]
    obtain ⟨rest, split⟩ := List.getLast?_eq_some_iff.mp star
    rw [split, List.dropLast_concat]
    rfl
  · rintro ⟨front, rfl, before⟩
    have split : (front ++ "*").toList = front.toList ++ ['*'] := String.toList_append ..
    rw [split]
    exact ⟨List.getLast?_concat, by rwa [List.dropLast_concat]⟩

theorem principal_allows_iff (principal : AuthPrincipal) (toolName : String) :
    principalAllowsTool env principal toolName = true ↔
      (principal.authMethod = .none ∧ setting env.httpToken = none) ∨ "tool:*" ∈ principal.scopes ∨
        "tool:" ++ toolName ∈ principal.scopes ∨
        ∃ front, front ++ "*" ∈ principal.scopes ∧ front.toList <+: toolName.toList := by
  simp only [principalAllowsTool, Bool.or_eq_true, Bool.and_eq_true, decide_eq_true_eq, Option.isNone_iff_eq_none,
    List.any_eq_true, wildcard_matches_iff]
  refine or_congr_right ?_
  constructor
  · rintro ⟨scope, listed, (rfl | rfl) | ⟨front, rfl, before⟩⟩
    · exact Or.inl listed
    · exact Or.inr (Or.inl listed)
    · exact Or.inr (Or.inr ⟨front, listed, before⟩)
  · rintro (listed | listed | ⟨front, listed, before⟩)
    · exact ⟨_, listed, Or.inl (Or.inl rfl)⟩
    · exact ⟨_, listed, Or.inl (Or.inr rfl)⟩
    · exact ⟨_, listed, Or.inr ⟨front, rfl, before⟩⟩

theorem or_branch_congr {first second third : Prop} :
    ((first ∨ second) ↔ (first ∨ third)) ↔ (first ∨ (second ↔ third)) := by
  by_cases holds : first
  · simp only [holds, true_or]
  · simp only [holds, false_or]

theorem decides_permits_iff (principal : AuthPrincipal) (toolName : String) :
    (principalAllowsTool env principal toolName = true ↔ PrincipalPermits env principal toolName) ↔
      WildcardsAgree env principal toolName := by
  rw [principal_allows_iff, PrincipalPermits, Lists, WildcardsAgree]
  exact or_branch_congr.trans (or_congr_right (or_branch_congr.trans (or_congr_right or_branch_congr))) |>.trans
    (or_congr_right (or_congr_right (or_congr_right Iff.comm)))

theorem lists_none (toolName : String) : ¬ Lists [] toolName := by
  rintro (listed | listed | ⟨front, listed, -⟩) <;> exact List.not_mem_nil listed

theorem permits_iff_granted (authorization toolName : String) (principal : AuthPrincipal)
    (resolved : resolvePrincipal env authorization = .ok principal) :
    PrincipalPermits env principal toolName ↔ GrantedTo env authorization toolName := by
  rw [resolvePrincipal] at resolved
  rw [GrantedTo]
  cases bearer : parseAuthorizationBearer authorization with
  | none =>
      rw [bearer] at resolved
      obtain rfl := Except.ok.inj resolved
      exact (or_iff_left (lists_none toolName)).trans (and_iff_right rfl)
  | some token =>
      simp only [bearer] at resolved ⊢
      by_cases own : setting env.httpToken = some token
      · rw [if_pos own] at resolved ⊢
        obtain rfl := Except.ok.inj resolved
        exact or_iff_right fun anonymous => by cases anonymous.1
      · rw [if_neg own] at resolved ⊢
        cases decoded : jwtClaims env token with
        | error raised =>
            rw [decoded] at resolved
            contradiction
        | ok outcome =>
            cases outcome with
            | none =>
                rw [decoded] at resolved
                obtain rfl := Except.ok.inj resolved
                refine iff_of_false ?_ ?_
                · rintro (anonymous | listed)
                  · cases anonymous.1
                  · exact lists_none toolName listed
                · rintro ⟨claims, same, -⟩
                  cases Except.ok.inj same
            | some claims =>
                rw [decoded] at resolved
                obtain rfl := Except.ok.inj resolved
                refine (or_iff_right fun anonymous => by cases anonymous.1).trans ?_
                constructor
                · exact fun listed => ⟨claims, rfl, listed⟩
                · rintro ⟨again, same, listed⟩
                  obtain rfl := Option.some.inj (Except.ok.inj same)
                  exact listed

theorem do_post_ran (route : PostRoute) (post : HttpPost) (state : HttpState ω) :
    (doPost env route post state).2.server.ran =
      state.server.ran ++ toolsRun env.toHttpEnv (requestTarget env state (route.request post)) := by
  have runs := serve_request_runs env (fun _ => ()) (fun _ => rfl) (route.request post) state
  cases route <;> exact runs.ran

theorem do_post_raises (route : PostRoute) (post : HttpPost) (state : HttpState ω) (raised : PyError)
    (unresolved : resolvePrincipal env post.authorization = .error raised) :
    (doPost env route post state).2.server.ran = state.server.ran := by
  rw [doPost, unresolved]
  cases authorized env.toHttpEnv post <;> rfl

theorem handlers_permitted_iff (route : PostRoute) (post : HttpPost) (state : HttpState ω) :
    HandlersPermitted env route post state ↔ ScopesKept env route post state := by
  rw [HandlersPermitted, ScopesKept]
  cases resolved : resolvePrincipal env post.authorization with
  | error raised =>
      refine iff_of_true ?_ fun principal same => by contradiction
      intro ran after toolName member
      rw [do_post_raises env route post state raised resolved, List.self_eq_append_right] at after
      rw [after] at member
      exact absurd member List.not_mem_nil
  | ok principal =>
      simp only [do_post_ran env route post state, List.append_cancel_left_eq, Except.ok.injEq,
        exists_eq_left', forall_eq', permits_iff_granted env _ _ principal resolved]
      cases requestTarget env state (route.request post) with
      | none => simp [toolsRun]
      | some target =>
          by_cases passes : target.Passes env.toHttpEnv
          · simp [toolsRun, passes]
          · simp [toolsRun, passes]

theorem http_scopes_bind_iff :
    (∀ (route : PostRoute) (post : HttpPost) (state : HttpState ω),
      HandlersPermitted env route post state ↔ ScopesKept env route post state) ∧
    ∀ (principal : AuthPrincipal) (toolName : String),
      (principalAllowsTool env principal toolName = true ↔ PrincipalPermits env principal toolName) ↔
        WildcardsAgree env principal toolName :=
  ⟨handlers_permitted_iff env, decides_permits_iff env⟩

def scopedServer : AuthEnv Nat where
  toHttpEnv := { countingServer with httpToken := some "s" }
  httpScopes := some "tool:decide"
  jwtDecode := none

def scopedPrincipal : AuthPrincipal where
  subject := "static-token"
  authMethod := .bearerStatic
  scopes := ["tool:decide"]
  claims := []

theorem scoped_token_casts :
    (doPost scopedServer (.tools "cast") { authorization := "Bearer s" } { server := { world := 0 } }).2.server.ran =
      ["cast"] ∧
    resolvePrincipal scopedServer "Bearer s" = .ok scopedPrincipal ∧
    principalAllowsTool scopedServer { scopedPrincipal with scopes := ["tool:ca*"] } "cast" = false ∧
    PrincipalPermits scopedServer { scopedPrincipal with scopes := ["tool:ca*"] } "cast" ∧
    (¬ ∀ (env : AuthEnv Nat) (route : PostRoute) (post : HttpPost) (state : HttpState Nat),
      HandlersPermitted env route post state) ∧
    ¬ ∀ (env : AuthEnv Nat) (principal : AuthPrincipal) (toolName : String),
      principalAllowsTool env principal toolName = true ↔ PrincipalPermits env principal toolName := by
  have ran : (doPost scopedServer (.tools "cast") { authorization := "Bearer s" }
      { server := { world := 0 } }).2.server.ran = ["cast"] := by decide +kernel
  have resolved : resolvePrincipal scopedServer "Bearer s" = .ok scopedPrincipal := by
    have bearer : parseAuthorizationBearer "Bearer s" = some "s" := by decide +kernel
    have scopes : staticScopes (some "tool:decide") = ["tool:decide"] := by decide +kernel
    rw [resolvePrincipal, bearer]
    exact congrArg (fun listed => Except.ok { scopedPrincipal with scopes := listed }) scopes
  have denied : principalAllowsTool scopedServer { scopedPrincipal with scopes := ["tool:ca*"] } "cast" = false := by
    decide +kernel
  have permitted : PrincipalPermits scopedServer { scopedPrincipal with scopes := ["tool:ca*"] } "cast" :=
    Or.inr (Or.inr (Or.inr ⟨"ca", List.mem_singleton_self _, by decide⟩))
  refine ⟨ran, resolved, denied, permitted, ?_, ?_⟩
  · intro always
    obtain ⟨principal, own, permits⟩ := always scopedServer (.tools "cast") { authorization := "Bearer s" }
      { server := { world := 0 } } ["cast"] ran "cast" (List.mem_singleton_self _)
    obtain rfl := Except.ok.inj (resolved.symm.trans own)
    obtain anonymous | listed | listed | ⟨front, listed, -⟩ := permits
    · cases anonymous.1
    · exact absurd listed (by decide)
    · exact absurd listed (by decide)
    · have same := congrArg (fun scope : String => scope.toList.getLast?) (List.mem_singleton.mp listed)
      have star : (("tool:" ++ front ++ "*").toList.getLast?) = some '*' := by
        rw [String.toList_append]
        exact List.getLast?_concat
      exact absurd (star.symm.trans same) (by decide)
  · intro always
    have allowed := (always scopedServer _ _).mpr permitted
    rw [denied] at allowed
    contradiction

end Vermyth
