import Mathlib.Data.Set.Function
import Vermyth.Adapters.Security

set_option autoImplicit false

namespace Vermyth

def Agree (t u : CapabilityToken) : Prop :=
  t.holder = u.holder ∧ t.toolScope = u.toolScope ∧ t.expiry = u.expiry ∧ t.issuer = u.issuer ∧
    t.algorithm = u.algorithm

def separators (text : String) : Nat := text.toList.count '|'

structure SameSeparators (t u : CapabilityToken) : Prop where
  holder : separators t.holder = separators u.holder
  toolScope : separators t.toolScope = separators u.toolScope
  issuer : separators t.issuer = separators u.issuer

structure NoSeparators (t : CapabilityToken) : Prop where
  holder : separators t.holder = 0
  toolScope : separators t.toolScope = 0
  issuer : separators t.issuer = 0
  algorithm : separators t.algorithm = 0

theorem cut_unique (a b c d : List Char) (count : a.count '|' = c.count '|')
    (same : a ++ '|' :: b = c ++ '|' :: d) : a = c ∧ b = d := by
  induction a generalizing c with
  | nil =>
      cases c with
      | nil => exact ⟨rfl, (List.cons.inj same).2⟩
      | cons head tail =>
          have bar : '|' = head := (List.cons.inj same).1
          simp [← bar] at count
  | cons head tail ih =>
      cases c with
      | nil =>
          have bar : head = '|' := (List.cons.inj same).1
          simp [bar] at count
      | cons other more =>
          obtain ⟨rfl, rest⟩ := List.cons.inj same
          obtain ⟨front, back⟩ := ih more (by simpa [List.count_cons] using count) rest
          exact ⟨congrArg (List.cons head) front, back⟩

theorem padded_no_separator (width n : Nat) : (padded width n).count '|' = 0 := by
  rw [List.count_eq_zero]
  intro member
  have digit := padded_digits width n '|' member
  cases digit

theorem isoformat_no_separator (time : Datetime) : time.isoformat.count '|' = 0 := by
  have fraction : (fractionText time.microsecond).count '|' = 0 := by
    rw [fractionText]
    split
    · rfl
    · simp [padded_no_separator]
  have offset : (offsetText time.offset).count '|' = 0 := by
    cases time.offset with
    | none => rfl
    | some seconds =>
        rw [offsetText]
        by_cases negative : seconds < 0
        · by_cases whole : seconds.natAbs % 60 = 0 <;>
            simp [negative, whole, padded_no_separator]
        · by_cases whole : seconds.natAbs % 60 = 0 <;>
            simp [negative, whole, padded_no_separator]
  simp [Datetime.isoformat, padded_no_separator, fraction, offset]

theorem material_agrees (t u : CapabilityToken) (same : signMaterial t = signMaterial u)
    (alike : SameSeparators t u) : Agree t u := by
  rw [signMaterial, signMaterial] at same
  obtain ⟨holders, same⟩ := cut_unique _ _ _ _ alike.holder same
  obtain ⟨scopes, same⟩ := cut_unique _ _ _ _ alike.toolScope same
  have expiryCount : t.expiry.isoformat.count '|' = u.expiry.isoformat.count '|' := by
    rw [isoformat_no_separator, isoformat_no_separator]
  obtain ⟨expiries, same⟩ := cut_unique _ _ _ _ expiryCount same
  obtain ⟨issuers, algorithms⟩ := cut_unique _ _ _ _ alike.issuer same
  exact ⟨String.toList_inj.mp holders, String.toList_inj.mp scopes, isoformat_injective _ _ expiries,
    String.toList_inj.mp issuers, String.toList_inj.mp algorithms⟩

theorem agree_separators (t u : CapabilityToken) (agree : Agree t u) : SameSeparators t u := by
  obtain ⟨holders, scopes, -, issuers, -⟩ := agree
  exact ⟨congrArg separators holders, congrArg separators scopes, congrArg separators issuers⟩

theorem material_count (t : CapabilityToken) : (signMaterial t).count '|' =
    separators t.holder + separators t.toolScope + separators t.issuer + separators t.algorithm + 4 := by
  simp only [signMaterial, List.count_append, List.count_cons, isoformat_no_separator, separators, beq_self_eq_true,
    if_true]
  omega

theorem no_separators_same (t u : CapabilityToken) (none_in : NoSeparators t)
    (same : signMaterial t = signMaterial u) : SameSeparators t u := by
  have counts := congrArg (List.count '|') same
  rw [material_count, material_count, none_in.holder, none_in.toolScope, none_in.issuer, none_in.algorithm] at counts
  exact ⟨by rw [none_in.holder]; omega, by rw [none_in.toolScope]; omega, by rw [none_in.issuer]; omega⟩

theorem mac_hex_length (platform : Platform) (standard : platform.Standard) (secret : String) (material : List Char) :
    (macHex platform secret material).length = 64 := by
  have pairs : ∀ bytes : List UInt8, (hexBytes bytes).length = 2 * bytes.length := by
    intro bytes
    simp [hexBytes, List.length_flatMap, Nat.mul_comm]
  rw [macHex, pairs, standard.macLength]

theorem verify_hmac_ok (env : SecurityEnv) (token : CapabilityToken) (secret : String) (accepted : CapabilityToken)
    (ok : verifyHmac env token secret = .ok accepted) :
    accepted = token ∧ macHex env.platform secret (signMaterial token) = token.signature := by
  rw [verifyHmac] at ok
  split_ifs at ok with ascii signed
  exact ⟨(Except.ok.inj ok).symm, signed⟩

theorem verify_capability_ok (env : SecurityEnv) (fields : List (String × Json)) (token : CapabilityToken)
    (ok : verifyCapabilityToken env fields = .ok token) :
    (∃ secret, env.capabilitySecret = some secret ∧
        macHex env.platform secret (signMaterial token) = token.signature) ∨
      ∃ publicKeyPem, env.verifyEd25519 publicKeyPem token.signature (String.ofList (signMaterial token)) = .ok () := by
  rw [verifyCapabilityToken] at ok
  obtain ⟨read, -, ok⟩ := (bind_ok _ _ _).mp ok
  obtain ⟨past, -, ok⟩ := (bind_ok _ _ _).mp ok
  cases past with
  | true => cases ok
  | false =>
      have byMac : ∀ secret, env.capabilitySecret = some secret → verifyHmac env read secret = .ok token →
          ∃ secret, env.capabilitySecret = some secret ∧
            macHex env.platform secret (signMaterial token) = token.signature := by
        intro secret configured accepted
        obtain ⟨rfl, signed⟩ := verify_hmac_ok env read secret token accepted
        exact ⟨secret, configured, signed⟩
      simp only [Bool.false_eq_true, if_false] at ok
      by_cases hmac : normalizedAlgorithm read = "HMAC_SHA256" ∨ normalizedAlgorithm read = "HMACSHA256"
      · rw [if_pos hmac] at ok
        cases configured : env.capabilitySecret with
        | none => simp only [configured, reduceCtorEq] at ok
        | some secret =>
            simp only [configured] at ok
            exact Or.inl (configured ▸ byMac secret configured ok)
      rw [if_neg hmac] at ok
      by_cases ed25519 : normalizedAlgorithm read = "ED25519" ∨ normalizedAlgorithm read = "ED25519V1"
      · rw [if_pos ed25519] at ok
        cases key : env.ed25519PublicKey.filter (· ≠ "") with
        | some publicKeyPem =>
            simp only [key, bind_ok] at ok
            obtain ⟨_, signed, returned⟩ := ok
            exact Or.inr ⟨publicKeyPem, Except.ok.inj returned ▸ signed⟩
        | none =>
            cases configured : env.capabilitySecret with
            | none => simp only [key, configured, reduceCtorEq] at ok
            | some secret =>
                simp only [key, configured] at ok
                exact Or.inl (configured ▸ byMac secret configured ok)
      · rw [if_neg ed25519] at ok
        cases ok

def Accepted (env : SecurityEnv) (secret : String) (t u : CapabilityToken) : Prop :=
  u.signature = macHex env.platform secret (signMaterial t) ∧ ∃ fields, verifyCapabilityToken env fields = .ok u

theorem accepted_material (env : SecurityEnv) (standard : env.platform.Standard) (secret : String)
    (configured : env.capabilitySecret = some secret)
    (ed25519Length : ∀ publicKeyPem signature material,
      env.verifyEd25519 publicKeyPem signature material = .ok () → 86 ≤ signature.length)
    (t u : CapabilityToken) (free : Set.InjOn (env.platform.hmacSha256 secret.toUTF8.toList)
      {String.ofList (signMaterial t), String.ofList (signMaterial u)})
    (accepted : Accepted env secret t u) : signMaterial t = signMaterial u := by
  obtain ⟨carried, fields, ok⟩ := accepted
  obtain ⟨held, current, signed⟩ | ⟨publicKeyPem, signed⟩ := verify_capability_ok env fields u ok
  · obtain rfl : secret = held := Option.some.inj (configured.symm.trans current)
    have macs := hex_bytes_injective _ _ (signed.trans carried)
    have texts := free (by simp) (by simp) macs
    exact (String.ofList_injective texts).symm
  · have long := ed25519Length _ _ _ signed
    rw [carried, mac_hex_length env.platform standard] at long
    omega

theorem sign_material_iff (t u : CapabilityToken) :
    ((signMaterial t = signMaterial u → Agree t u) ↔ (signMaterial t = signMaterial u → SameSeparators t u)) ∧
      (NoSeparators t → signMaterial t = signMaterial u → Agree t u) ∧
      ∀ (env : SecurityEnv) (secret : String), env.platform.Standard →
        env.capabilitySecret = some secret →
        (∀ publicKeyPem signature material,
          env.verifyEd25519 publicKeyPem signature material = .ok () → 86 ≤ signature.length) →
        Set.InjOn (env.platform.hmacSha256 secret.toUTF8.toList)
          {String.ofList (signMaterial t), String.ofList (signMaterial u)} →
        ((Accepted env secret t u → Agree t u) ↔ (Accepted env secret t u → SameSeparators t u)) := by
  refine ⟨⟨?_, ?_⟩, ?_, ?_⟩
  · intro unambiguous same
    exact agree_separators t u (unambiguous same)
  · intro alike same
    exact material_agrees t u same (alike same)
  · intro none_in same
    exact material_agrees t u same (no_separators_same t u none_in same)
  · intro env secret standard configured ed25519Length free
    constructor
    · intro bound accepted
      exact agree_separators t u (bound accepted)
    · intro alike accepted
      have same := accepted_material env standard secret configured ed25519Length t u free accepted
      exact material_agrees t u same (alike accepted)

def sampleExpiry : Datetime := .newYear 2030 (Eq.refl true)

def sampleToken (holder toolScope : String) (holderLength : 1 ≤ holder.length ∧ holder.length ≤ 200)
    (toolScopeLength : 1 ≤ toolScope.length ∧ toolScope.length ≤ 200) : CapabilityToken where
  holder := holder
  toolScope := toolScope
  expiry := sampleExpiry
  issuer := "issuer-a"
  signature := "0000000000000000000000000000000000000000000000000000000000000000"
  algorithm := "HMAC_SHA256"
  holderLength := holderLength
  toolScopeLength := toolScopeLength
  issuerLength := by decide
  signatureLength := by decide
  algorithmLength := by decide

def plainToken : CapabilityToken := sampleToken "agent-a" "decide" (by decide) (by decide)

theorem sign_material_iff_plain : NoSeparators plainToken ∧
    ∀ u, signMaterial plainToken = signMaterial u → Agree plainToken u := by
  have plain : NoSeparators plainToken := ⟨by decide, by decide, by decide, by decide⟩
  exact ⟨plain, fun u => (sign_material_iff plainToken u).2.1 plain⟩

-- A token for the scope "decide" of the holder "a|*" signs for the scope
-- "*|decide" of the holder "a".
theorem shifted_separator_same_material :
    ¬ ∀ t u : CapabilityToken, signMaterial t = signMaterial u → Agree t u := by
  intro unambiguous
  have agree := unambiguous (sampleToken "a|*" "decide" (by decide) (by decide))
    (sampleToken "a" "*|decide" (by decide) (by decide)) (by decide +kernel)
  exact absurd agree.1 (by decide)

end Vermyth
