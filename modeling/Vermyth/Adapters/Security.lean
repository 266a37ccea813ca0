import Vermyth.Protocol.SessionCodec
import Vermyth.Schema.Datetime

set_option autoImplicit false

namespace Vermyth

structure CapabilityToken where
  holder : String
  toolScope : String
  expiry : Datetime
  issuer : String
  signature : String
  algorithm : String := "ED25519"
  holderLength : 1 ≤ holder.length ∧ holder.length ≤ 200
  toolScopeLength : 1 ≤ toolScope.length ∧ toolScope.length ≤ 200
  issuerLength : 1 ≤ issuer.length ∧ issuer.length ≤ 200
  signatureLength : 16 ≤ signature.length ∧ signature.length ≤ 512
  algorithmLength : 3 ≤ algorithm.length ∧ algorithm.length ≤ 20

-- The process the adapters run in: its clock and environment, and the code
-- they call that is not the repository's.
structure SecurityEnv where
  platform : Platform
  now : Datetime
  requireCapability : Bool
  capabilitySecret : Option String
  ed25519PublicKey : Option String
  parseDatetime : Json → Option Datetime
  verifyEd25519 (publicKeyPem signature material : String) : Except PyError Unit

def tokenFields : List String := ["holder", "tool_scope", "expiry", "issuer", "signature", "algorithm"]

def textField (fields : List (String × Json)) (model field : String) : Except PyError String :=
  match fields.lookup field with
  | some (.str text) => .ok text
  | _ => .error (invalid model field)

-- CapabilityToken.model_validate
def CapabilityToken.modelValidate (env : SecurityEnv) (fields : List (String × Json)) :
    Except PyError CapabilityToken := do
  if !fields.all fun field => field.1 ∈ tokenFields then .error (invalid "CapabilityToken" "extra")
  let holder ← textField fields "CapabilityToken" "holder"
  let toolScope ← textField fields "CapabilityToken" "tool_scope"
  let expiry ← match (fields.lookup "expiry").bind env.parseDatetime with
    | some expiry => .ok expiry
    | none => .error (invalid "CapabilityToken" "expiry")
  let issuer ← textField fields "CapabilityToken" "issuer"
  let signature ← textField fields "CapabilityToken" "signature"
  let algorithm ← match fields.lookup "algorithm" with
    | none => .ok "ED25519"
    | some _ => textField fields "CapabilityToken" "algorithm"
  if holderLength : 1 ≤ holder.length ∧ holder.length ≤ 200 then
    if toolScopeLength : 1 ≤ toolScope.length ∧ toolScope.length ≤ 200 then
      if issuerLength : 1 ≤ issuer.length ∧ issuer.length ≤ 200 then
        if signatureLength : 16 ≤ signature.length ∧ signature.length ≤ 512 then
          if algorithmLength : 3 ≤ algorithm.length ∧ algorithm.length ≤ 20 then
            .ok { holder := holder, toolScope := toolScope, expiry := expiry, issuer := issuer,
                  signature := signature, algorithm := algorithm, holderLength := holderLength,
                  toolScopeLength := toolScopeLength, issuerLength := issuerLength,
                  signatureLength := signatureLength, algorithmLength := algorithmLength }
          else .error (invalid "CapabilityToken" "algorithm")
        else .error (invalid "CapabilityToken" "signature")
      else .error (invalid "CapabilityToken" "issuer")
    else .error (invalid "CapabilityToken" "tool_scope")
  else .error (invalid "CapabilityToken" "holder")

def signMaterial (token : CapabilityToken) : List Char :=
  token.holder.toList ++ '|' :: (token.toolScope.toList ++ '|' :: (token.expiry.isoformat ++
    '|' :: (token.issuer.toList ++ '|' :: token.algorithm.toList)))

-- The HMAC-SHA256 hexdigest a token is signed with.
def macHex (platform : Platform) (sharedSecret : String) (material : List Char) : String :=
  hexBytes (platform.hmacSha256 sharedSecret.toUTF8.toList (String.ofList material))

-- compare_digest takes ASCII strings only.
def verifyHmac (env : SecurityEnv) (token : CapabilityToken) (sharedSecret : String) :
    Except PyError CapabilityToken :=
  if token.signature.toList.any fun c => 127 < c.toNat then
    .error (.typeError "comparing strings with non-ASCII characters is not supported")
  else if macHex env.platform sharedSecret (signMaterial token) = token.signature then .ok token
  else .error (.valueError "invalid capability token signature")

-- The letters upper() takes to ASCII, none of the others being told apart
-- below.
def upperChar (c : Char) : Char := if c = 'ſ' then 'S' else if c = 'ı' then 'I' else c.toUpper

def normalizedAlgorithm (token : CapabilityToken) : String :=
  String.ofList ((token.algorithm.toList.map upperChar).map fun c => if c = '-' then '_' else c)

-- token.expiry < now, with now in UTC
def expired (env : SecurityEnv) (token : CapabilityToken) : Except PyError Bool :=
  match token.expiry.offset with
  | none => .error (.typeError "can't compare offset-naive and offset-aware datetimes")
  | some seconds => .ok (token.expiry.clock - seconds * 1000000 < env.now.clock)

def verifyCapabilityToken (env : SecurityEnv) (tokenPayload : List (String × Json)) :
    Except PyError CapabilityToken := do
  let token ← CapabilityToken.modelValidate env tokenPayload
  if ← expired env token then .error (.valueError "capability token expired")
  let algo := normalizedAlgorithm token
  if algo = "HMAC_SHA256" ∨ algo = "HMACSHA256" then
    match env.capabilitySecret with
    | none => .error (.valueError "capability secret is not configured")
    | some secret => verifyHmac env token secret
  else if algo = "ED25519" ∨ algo = "ED25519V1" then
    match env.ed25519PublicKey.filter (· ≠ ""), env.capabilitySecret with
    | some publicKeyPem, _ => do
        env.verifyEd25519 publicKeyPem token.signature (String.ofList (signMaterial token))
        return token
    | none, some secret => verifyHmac env token secret
    | none, none => .error (.valueError ("Ed25519 tokens require VERMYTH_CAPABILITY_ED25519_PUBLIC_KEY " ++
        "or VERMYTH_CAPABILITY_SECRET for HMAC fallback"))
  else .error (.valueError ("unsupported capability algorithm: " ++ token.algorithm))

end Vermyth
