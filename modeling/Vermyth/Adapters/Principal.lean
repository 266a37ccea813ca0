import Vermyth.Adapters.Http

set_option autoImplicit false

namespace Vermyth

inductive AuthMethod where
  | none
  | bearerStatic
  | bearerJwt
  | bearerOpaque
deriving DecidableEq

structure AuthPrincipal where
  subject : String
  authMethod : AuthMethod
  scopes : List String
  claims : List (String × Json)

-- VERMYTH_HTTP_SCOPES and VERMYTH_JWT_*, and jwt.decode of a token, a secret, an
-- algorithm, an audience and an issuer, where PyJWT is installed.
structure AuthEnv (ω : Type) extends HttpEnv ω where
  httpScopes : Option String := none
  jwtAudience : Option String := none
  jwtIssuer : Option String := none
  jwtAlgorithm : Option String := none
  jwtSecret : Option String := none
  jwtDecode : Option (String → String → String → String → String → Except PyError (List (String × Json)))

inductive PostRoute where
  | tools (toolName : String)
  | tasks

-- str.split()
def pyWords (text : String) : List String :=
  ((text.toList.splitOnP pySpace).filter (· ≠ [])).map String.ofList

def setting (value : Option String) : Option String := value.filter (· ≠ "")

def parseAuthorizationBearer (headerValue : String) : Option String :=
  match pyWords headerValue with
  | [scheme, token] => if scheme.toList.map Char.toLower = "bearer".toList then some token else none
  | _ => none

def staticScopes (scopes : Option String) : List String :=
  ((((scopes.getD "tool:*").toList.splitOn ',').map String.ofList).map pyStrip).filter (· ≠ "")

variable {ω : Type} (env : AuthEnv ω)

-- payload.get("scope") or payload.get("scp") or "tool:*"
def claimScopes (claims : List (String × Json)) : List String :=
  let scope := payloadGet claims "scope" .null
  let scp := payloadGet claims "scp" .null
  match if scope.truthy then scope else if scp.truthy then scp else .str "tool:*" with
  | .str text => pyWords text
  | .arr items => items.map env.pyStr
  | _ => ["tool:*"]

def jwtClaims (token : String) : Except PyError (Option (List (String × Json))) :=
  match setting env.jwtAudience, setting env.jwtIssuer with
  | some audience, some issuer =>
      match env.jwtDecode with
      | none => .error (.valueError
          "JWT validation requested but PyJWT not installed: pip install -e .[auth-jwt]")
      | some decode =>
          match setting env.jwtSecret with
          | none => .error (.valueError "VERMYTH_JWT_SECRET required for JWT validation")
          | some secret => (decode token secret (env.jwtAlgorithm.getD "HS256") audience issuer).map some
  | _, _ => .ok none

def resolvePrincipal (authorization : String) : Except PyError AuthPrincipal :=
  match parseAuthorizationBearer authorization with
  | none => .ok { subject := "anonymous", authMethod := .none, scopes := [], claims := [] }
  | some token =>
      if setting env.httpToken = some token then
        .ok { subject := "static-token", authMethod := .bearerStatic, scopes := staticScopes env.httpScopes,
              claims := [] }
      else
        match jwtClaims env token with
        | .error raised => .error raised
        | .ok (some claims) =>
            .ok { subject := env.pyStr (payloadGet claims "sub" (.str "jwt")), authMethod := .bearerJwt,
                  scopes := claimScopes env claims, claims := claims }
        | .ok none => .ok { subject := "unverified-bearer", authMethod := .bearerOpaque, scopes := [], claims := [] }

-- tool_name.startswith(s[:-1]), where s ends in a star.
def wildcardMatches (scope toolName : String) : Bool :=
  scope.toList.getLast? = some '*' && scope.toList.dropLast.isPrefixOf toolName.toList

def principalAllowsTool (principal : AuthPrincipal) (toolName : String) : Bool :=
  (principal.authMethod = .none && (setting env.httpToken).isNone) ||
    principal.scopes.any fun scope =>
      scope = "tool:*" || scope = "tool:" ++ toolName || wildcardMatches scope toolName

def handlePostInner (route : PostRoute) (post : HttpPost) (state : HttpState ω) : HttpReply × HttpState ω :=
  match route with
  | .tools toolName =>
      let done := postTool env.toHttpEnv toolName post state.server
      (done.1, { state with server := done.2 })
  | .tasks => postTask env.toHttpEnv post state

-- do_POST. Where no principal is resolved the exception leaves it, with no
-- reply. The principal is noted for receipts, and no more.
def doPost (route : PostRoute) (post : HttpPost) (state : HttpState ω) : Option HttpReply × HttpState ω :=
  if !authorized env.toHttpEnv post then (some unauthorized, state)
  else
    match resolvePrincipal env post.authorization with
    | .error _ => (none, state)
    | .ok _ =>
        let done := handlePostInner env route post state
        (some done.1, done.2)

end Vermyth
