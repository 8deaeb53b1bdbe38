import RestKit.Api.Outcome
import RestKit.Auth.Jwt
import RestKit.Endpoint.Context
/-!
# Authorizers

An authorizer finds out who makes a request. `Authorizer.jwt` takes signed tokens from the
`Authorization` header.
-/
namespace RestKit.Auth

/-- Finds the identity behind a request (`Authorizer`). -/
abbrev Authorizer := Context → Outcome ApiError Authorization

/-- What follows the scheme in an authorization. -/
def afterScheme (s : String) : Option String :=
  let scheme := "Bearer ".toList
  if scheme.isPrefixOf s.toList then some (String.ofList (s.toList.drop scheme.length)) else none

/-- The token of a bearer authorization, or why there is none (`extract_bearer`). -/
def bearer (headers : Http.Headers) : Except String String :=
  match headers.first? "authorization" with
  | none => .error "Missing Authorization header"
  | some bytes =>
    match Http.Headers.visible? bytes with
    | none => .error "Invalid Authorization header format"
    | some s =>
      match afterScheme s with
      | none => .error "Authorization header must use Bearer token format"
      | some token =>
        let token := Text.trim token
        if token.isEmpty then .error "Empty JWT token" else .ok token

def nanosPerSecond : Nat := 1000000000

/-- The identity that claims stand for. -/
def Authorization.ofClaims (c : Claims) : Authorization where
  principal := some { id := c.sub, role := c.role }
  token := some {
    isValid := true, userId := c.sub, userType := c.userType
    expiresAt := Time.Instant.ofSeconds? c.exp }

/-- The identity that a context's bearer token stands for (`authorize`). -/
def authorize (secret : String) (ctx : Context) : Except ApiError Authorization := do
  let token ← (bearer ctx.headers).mapError .unauthorized
  let claims ← (Jwt.validate secret (ctx.now / nanosPerSecond) token).mapError fun f =>
    .unauthorized f.message
  return .ofClaims claims

/-- Takes tokens that are signed under a secret (`JwtAuthorizer`). -/
def Authorizer.jwt (secret : String) : Authorizer := fun ctx => .ofExcept (authorize secret ctx)

end RestKit.Auth
