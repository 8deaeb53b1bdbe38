import RestKit.Digest.Hmac
import RestKit.Json.Reader
import RestKit.Json.Writer
import RestKit.Text.Base64
import RestKit.Time.Calendar
/-!
# Signed tokens

A token is a header, a payload of claims and a signature, joined by dots, each in the URL form of
base64. `issue` signs claims under a shared secret; `validate` checks the signature, then the
claims, then the expiry.
-/
namespace RestKit.Auth

/-- What a token says of its holder (`Claims`). -/
structure Claims where
  sub : String
  role : String
  userType : String
  /-- Expiry and time of issue, in seconds from 1970. -/
  exp : Int
  iat : Int
deriving DecidableEq, Repr

def Claims.toJson (c : Claims) : Json :=
  .object [("sub", .string c.sub), ("role", .string c.role), ("user_type", .string c.userType),
    ("exp", .int c.exp), ("iat", .int c.iat)]

/-- A count of hours as a signed 64-bit number. -/
def signedHours (hours : Nat) : Int :=
  if hours < 9223372036854775808 then hours else (hours : Int) - 18446744073709551616

/-- Claims that are issued at a time, in seconds, and expire some hours later; none if no date is
that far off (`Claims::new`). -/
def Claims.lasting (hours now : Nat) (sub role userType : String) : Option Claims :=
  (Time.Instant.ofSeconds? (now + signedHours hours * 3600)).map fun t =>
    { sub, role, userType, exp := t.seconds, iat := now }

namespace Jwt

/-- Why a token is refused (`JwtError`). -/
inductive Fault where
  | missingSecret
  | malformed
  | base64 (f : Base64.Fault)
  | json (f : Json.Fault)
  | algorithm
  | signature
  | missingClaim (name : String)
  | expired
  | audience
deriving DecidableEq, Repr

def Fault.message : Fault → String
  | .missingSecret => "JWT secret not configured"
  | .malformed => "Invalid token: InvalidToken"
  | .base64 f => "Invalid token: Base64 error: " ++ f.message
  | .json f => "Invalid token: JSON error: " ++ f.message
  | .algorithm => "Invalid token: InvalidAlgorithm"
  | .signature => "Invalid token: InvalidSignature"
  | .missingClaim name => "Invalid token: Missing required claim: " ++ name
  | .expired => "Invalid token: ExpiredSignature"
  | .audience => "Invalid token: InvalidAudience"

/-! ## Signing -/

/-- The only algorithm that is signed and accepted. -/
def algorithm : String := "HS256"

def encodeText (s : String) : List Char := Base64.encode (Utf8.encode s)

def header : Json := .object [("typ", .string "JWT"), ("alg", .string algorithm)]

/-- The signature of a message, as it stands in a token. -/
def sign (secret : String) (message : List Char) : List Char :=
  Base64.encode (Digest.hmac (Utf8.encode secret) (Utf8.encode (String.ofList message)))

/-- The header and the payload of a token. -/
def message (c : Claims) : List Char :=
  encodeText header.compact ++ '.' :: encodeText c.toJson.compact

/-- Sign claims under a secret (`issue_token`). -/
def issue (c : Claims) (secret : String) : Except Fault String :=
  if secret.isEmpty then .error .missingSecret
  else .ok (String.ofList (message c ++ '.' :: sign secret (message c)))

/-! ## Reading -/

/-- A text in front of its last dot, and behind it. -/
def splitLast (cs : List Char) : Option (List Char × List Char) :=
  let back := cs.reverse
  match back.dropWhile (· ≠ '.') with
  | _ :: front => some (front.reverse, (back.takeWhile (· ≠ '.')).reverse)
  | [] => none

def optionalText : Json.Shape := .option .text

/-- The algorithms that a header may name. -/
def algorithms : List String :=
  ["HS256", "HS384", "HS512", "ES256", "ES384", "RS256", "RS384", "RS512", "PS256", "PS384",
    "PS512", "EdDSA"]

def headerShape : Json.Shape :=
  .record "Header" [("typ", optionalText, none), ("alg", .choice algorithms, none),
    ("cty", optionalText, none), ("jku", optionalText, none), ("jwk", .option .any, none),
    ("kid", optionalText, none), ("x5u", optionalText, none), ("x5c", .option (.list .text), none),
    ("x5t", optionalText, none), ("x5t#S256", optionalText, none)]

def claimsShape : Json.Shape :=
  .record "Claims" [("sub", .text, none), ("role", .text, none), ("user_type", .text, none),
    ("exp", .int64, none), ("iat", .int64, none)]

/-- The claims that have a meaning of their own, of any type. -/
def registeredShape : Json.Shape :=
  .record "ClaimsForValidation" [("exp", .option .any, none), ("nbf", .option .any, none),
    ("sub", .option .any, none), ("iss", .option .any, none), ("aud", .option .any, none)]

/-- The value of a part of a token, read as a shape. -/
def readPart (s : Json.Shape) (part : List Char) : Except Fault Json := do
  let bytes ← (Base64.decode (Utf8.encode (String.ofList part))).mapError .base64
  (Json.readAs s bytes).mapError .json

/-- Claims from a value of their shape. -/
def claimsOf (v : Json) : Claims :=
  let text (name : String) : String := ((v.get? name).bind Json.string?).getD ""
  let int (name : String) : Int := ((v.get? name).bind Json.int64?).getD 0
  { sub := text "sub", role := text "role", userType := text "user_type", exp := int "exp"
    iat := int "iat" }

/-- Whether a value names who a token is meant for. -/
def namesAudience : Json → Bool
  | .string _ => true
  | .array xs => xs.all fun x => x.string?.isSome
  | _ => false

/-- The seconds that a clock may be ahead. -/
def leeway : Nat := 60

/-- Check the expiry against a time in seconds; a token that is meant for someone is for no one
here. -/
def checkClaims (now : Nat) (c : Claims) (registered : Json) : Except Fault Unit :=
  if c.exp < 0 then .error (.missingClaim "exp")
  else if c.exp.toNat < now - leeway then .error .expired
  else if ((registered.get? "aud").map namesAudience).getD false then .error .audience
  else .ok ()

/-- The claims of a token that is signed under the secret and has not expired
(`JwtAuthorizer::validate`). -/
def validate (secret : String) (now : Nat) (token : String) : Except Fault Claims := do
  if secret.isEmpty then throw .missingSecret
  let some (message, signature) := splitLast token.toList | throw .malformed
  let some (head, payload) := splitLast message | throw .malformed
  let h ← readPart headerShape head
  if h.get? "alg" ≠ some (.string algorithm) then throw .algorithm
  if signature ≠ sign secret message then throw .signature
  let claims := claimsOf (← readPart claimsShape payload)
  checkClaims now claims (← readPart registeredShape payload)
  return claims

end Jwt
end RestKit.Auth
