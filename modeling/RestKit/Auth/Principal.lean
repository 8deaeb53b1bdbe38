import RestKit.Json.Basic
import RestKit.Time.Calendar
/-!
# Principals

Who makes a request, as an authorizer has found.
-/
namespace RestKit.Auth

/-- An authenticated identity (`Principal`). -/
structure Principal where
  id : String
  role : String
deriving DecidableEq, Repr

def Principal.toJson (p : Principal) : Json :=
  .ofPairs [("id", .string p.id), ("role", .string p.role)]

/-- The token that a principal was established from (`AuthToken`). -/
structure Token where
  isValid : Bool
  userId : String
  userType : String
  expiresAt : Option Time.Instant
deriving DecidableEq, Repr

def Token.toJson (t : Token) : Json :=
  .ofPairs [("is_valid", .bool t.isValid), ("user_id", .string t.userId),
    ("user_type", .string t.userType),
    ("expires_at", Json.ofOption (fun i => .string (i.local ++ "Z")) t.expiresAt)]

/-- What authorizing a request gives; an anonymous request has neither part (`Authorization`). -/
structure Authorization where
  principal : Option Principal := none
  token : Option Token := none
deriving DecidableEq, Repr

def Authorization.anonymous : Authorization := {}

def Authorization.toJson (a : Authorization) : Json :=
  .ofPairs [("principal", .ofOption Principal.toJson a.principal),
    ("token", .ofOption Token.toJson a.token)]

end RestKit.Auth
