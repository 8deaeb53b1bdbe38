import RestKit.Json.Basic
import RestKit.Text.Blank
import RestKit.Text.Case
import RestKit.Text.Numeral
/-!
# Configuration

One record of limits and switches. A `Deployment` has a preset, tighter towards production, and
`Config.ofEnvironment` lays the variables of the environment over it.
-/
namespace RestKit

inductive Deployment where
  | development
  | staging
  | production
deriving DecidableEq, Repr

namespace Deployment

/-- The long and the short spellings; anything else is development. -/
def ofName (name : String) : Deployment :=
  if name == "production" || name == "prod" then .production
  else if name == "staging" || name == "stage" then .staging
  else .development

def name : Deployment → String
  | .development => "Development"
  | .staging => "Staging"
  | .production => "Production"

end Deployment

structure QueryLimits where
  /-- Limits that clients ask for are lowered to this. -/
  maxLimit : Option Nat
  maxDepth : Nat
  /-- Whether builders write equality with its operator. -/
  strictEquality : Bool
deriving DecidableEq, Repr

structure ApiLimits where
  logRequests : Bool
  /-- The cap of JSON and form bodies, in bytes. -/
  maxRequestSize : Nat
  /-- The cap of multipart form fields, in bytes; zero is none. -/
  formMemoryLimit : Nat
  uploadCleanupDelay : Nat
deriving DecidableEq, Repr

structure Security where
  jwtSecret : String
  jwtExpiryHours : Nat
  auditLogging : Bool
deriving DecidableEq, Repr

structure Config where
  appEnv : String
  deployment : Deployment
  query : QueryLimits
  api : ApiLimits
  security : Security
deriving DecidableEq, Repr

namespace Config

def mebibyte : Nat := 1048576

def development : Config where
  appEnv := "development"
  deployment := .development
  query := { maxLimit := some 1000, maxDepth := 10, strictEquality := false }
  api := { logRequests := true, maxRequestSize := 10 * mebibyte, formMemoryLimit := mebibyte
           uploadCleanupDelay := 500 }
  security := { jwtSecret := "", jwtExpiryHours := 168, auditLogging := true }

def staging : Config where
  appEnv := "staging"
  deployment := .staging
  query := { maxLimit := some 500, maxDepth := 5, strictEquality := false }
  api := { logRequests := true, maxRequestSize := 5 * mebibyte, formMemoryLimit := mebibyte
           uploadCleanupDelay := 1000 }
  security := { jwtSecret := "", jwtExpiryHours := 24, auditLogging := true }

def production : Config where
  appEnv := "production"
  deployment := .production
  query := { maxLimit := some 100, maxDepth := 5, strictEquality := false }
  api := { logRequests := false, maxRequestSize := 2 * mebibyte, formMemoryLimit := mebibyte
           uploadCleanupDelay := 1000 }
  security := { jwtSecret := "", jwtExpiryHours := 4, auditLogging := true }

def ofDeployment : Deployment → Config
  | .development => development
  | .staging => staging
  | .production => production

def isProduction (c : Config) : Bool := c.deployment == .production

/-! ## The environment -/

/-- Variables with their values. -/
abbrev Variables := List (String × String)

/-- A variable's value as `read` understands it, or the value before it when the variable is not
set or malformed. -/
def override {α : Type} (vars : Variables) (name : String) (read : String → Option α)
    (old : α) : α :=
  ((vars.lookup name).bind fun raw => read (Text.trim raw)).getD old

def bool? (s : String) : Option Bool :=
  if s == "true" then some true else if s == "false" then some false else none

/-- The preset that `APP_ENV` names, with the other variables laid over it. A limit variable that
is set but holds no number removes the limit. -/
def ofEnvironment (vars : Variables) : Config :=
  let given := ((vars.lookup "APP_ENV").map fun v => Text.lowercase (Text.trim v)).getD ""
  let appEnv := if given.isEmpty then "development" else given
  let c := ofDeployment (.ofName appEnv)
  { appEnv
    deployment := c.deployment
    query := {
      maxLimit := match vars.lookup "FILTER_MAX_LIMIT" with
        | some raw => Numeral.nat64? (Text.trim raw)
        | none => c.query.maxLimit
      maxDepth := override vars "FILTER_MAX_NESTED_DEPTH" Numeral.nat64? c.query.maxDepth
      strictEquality := override vars "FILTER_STRICT_EQUALITY" bool? c.query.strictEquality }
    api := {
      logRequests := override vars "API_ENABLE_REQUEST_LOGGING" bool? c.api.logRequests
      maxRequestSize :=
        override vars "API_MAX_REQUEST_SIZE_BYTES" Numeral.nat64? c.api.maxRequestSize
      formMemoryLimit :=
        override vars "API_FORM_MEMORY_LIMIT_BYTES" Numeral.nat64? c.api.formMemoryLimit
      uploadCleanupDelay :=
        override vars "API_UPLOAD_CLEANUP_DELAY_MS" Numeral.nat64? c.api.uploadCleanupDelay }
    security := {
      jwtSecret := override vars "JWT_SECRET" some c.security.jwtSecret
      jwtExpiryHours :=
        override vars "SECURITY_JWT_EXPIRY_HOURS" Numeral.nat64? c.security.jwtExpiryHours
      auditLogging :=
        override vars "SECURITY_ENABLE_AUDIT_LOGGING" bool? c.security.auditLogging } }

/-- The configuration as a document. -/
def toJson (c : Config) : Json :=
  .ofPairs [("app_env", .string c.appEnv), ("environment", .string c.deployment.name),
    ("filter", .ofPairs [("max_limit", .ofOption .nat c.query.maxLimit),
      ("max_nested_depth", .nat c.query.maxDepth),
      ("strict_equality", .bool c.query.strictEquality)]),
    ("api", .ofPairs [("enable_request_logging", .bool c.api.logRequests),
      ("max_request_size_bytes", .nat c.api.maxRequestSize),
      ("form_memory_limit_bytes", .nat c.api.formMemoryLimit),
      ("upload_cleanup_delay_ms", .nat c.api.uploadCleanupDelay)]),
    ("security", .ofPairs [("jwt_secret", .string c.security.jwtSecret),
      ("jwt_expiry_hours", .nat c.security.jwtExpiryHours),
      ("enable_audit_logging", .bool c.security.auditLogging)])]

end Config
end RestKit
