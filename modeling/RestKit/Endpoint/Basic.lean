import RestKit.Body.Model
import RestKit.Endpoint.Audit
import RestKit.RateLimit.Limit
import RestKit.Upload.Policy
import RestKit.Upload.Storage
/-!
# Endpoints

An endpoint is declared with what it takes and who may call it. `Declaration.build` checks the
declaration; only what it gives can be registered.
-/
namespace RestKit

/-- What a handler does: how it ends, the application's new state, and its audit entries. -/
structure Handled (σ : Type) where
  outcome : Outcome ApiError Response
  state : σ
  trail : List AuditEntry := []

/-- Answers a request that has passed all steps. It sees the stored files and the application's
state. -/
abbrev Handler (σ : Type) := Context → Upload.Storage → σ → Handled σ

/-- Decides the limit of a request; it may decide that there is none. -/
abbrev Limiter := Context → Outcome ApiError (Option RateLimit.Limit)

/-- What answers the requests of a method on a path (`Endpoint`). -/
structure Endpoint (σ : Type) where
  info : EndpointInfo
  params : List Param
  body : Option Body.BodyType
  /-- The content types that are accepted; when empty they follow from the body and the uploads. -/
  contentTypes : List String
  upload : Option Upload.Policy
  limiter : Option Limiter
  handler : Handler σ
  /-- A disabled endpoint answers as if it did not exist. -/
  disabled : Bool

/-- What is written down of an endpoint before it is checked (`EndpointBuilder`). -/
structure Declaration (σ : Type) where
  info : EndpointInfo
  params : List Param := []
  body : Option Body.BodyType := none
  contentTypes : List String := []
  upload : Option Upload.Policy := none
  limiter : Option Limiter := none
  handler : Option (Handler σ) := none
  disabled : Bool := false

/-- Why an endpoint is refused (`EndpointError`). -/
inductive EndpointError where
  | missingHandler (name : String)
  | unsupportedMethod (name method : String)
  | invalidPath (name path : String)
  | uploadMethod (name : String)
  | duplicateRoute (method path existing : String)
  | duplicateName (name : String)
  | uploadDirectory (cause : String)
deriving DecidableEq, Repr

def EndpointError.message : EndpointError → String
  | .missingHandler name => "endpoint '" ++ name ++ "' has no handler"
  | .unsupportedMethod name method =>
    "endpoint '" ++ name ++ "' uses unsupported method " ++ method
  | .invalidPath name path => "endpoint '" ++ name ++ "' path '" ++ path ++ "' must start with '/'"
  | .uploadMethod name =>
    "endpoint '" ++ name ++ "': uploads are only accepted on POST, PUT and PATCH"
  | .duplicateRoute method path existing =>
    "route " ++ method ++ " " ++ path ++ " is already registered by '" ++ existing ++ "'"
  | .duplicateName name => "endpoint name '" ++ name ++ "' is already registered"
  | .uploadDirectory cause => "failed to prepare upload directory: " ++ cause

/-- The name of the cause. -/
def EndpointError.cause : EndpointError → String
  | .missingHandler _ => "MissingHandler"
  | .unsupportedMethod .. => "UnsupportedMethod"
  | .invalidPath .. => "InvalidPath"
  | .uploadMethod _ => "UploadMethod"
  | .duplicateRoute .. => "DuplicateRoute"
  | .duplicateName _ => "DuplicateName"
  | .uploadDirectory _ => "Io"

def EndpointError.toJson (e : EndpointError) : Json := .ofError e.cause e.message

/-- The methods that endpoints may have. -/
def supportedMethods : List String := ["GET", "HEAD", "POST", "PUT", "PATCH", "DELETE"]

/-- Whether requests of a method have a body that is read (`accepts_body`). -/
def readsBody (method : String) : Bool := ["POST", "PUT", "PATCH"].contains method

/-- The time for a request as it is declared, in nanoseconds; zero is none (`timeout`). -/
def deadlineOf (duration : Nat) : Option Nat := if duration = 0 then none else some duration

/-- A content type as endpoints keep it. -/
def normalType (s : String) : String := Text.asciiLower (Text.trim s)

namespace Declaration

/-- Check a declaration (`EndpointBuilder::build`). A body on a method without one is dropped. -/
def build {σ : Type} (d : Declaration σ) : Except EndpointError (Endpoint σ) :=
  let i := d.info
  match d.handler with
  | none => .error (.missingHandler i.name)
  | some handler =>
    if !supportedMethods.contains i.method then .error (.unsupportedMethod i.name i.method)
    else if !Text.startsWith '/' i.path then .error (.invalidPath i.name i.path)
    else if d.upload.isSome && !readsBody i.method then .error (.uploadMethod i.name)
    else .ok {
      info := i
      params := d.params
      body := if readsBody i.method then d.body else none
      contentTypes := d.contentTypes.map normalType
      upload := d.upload
      limiter := d.limiter
      handler
      disabled := d.disabled }

end Declaration
end RestKit
