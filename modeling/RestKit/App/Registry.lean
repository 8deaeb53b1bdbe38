import RestKit.Auth.Authorizer
import RestKit.Endpoint.Basic
/-!
# Applications

An application is a configuration, its collaborators and its endpoints. Names are unique among the
endpoints, and so are pairs of method and path.
-/
namespace RestKit

/-- The endpoints of an application, and what they share (`App`, `AppState`). -/
structure App (σ : Type) where
  /-- The configuration of the process; queries are read under its limits. -/
  process : Config
  /-- The configuration of the application. -/
  config : Config := process
  authorizer : Option Auth.Authorizer := none
  auditHandler : Option AuditHandler := none
  endpoints : List (Endpoint σ) := []

namespace App

/-- The conflict of a new endpoint with a registered one. -/
def conflict? {σ : Type} (new old : Endpoint σ) : Option EndpointError :=
  if old.info.name = new.info.name then some (.duplicateName new.info.name)
  else if old.info.method = new.info.method ∧ old.info.path = new.info.path then
    some (.duplicateRoute new.info.method new.info.path old.info.name)
  else none

/-- Add an endpoint, unless it conflicts with one that is there; the first conflict counts
(`register`). -/
def register {σ : Type} (app : App σ) (e : Endpoint σ) : Except EndpointError (App σ) :=
  match app.endpoints.findSome? (conflict? e) with
  | some error => .error error
  | none => .ok { app with endpoints := app.endpoints ++ [e] }

/-- Check a declaration and add its endpoint. -/
def declare {σ : Type} (app : App σ) (d : Declaration σ) : Except EndpointError (App σ) := do
  app.register (← d.build)

/-- The endpoint of a name (`find`). -/
def find? {σ : Type} (app : App σ) (name : String) : Option (Endpoint σ) :=
  app.endpoints.find? (·.info.name == name)

/-- Switch an endpoint on or off (`set_disabled`). -/
def setDisabled {σ : Type} (app : App σ) (name : String) (disabled : Bool) : App σ :=
  { app with
    endpoints := app.endpoints.map fun e => if e.info.name == name then { e with disabled } else e }

end App
end RestKit
