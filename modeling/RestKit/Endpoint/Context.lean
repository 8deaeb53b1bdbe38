import RestKit.Auth.Principal
import RestKit.Config
import RestKit.Grouped
import RestKit.Http.Header
import RestKit.Http.Uri
import RestKit.Param.Declared
import RestKit.Upload.File
/-!
# Request contexts

A `Context` holds what is known of a request when user code runs: the request itself, its endpoint,
and what the steps before have found.
-/
namespace RestKit

/-- What an endpoint is, apart from what it does. -/
structure EndpointInfo where
  name : String
  method : String
  path : String
  description : Option String := none
  isPublic : Bool := false
  roles : List String := []
  auditDisabled : Bool := false
  actionType : Option String := none
  modelName : Option String := none
  /-- The time for a request, in nanoseconds. -/
  timeout : Option Nat := none
deriving DecidableEq, Repr

/-- What becomes of audit records: they are logged, or kept in a trail; keeping may report a
failure, which nobody sees. -/
inductive AuditHandler where
  | log
  | keep (fails : Bool)
deriving DecidableEq, Repr

/-- A bound body with the name of its type (`ParsedBody`). -/
structure ParsedBody where
  type : String
  value : Json
deriving DecidableEq, Repr

/-- A request as its handler sees it (`RequestContext`). -/
structure Context where
  config : Config
  /-- The clock's reading, in nanoseconds from 1970. -/
  now : Nat := 0
  auditHandler : Option AuditHandler := none
  endpoint : Option EndpointInfo := none
  method : String := "GET"
  uri : Http.Uri := ⟨"/", none⟩
  headers : Http.Headers := []
  remoteIp : String := ""
  principal : Option Auth.Principal := none
  token : Option Auth.Token := none
  params : ParamSet := {}
  body : Option ParsedBody := none
  files : Upload.Files := []
  form : Form := []
  /-- When the endpoint's timeout elapses. -/
  deadline : Option Nat := none

namespace Context

/-- A context outside any request (`detached`). -/
def detached (config : Config) : Context := { config }

/-- The name of the endpoint; empty outside a request (`endpoint_name`). -/
def endpointName (c : Context) : String := (c.endpoint.map EndpointInfo.name).getD ""

/-- The first value of a header, if it is visible ASCII (`header`). -/
def header (c : Context) (name : String) : Option String := c.headers.text? name

def pathParam (c : Context) (name : String) : Option ParamValue := c.params.get? .path name
def queryParam (c : Context) (name : String) : Option ParamValue := c.params.get? .query name
def headerParam (c : Context) (name : String) : Option ParamValue := c.params.get? .header name

/-- The name of the query parameter that holds a filter. -/
def filterName : String := "filter"

/-- The filter of the request (`filter_param`). -/
def filterParam (c : Context) : Option Query.FilterBuilder :=
  (c.queryParam filterName).bind ParamValue.filter?

/-- The body, if it is of a type (`body`). -/
def bodyOf (c : Context) (type : String) : Option Json :=
  c.body.bind fun b => if b.type = type then some b.value else none

/-- Move the body out of the context, if it is of a type (`take_body`). -/
def takeBody (c : Context) (type : String) : Option Json × Context :=
  match c.bodyOf type with
  | some v => (some v, { c with body := none })
  | none => (none, c)

/-- The first value of a form field (`form_value`). -/
def formValue (c : Context) (name : String) : Option String := (Grouped.get c.form name).head?

def filesOf (c : Context) (field : String) : List Upload.File := Grouped.get c.files field

/-- Whether the request has a deadline (`deadline`). -/
def hasDeadline (c : Context) : Bool := c.deadline.isSome

/-- The audit handler, if the endpoint and the configuration have auditing on (`audit_handler`). -/
def auditor (c : Context) : Option AuditHandler :=
  match c.endpoint with
  | some e => if e.auditDisabled || !c.config.security.auditLogging then none else c.auditHandler
  | none => none

end Context
end RestKit
