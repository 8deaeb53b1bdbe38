import RestKit.Api.Response
import RestKit.Endpoint.Context
/-!
# Audit records

A flat description of an audited request. `respondAndLog` renders a handler's response and gives the
record to keep, if auditing is on; a value that cannot be written is not recorded.
-/
namespace RestKit

/-- What is recorded of a request (`AuditRecord`). -/
structure AuditRecord where
  endpoint : String
  actionType : Option String
  modelName : Option String
  method : String
  path : String
  principalId : Option String
  remoteIp : String
  affectedId : Option String
deriving DecidableEq, Repr

namespace AuditRecord

/-- The record of a request (`from_context`). -/
def ofContext (c : Context) (affectedId : Option String) : AuditRecord where
  endpoint := c.endpointName
  actionType := c.endpoint.bind EndpointInfo.actionType
  modelName := c.endpoint.bind EndpointInfo.modelName
  method := c.method
  path := c.uri.path
  principalId := c.principal.map Auth.Principal.id
  remoteIp := c.remoteIp
  affectedId

def toJson (r : AuditRecord) : Json :=
  let text : Option String → Json := .ofOption .string
  .ofPairs [("endpoint", .string r.endpoint), ("actionType", text r.actionType),
    ("modelName", text r.modelName), ("method", .string r.method), ("path", .string r.path),
    ("principalId", text r.principalId), ("remoteIp", .string r.remoteIp),
    ("affectedId", text r.affectedId)]

end AuditRecord

/-- A record in the trail, with the value that was sent. -/
structure AuditEntry where
  record : AuditRecord
  response : Json
deriving DecidableEq, Repr

/-- The entries that a response leaves in the trail. -/
def auditEntries (c : Context) (value : Option Json) (affectedId : Option String) :
    List AuditEntry :=
  match c.auditor, value with
  | some (.keep _), some v => [⟨.ofContext c affectedId, v⟩]
  | _, _ => []

/-- Render a response and leave its audit entries (`respond_and_log`). -/
def respondAndLog (c : Context) (value : Option Json) (affectedId : Option String)
    (format : ResponseFormat) (status : Option Nat) : Except ApiError Response × List AuditEntry :=
  (render value format status, auditEntries c value affectedId)

end RestKit
