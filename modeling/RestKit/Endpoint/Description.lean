import RestKit.Endpoint.Gate
import RestKit.Param.Description
/-!
# Descriptions of endpoints

What a checked endpoint takes and who may call it, as a JSON document.
-/
namespace RestKit

/-- A declared parameter: its place, name and type, and whether it is required. -/
def Param.toJson (p : Param) : Json :=
  .array [.string p.place.name, .string p.name, .string p.type.name, .bool p.required]

def Endpoint.toJson {σ : Type} (e : Endpoint σ) : Json :=
  let texts (ss : List String) : Json := .array (ss.map .string)
  .ofPairs [("name", .string e.info.name), ("method", .string e.info.method),
    ("path", .string e.info.path), ("description", .ofOption .string e.info.description),
    ("accepts", .array (e.params.map Param.toJson)), ("body", .bool e.body.isSome),
    ("content_types", texts e.contentTypes), ("accepted", texts e.acceptedTypes),
    ("upload", .bool e.upload.isSome), ("public", .bool e.info.isPublic),
    ("roles", texts e.info.roles),
    ("audit_disabled", .bool e.info.auditDisabled),
    ("action_type", .ofOption .string e.info.actionType),
    ("model_name", .ofOption .string e.info.modelName),
    ("timeout_ms", .ofOption (fun n => .nat (n / 1000000)) e.info.timeout),
    ("rate_limited", .bool e.limiter.isSome), ("disabled", .bool e.disabled)]

end RestKit
