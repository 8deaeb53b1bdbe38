import RestKit.Json.Writer
/-!
# Errors that clients see

An `ApiError` is a status, a stable code, a message and perhaps details. Each kind of failure has a
constructor of its own.
-/
namespace RestKit

/-- An error as clients see it (`ApiError`). -/
structure ApiError where
  status : Nat
  code : String
  message : String
  details : Option Json := none
deriving DecidableEq, Repr, Inhabited

/-- Messages by field, in the order they arose; of two for one field the later counts. -/
abbrev FieldErrors := List (String × String)

/-- The messages as an object. -/
def FieldErrors.toJson (es : FieldErrors) : Json :=
  .object ((Json.entriesOf es).map fun (k, m) => (k, .string m))

namespace ApiError

def withDetails (e : ApiError) (d : Json) : ApiError := { e with details := some d }

def badRequest (message : String) : ApiError :=
  { status := 400, code := "INVALID_REQUEST", message }

def invalidRequest (message : String) (fields : FieldErrors) : ApiError :=
  (badRequest message).withDetails fields.toJson

def paramErrors (entries : List Json) : ApiError :=
  { status := 400, code := "PARAM_ERRORS", message := "Invalid request parameters"
    details := some (.array entries) }

def unsupportedContentType (received : String) (accepted : List String) : ApiError :=
  { status := 400, code := "UNSUPPORTED_CONTENT_TYPE"
    message := "Unsupported content type '" ++ received ++ "'; accepted: "
      ++ String.intercalate ", " accepted
    details := some (.object [("accepted", .array (accepted.map .string))]) }

def fileUploadNotConfigured : ApiError :=
  { status := 400, code := "FILE_UPLOAD_NOT_CONFIGURED"
    message := "File uploads are not accepted by this endpoint" }

def unauthorized (message : String) : ApiError := { status := 401, code := "UNAUTHORIZED", message }

def forbidden (message : String) : ApiError := { status := 403, code := "FORBIDDEN", message }

def notFound (message : String) : ApiError := { status := 404, code := "NOT_FOUND", message }

def conflict (message : String) : ApiError := { status := 409, code := "CONFLICT", message }

def payloadTooLarge (message : String) : ApiError :=
  { status := 413, code := "PAYLOAD_TOO_LARGE", message }

def unprocessableEntity (message : String) (fields : FieldErrors) : ApiError :=
  { status := 422, code := "UNPROCESSABLE_ENTITY", message, details := some fields.toJson }

def tooManyRequests (message : String) : ApiError :=
  { status := 429, code := "TOO_MANY_REQUESTS", message }

def internal (message : String) : ApiError :=
  { status := 500, code := "INTERNAL_SERVER_ERROR", message }

def requestTimeout (message : String) : ApiError :=
  { status := 503, code := "REQUEST_TIMEOUT", message }

/-- The body of an error response (`to_json`). -/
def toJson (e : ApiError) : Json :=
  .ofPairs <| [("statusCode", .nat e.status), ("errorCode", .string e.code),
    ("message", .string e.message)] ++ (e.details.map fun d => ("details", d)).toList

end ApiError
end RestKit
