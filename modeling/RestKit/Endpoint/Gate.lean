import RestKit.Endpoint.Basic
import RestKit.Http.MediaType
/-!
# The content-type gate

The gate decides whether a request's body is admitted, and how it is read.
-/
namespace RestKit

/-- How an admitted body is read (`BodyKind`). -/
inductive BodyKind where
  | json
  | form
  | multipart
deriving DecidableEq, Repr

/-- How a body of an admitted type is read: what is neither multipart nor a form is JSON
(`classify`). -/
def BodyKind.ofType (contentType : String) : BodyKind :=
  let received := Http.essence contentType
  if Http.hasPrefix Http.multipartType received then .multipart
  else if received == Http.formType then .form
  else .json

namespace Endpoint

/-- The accepted content types: the declared ones, or those of uploads, or those of a body
(`accepted_types`). -/
def acceptedTypes {σ : Type} (e : Endpoint σ) : List String :=
  if !e.contentTypes.isEmpty then e.contentTypes
  else if e.upload.isSome then [Http.multipartType]
  else if e.body.isSome then [Http.jsonType, Http.formType]
  else []

/-- Whether an endpoint reads the bodies of its requests. -/
def takesBody {σ : Type} (e : Endpoint σ) : Bool :=
  readsBody e.info.method && (e.body.isSome || e.upload.isSome)

/-- Admit a body by its content type (`gate`). An endpoint that accepts forms but no uploads admits
multipart forms too. -/
def gate {σ : Type} (e : Endpoint σ) (headers : Http.Headers) :
    Except ApiError (Option BodyKind) :=
  if !e.takesBody then .ok none
  else
    let received := (headers.text? "content-type").getD ""
    let accepts (type : String) : Bool := e.acceptedTypes.any fun a => Http.admits a type
    if accepts received then .ok (some (.ofType received))
    else if e.upload.isNone && accepts Http.formType && Http.admits Http.multipartType received then
      .ok (some .multipart)
    else .error (.unsupportedContentType received e.acceptedTypes)

end Endpoint
end RestKit
