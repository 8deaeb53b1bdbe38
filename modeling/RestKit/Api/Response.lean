import RestKit.Api.Error
import RestKit.Xml.Writer
/-!
# Responses

A `Response` is what goes back to the client. `render` writes a value in one of the formats, and an
`Envelope` wraps the data of a success. A value that cannot be written is given as `none`.
-/
namespace RestKit

structure Response where
  status : Nat
  contentType : Option String := none
  body : String := ""
  /-- The methods of an `Allow` header. -/
  allow : List String := []
deriving DecidableEq, Repr

namespace Response

/-- A status without a body. -/
def bare (status : Nat) : Response := { status }

def json (status : Nat) (v : Json) : Response :=
  { status, contentType := some "application/json", body := v.compact }

def text (status : Nat) (s : String) : Response :=
  { status, contentType := some "text/plain; charset=utf-8", body := s }

def html (status : Nat) (s : String) : Response :=
  { status, contentType := some "text/html; charset=utf-8", body := s }

def xml (status : Nat) (s : String) : Response :=
  { status, contentType := some "application/xml; charset=utf-8", body := s }

def noContent : Response := bare 204

end Response

/-- The response of an error (`into_response`). -/
def ApiError.respond (e : ApiError) : Response := .json e.status e.toJson

/-- The error in one line. -/
def ApiError.text (e : ApiError) : String := e.code ++ ": " ++ e.message

/-- The formats of a handler's response (`ResponseType`). -/
inductive ResponseFormat where
  | json
  | xml
  | text
  | html
  | noContent
deriving DecidableEq, Repr

/-- The error of a value that cannot be written (`serialize_error`). -/
def unwritable : ApiError := .internal "Failed to serialize response data"

def orUnwritable {α : Type} : Option α → Except ApiError α
  | some x => .ok x
  | none => .error unwritable

/-- A string as it is, anything else as its JSON text (`to_plain`). -/
def plainText : Json → String
  | .string s => s
  | v => v.compact

/-- Write a value in a format; without a status it is a success (`render`). -/
def render (value : Option Json) (format : ResponseFormat) (status : Option Nat) :
    Except ApiError Response :=
  let status := status.getD 200
  match format with
  | .json => (orUnwritable value).map (.json status)
  | .xml => (orUnwritable (value.bind (Xml.document "response"))).map (.xml status)
  | .text => (orUnwritable value).map fun v => .text status (plainText v)
  | .html => (orUnwritable value).map fun v => .html status (plainText v)
  | .noContent => .ok .noContent

/-- The data of a success, with its status (`ApiResponse`). -/
structure Envelope where
  data : Option Json
  status : Option Nat := none
deriving DecidableEq, Repr

namespace Envelope

def success (data : Option Json) : Envelope := { data }
def withStatus (data : Option Json) (status : Nat) : Envelope := { data, status := some status }
def created (data : Option Json) : Envelope := .withStatus data 201
def accepted (data : Option Json) : Envelope := .withStatus data 202

/-- The response of an envelope. One without content has no body, whatever its data. -/
def respond (e : Envelope) : Response :=
  let status := e.status.getD 200
  if status = 204 then .bare 204
  else match e.data with
    | some v => .json status (.object [("data", v), ("success", .bool true)])
    | none => unwritable.respond

end Envelope
end RestKit
