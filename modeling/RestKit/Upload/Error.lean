import RestKit.Api.Error
/-!
# Upload errors

Why a multipart body is refused. Errors about a field name it in their details.
-/
namespace RestKit.Upload

/-- Why an upload is refused (`UploadError`). -/
inductive Error where
  | tooLarge (field : String) (limit : Nat)
  | formTooLarge (limit : Nat)
  | missingExtension (field fileName : String)
  | typeNotAllowed (field extension : String) (allowed : List String)
  | unexpectedField (field : String)
  | missingRequired (field : String)
  | tooManyFiles (field : String) (max : Nat)
  | notConfigured
  | multipart (cause : String)
  | storage (cause : String)
deriving DecidableEq, Repr

namespace Error

/-- The field that an error is about (`field`). -/
def field? : Error → Option String
  | .tooLarge field _ | .missingExtension field _ | .typeNotAllowed field _ _
  | .unexpectedField field
  | .missingRequired field | .tooManyFiles field _ => some field
  | _ => none

def message : Error → String
  | .tooLarge field limit =>
    "file in field '" ++ field ++ "' exceeds the maximum size of " ++ toString limit ++ " bytes"
  | .formTooLarge limit =>
    "form fields exceed the in-memory limit of " ++ toString limit ++ " bytes"
  | .missingExtension field fileName =>
    "file '" ++ fileName ++ "' in field '" ++ field ++ "' has no extension"
  | .typeNotAllowed field extension allowed =>
    "file type '." ++ extension ++ "' is not allowed for field '" ++ field ++ "'; allowed: "
      ++ String.intercalate ", " allowed
  | .unexpectedField field => "field '" ++ field ++ "' does not accept files"
  | .missingRequired field => "field '" ++ field ++ "' requires a file"
  | .tooManyFiles field max =>
    "field '" ++ field ++ "' accepts at most " ++ toString max ++ " file(s)"
  | .notConfigured => "this endpoint does not accept file uploads"
  | .multipart cause => "malformed multipart body: " ++ cause
  | .storage cause => "upload storage error: " ++ cause

/-- The name of the cause. -/
def cause : Error → String
  | .tooLarge .. => "TooLarge"
  | .formTooLarge _ => "FormTooLarge"
  | .missingExtension .. => "MissingExtension"
  | .typeNotAllowed .. => "TypeNotAllowed"
  | .unexpectedField _ => "UnexpectedField"
  | .missingRequired _ => "MissingRequired"
  | .tooManyFiles .. => "TooManyFiles"
  | .notConfigured => "NotConfigured"
  | .multipart _ => "Multipart"
  | .storage _ => "Io"

def toJson (e : Error) : Json := .ofError e.cause e.message

/-- How clients see an error. What fails in the storage is not shown. -/
def toApi (e : Error) : ApiError :=
  match e with
  | .tooLarge field limit =>
    (ApiError.payloadTooLarge ("File in field '" ++ field ++ "' exceeds the maximum size of "
      ++ toString limit ++ " bytes")).withDetails
      (.object [("field", .string field), ("limit", .nat limit)])
  | .formTooLarge limit =>
    .payloadTooLarge ("Form fields exceed the limit of " ++ toString limit ++ " bytes")
  | .storage _ => .internal "Failed to store uploaded file"
  | .notConfigured => .fileUploadNotConfigured
  | e =>
    match e.field? with
    | some field => .invalidRequest e.message [(field, e.message)]
    | none => .badRequest e.message

end Error
end RestKit.Upload
