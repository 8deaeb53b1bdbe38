import RestKit.Grouped
/-!
# Uploaded files

What is known of a stored upload: its names, size, types and place.
-/
namespace RestKit.Upload

/-- A stored file (`UploadedFile`). -/
structure File where
  fieldName : String
  /-- The name that the client gave. -/
  clientName : String
  storedName : String
  size : Nat
  extension : String
  mimeType : String
  path : String
  /-- Whether the file is removed once the response has been sent. -/
  temporary : Bool
deriving DecidableEq, Repr

def File.toJson (f : File) : Json :=
  .ofPairs [("fieldName", .string f.fieldName), ("originalName", .string f.clientName),
    ("storedName", .string f.storedName), ("size", .nat f.size), ("extension", .string f.extension),
    ("mimeType", .string f.mimeType), ("path", .string f.path),
    ("tempPath", if f.temporary then .string f.path else .null)]

/-- Uploaded files by field (`UploadedFiles`). -/
abbrev Files := Grouped File

def Files.toJson (fs : Files) : Json :=
  .object (fs.map fun (k, vs) => (k, .array (vs.map File.toJson)))

end RestKit.Upload
