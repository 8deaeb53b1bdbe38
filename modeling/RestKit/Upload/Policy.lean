import RestKit.Http.MediaType
import RestKit.Json.Basic
/-!
# Upload policies

Which files an endpoint takes: sizes, types and counts, for the endpoint and for single fields.
`Policy.cap` gives the size that bounds a file, the most specific rule first.
-/
namespace RestKit.Upload

/-- The extension as rules name it: trimmed, without leading dots, in lower case
(`normalize_extension`). -/
def normalExtension (s : String) : String :=
  Text.asciiLower (String.ofList ((Text.trimChars s.toList).dropWhile (· = '.')))

/-- The base name of a file name, behind the last slash of either kind. -/
def baseName (cs : List Char) : List Char :=
  (cs.reverse.takeWhile fun c => c ≠ '/' && c ≠ '\\').reverse

/-- The extension of a file name in lower case, without the dot (`extension_of`). A name that only
starts or ends with a dot has none. -/
def extensionOf (fileName : String) : Option String :=
  let base := baseName fileName.toList
  let ext := (base.reverse.takeWhile (· ≠ '.')).reverse
  let stem := base.length - ext.length
  if ext.isEmpty || stem < 2 then none else some (Text.asciiLower (String.ofList ext))

/-- Size limits by normal extension; of two for one extension the later counts. -/
def limitsByType (limits : List (String × Nat)) : List (String × Nat) :=
  Json.entriesOf (limits.map fun (ext, n) => (normalExtension ext, n))

/-- The rules of one file field; a zero sets no bound of its own (`FileFieldConfig`). -/
structure FieldPolicy where
  required : Bool := false
  maxFileSize : Nat := 0
  /-- Extensions; none at all allows any. -/
  allowedTypes : List String := []
  maxFiles : Nat := 0
  typeSizeLimits : List (String × Nat) := []
deriving DecidableEq, Repr

/-- Whether files of an extension may be sent in the field (`allows`). -/
def FieldPolicy.allows (f : FieldPolicy) (extension : String) : Bool :=
  f.allowedTypes.isEmpty || f.allowedTypes.contains extension

/-- Which files an endpoint takes, and where they go (`UploadConfig`). -/
structure Policy where
  /-- Bytes for each file; zero is unbounded. -/
  maxFileSize : Nat := 0
  typeSizeLimits : List (String × Nat) := []
  /-- Rules by field; without any, every field may carry files. -/
  fields : List (String × FieldPolicy) := []
  uploadPath : String := "uploads"
  tempPath : String := "temp"
  /-- Whether files outlive the response. -/
  keepFiles : Bool := false
deriving DecidableEq, Repr

namespace Policy

def field? (p : Policy) (name : String) : Option FieldPolicy := Json.lookup p.fields name

/-- Where new files are written (`destination`). -/
def destination (p : Policy) : String := if p.keepFiles then p.uploadPath else p.tempPath

/-- The cap that a field sets for a type. -/
def fieldCap? (p : Policy) (field extension : String) : Option Nat :=
  (p.field? field).bind fun f =>
    (Json.lookup f.typeSizeLimits extension).or
      (if f.maxFileSize > 0 then some f.maxFileSize else none)

/-- The cap of a file: the field's for the type, the field's, the endpoint's for the type, the
endpoint's (`effective_cap`). -/
def cap (p : Policy) (field extension : String) : Nat :=
  ((p.fieldCap? field extension).or (Json.lookup p.typeSizeLimits extension)).getD p.maxFileSize

end Policy
end RestKit.Upload
