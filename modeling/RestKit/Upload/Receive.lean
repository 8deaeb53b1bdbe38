import RestKit.Http.Multipart
import RestKit.Upload.Error
import RestKit.Upload.File
import RestKit.Upload.Policy
import RestKit.Upload.Storage
/-!
# Receiving uploads

`receive` walks the parts of a multipart body: files go to the storage piece by piece, the size
checked before each piece, and other parts become form values. When it fails, all files that it
created are removed. `scanForm` is for endpoints that take no files.
-/
namespace RestKit.Upload

/-- What has been received so far. -/
structure Progress where
  files : Files := []
  form : Form := []
  /-- The bytes of form values. -/
  formBytes : Nat := 0
  /-- The files that were created. -/
  created : List String := []
  storage : Storage

/-- The outcome of a step, with the progress it has made. -/
abbrev Step := Except Error Unit × Progress

/-- Go on with a step unless the one before has failed. -/
def Step.next (s : Step) (f : Progress → Step) : Step :=
  match s with
  | (.ok (), p) => f p
  | (.error e, p) => (.error e, p)

/-- The size of the pieces that files are written in (`COPY_BUFFER_SIZE`). -/
def pieceSize : Nat := 32768

/-- The pieces of some bytes. -/
def pieces (bytes : List UInt8) : List (List UInt8) :=
  if _h : bytes.length ≤ pieceSize then (if bytes.isEmpty then [] else [bytes])
  else bytes.take pieceSize :: pieces (bytes.drop pieceSize)
termination_by bytes.length
decreasing_by simp [List.length_drop, pieceSize] at *; omega

/-- The failure behind a part's content. -/
def contentFault (part : Http.Part) : Except Error Unit :=
  match part.fault with
  | some f => .error (.multipart f.message)
  | none => .ok ()

/-! ## Form values -/

/-- Count the bytes of a part's chunks against the limit, where zero is no limit. -/
def countChunks (limit total : Nat) : List (List UInt8) → Except Error Nat
  | [] => .ok total
  | c :: cs =>
    let total := total + c.length
    if limit > 0 && total > limit then .error (.formTooLarge limit) else countChunks limit total cs

/-- The text of a part that is no file, with the bytes counted so far (`read_scalar`). -/
def readText (limit total : Nat) (part : Http.Part) : Except Error (String × Nat) := do
  let total ← countChunks limit total part.chunks
  contentFault part
  match Utf8.decode? part.chunks.flatten with
  | some s => return (s, total)
  | none => throw (.multipart "form field is not valid UTF-8")

/-- Take a part as a form value. -/
def takeText (limit : Nat) (part : Http.Part) (p : Progress) : Step :=
  match readText limit p.formBytes part with
  | .error e => (.error e, p)
  | .ok (s, total) =>
    (.ok (), { p with form := Grouped.add p.form (part.name.getD "") s, formBytes := total })

/-! ## Files -/

def storageFault : Error := .storage "operation failed"

/-- Write pieces of a file; `size` is what has been written before. -/
def writePieces (field path : String) (cap : Nat) (size : Nat) (p : Progress) :
    List (List UInt8) → Except Error Nat × Progress
  | [] => (.ok size, p)
  | piece :: rest =>
    let size := size + piece.length
    if cap > 0 && size > cap then (.error (.tooLarge field cap), p)
    else match p.storage.append path piece with
      | (false, s) => (.error storageFault, { p with storage := s })
      | (true, s) => writePieces field path cap size { p with storage := s } rest

/-- Whether a field takes a file of an extension. -/
def admitFile (policy : Policy) (field extension : String) : Except Error Unit :=
  match policy.field? field with
  | some f =>
    if f.allows extension then .ok ()
    else .error (.typeNotAllowed field extension f.allowedTypes)
  | none => if policy.fields.isEmpty then .ok () else .error (.unexpectedField field)

/-- Write a part's content to a new file and put the file on the list. -/
def storeFile (policy : Policy) (field clientName extension : String) (part : Http.Part)
    (p : Progress) : Step :=
  let (name, s) := p.storage.freshName
  let storedName := name.text ++ "." ++ extension
  let path := joined policy.destination storedName
  match s.create path with
  | (false, s) => (.error storageFault, { p with storage := s })
  | (true, s) =>
    let p := { p with storage := s, created := p.created ++ [path] }
    match writePieces field path (policy.cap field extension) 0 p (part.chunks.flatMap pieces) with
    | (.error e, p) => (.error e, p)
    | (.ok size, p) =>
      match contentFault part with
      | .error e => (.error e, p)
      | .ok () =>
        match p.storage.flush with
        | (false, s) => (.error storageFault, { p with storage := s })
        | (true, s) =>
          let file : File := {
            fieldName := field, clientName, storedName, size, extension
            mimeType := part.contentType.getD "application/octet-stream"
            path, temporary := !policy.keepFiles }
          (.ok (), { p with storage := s, files := Grouped.add p.files field file })

/-- Take a part as a file. -/
def takeFile (policy : Policy) (clientName : String) (part : Http.Part) (p : Progress) : Step :=
  let field := part.name.getD ""
  match extensionOf clientName with
  | none => (.error (.missingExtension field clientName), p)
  | some extension =>
    match admitFile policy field extension with
    | .error e => (.error e, p)
    | .ok () => storeFile policy field clientName extension part p

/-- The file name of a part that is a file; an empty one does not count. -/
def fileName? (part : Http.Part) : Option String := part.fileName.filter fun n => !n.isEmpty

def takePart (policy : Policy) (limit : Nat) (p : Progress) (part : Http.Part) : Step :=
  match fileName? part with
  | some clientName => takeFile policy clientName part p
  | none => takeText limit part p

def takeParts (policy : Policy) (limit : Nat) (p : Progress) : List Http.Part → Step
  | [] => (.ok (), p)
  | part :: rest => (takePart policy limit p part).next fun p => takeParts policy limit p rest

/-- Whether the fields have as many files as they need and may have. -/
def checkCounts (files : Files) : List (String × FieldPolicy) → Except Error Unit
  | [] => .ok ()
  | (field, f) :: rest =>
    let count := (Grouped.get files field).length
    if f.required && count = 0 then .error (.missingRequired field)
    else if f.maxFiles > 0 && count > f.maxFiles then .error (.tooManyFiles field f.maxFiles)
    else checkCounts files rest

/-- The failure behind the parts. -/
def streamFault (body : Http.Multipart) : Except Error Unit :=
  match body.fault with
  | some f => .error (.multipart f.message)
  | none => .ok ()

/-- Receive all parts and check the counts. -/
def receiveAll (policy : Policy) (limit : Nat) (body : Http.Multipart) (s : Storage) : Step :=
  (takeParts policy limit { storage := s } body.parts).next fun p =>
    (do streamFault body; checkCounts p.files policy.fields, p)

/-- Receive a multipart body: its files and its form values (`receive`). -/
def receive (policy : Policy) (limit : Nat) (body : Http.Multipart) (s : Storage) :
    Except Error (Files × Form) × Storage :=
  match receiveAll policy limit body s with
  | (.ok (), p) => (.ok (p.files, p.form), p.storage)
  | (.error e, p) => (.error e, p.storage.removeAll p.created)

/-! ## Forms without files -/

def scanParts (limit : Nat) (p : Progress) : List Http.Part → Step
  | [] => (.ok (), p)
  | part :: rest =>
    if (fileName? part).isSome then (.error .notConfigured, p)
    else (takeText limit part p).next fun p => scanParts limit p rest

/-- The form values of a body that may hold no files (`scan_form_fields`). -/
def scanForm (limit : Nat) (body : Http.Multipart) : Except Error Form :=
  match (scanParts limit { storage := {} } body.parts).next fun p => (streamFault body, p) with
  | (.ok (), p) => .ok p.form
  | (.error e, _) => .error e

end RestKit.Upload
