import RestKit.Http.MimeType
import RestKit.Json.Fault
/-!
# Multipart bodies

`Multipart.parse` cuts the body of a form into its parts. Parts are read one after another, so a
fault stands behind the parts before it; a fault within a part's content stands in the part.
-/
namespace RestKit.Http

/-- Why a multipart body cannot be read on. -/
inductive MultipartFault where
  | incompleteStream
  | incompleteContent (name : Option String)
  | badHeaders
  | incompleteHeaders
deriving DecidableEq, Repr

def MultipartFault.message : MultipartFault → String
  | .incompleteStream => "incomplete multipart stream"
  | .incompleteContent name =>
    "field " ++ Json.debugText (name.getD "<unknown>") ++ " received with incomplete data"
  | .badHeaders => "failed to read headers"
  | .incompleteHeaders => "failed to read field complete headers"

/-- One part. The content comes in pieces, and may end in a fault. -/
structure Part where
  name : Option String
  fileName : Option String := none
  contentType : Option String := none
  chunks : List (List UInt8)
  fault : Option MultipartFault := none
deriving DecidableEq, Repr

/-- The parts of a body, and the fault behind them. -/
structure Multipart where
  parts : List Part
  fault : Option MultipartFault := none
deriving DecidableEq, Repr

namespace Multipart

/-- The bytes in front of the first occurrence of a pattern, and the bytes behind it; `before`
holds, reversed, what has been passed. -/
def cutAt (pattern before : List UInt8) : List UInt8 → Option (List UInt8 × List UInt8)
  | [] => if pattern.isEmpty then some (before.reverse, []) else none
  | b :: bs =>
    if pattern.isPrefixOf (b :: bs) then some (before.reverse, (b :: bs).drop pattern.length)
    else cutAt pattern (b :: before) bs

def dashes : List UInt8 := [45, 45]
def newline : List UInt8 := [13, 10]

/-! ## Header lines -/

def isTokenByte (b : UInt8) : Bool := isTokenChar (Char.ofNat b.toNat)

def isBlankByte (b : UInt8) : Bool := b = 32 || b = 9

/-- The value of a line and the rest behind its end, which is a line feed with or without a
carriage return. -/
def headerValue (bytes : List UInt8) : Option (List UInt8 × List UInt8) :=
  let bytes := bytes.dropWhile isBlankByte
  let value := bytes.takeWhile isValueByte
  let trimmed := (value.reverse.dropWhile isBlankByte).reverse
  match bytes.dropWhile isValueByte with
  | 13 :: 10 :: rest | 10 :: rest => some (trimmed, rest)
  | _ => none

/-- Up to `limit` header lines, to the empty line. -/
def headerLines : Nat → List UInt8 → Except MultipartFault Headers
  | _, 13 :: 10 :: _ | _, 10 :: _ => .ok []
  | _, [] => .error .incompleteHeaders
  | 0, _ => .error .badHeaders
  | limit + 1, bytes =>
    let name := bytes.takeWhile isTokenByte
    match bytes.dropWhile isTokenByte with
    | 58 :: rest =>
      if name.isEmpty then .error .badHeaders
      else match headerValue rest with
        | none => .error .badHeaders
        | some (value, rest) => do
          let name := Text.asciiLower (String.ofList (name.map fun b => Char.ofNat b.toNat))
          return (name, value) :: (← headerLines limit rest)
    | _ => .error .badHeaders

/-- The most lines that a part's header may have. -/
def maxHeaders : Nat := 32

/-- The last value of a name. -/
def lastHeader? (headers : Headers) (name : String) : Option (List UInt8) :=
  headers.reverse.lookup name

/-! ## Content-Disposition -/

def isAsciiBlank (b : UInt8) : Bool := b = 32 || b = 9 || b = 10 || b = 12 || b = 13

/-- What follows blanks and a given byte. -/
def afterByte (b : UInt8) (bytes : List UInt8) : Option (List UInt8) :=
  match bytes.dropWhile isAsciiBlank with
  | c :: rest => if c = b then some rest else none
  | [] => none

/-- A quoted text up to the quote that no backslash precedes, and whether any was preceded. -/
def quotedBytes (before : List UInt8) (escaped : Bool) : List UInt8 → Option (List UInt8 × Bool)
  | [] => none
  | 34 :: rest =>
    match before with
    | 92 :: _ => quotedBytes (34 :: before) true rest
    | _ => some (before.reverse, escaped)
  | b :: rest => quotedBytes (b :: before) escaped rest

/-- Escaped quotes resolved. -/
def unescapeQuotes : List UInt8 → List UInt8
  | 92 :: 34 :: rest => 34 :: unescapeQuotes rest
  | b :: rest => b :: unescapeQuotes rest
  | [] => []

/-- The value behind an attribute's name: quoted, or up to a semicolon or a blank. -/
def attributeValue (bytes : List UInt8) : Option String := do
  let rest ← afterByte 61 bytes
  match afterByte 34 rest with
  | some quoted =>
    let (value, escaped) ← quotedBytes [] false quoted
    Utf8.decode? (if escaped then unescapeQuotes value else value)
  | none => Utf8.decode? ((rest.dropWhile isAsciiBlank).takeWhile fun b => b ≠ 59 && b ≠ 32)

/-- The value of an attribute: its name stands at the start, or behind a blank or a semicolon. -/
def attribute? (name : List UInt8) : Nat → List UInt8 → Option String
  | 0, _ => none
  | fuel + 1, header =>
    match cutAt name [] header with
    | none => none
    | some (before, rest) =>
      match before.getLast? with
      | none => attributeValue rest
      | some b =>
        if isAsciiBlank b || b = 59 then attributeValue rest else attribute? name fuel rest

def dispositionOf (headers : Headers) (name : String) : Option String :=
  (lastHeader? headers "content-disposition").bind fun v =>
    attribute? (Utf8.encode name) (v.length + 1) v

/-- The media type that a part declares. -/
def contentTypeOf (headers : Headers) : Option String :=
  (((lastHeader? headers "content-type").bind Headers.visible?).bind MimeType.parse?).map (·.text)

/-! ## Parts -/

/-- What stands behind a boundary. -/
inductive AfterBoundary where
  | last
  | part (headers : Headers) (rest : List UInt8)

/-- Read on from behind a boundary: two dashes end the body, a line end starts a part. -/
def afterBoundary (bytes : List UInt8) : Except MultipartFault AfterBoundary := do
  match bytes with
  | a :: b :: _ =>
    if [a, b] = dashes then return .last
    match bytes.dropWhile isBlankByte with
    | 13 :: 10 :: rest =>
      match cutAt (newline ++ newline) [] rest with
      | none => throw .incompleteStream
      | some (lines, rest) =>
        return .part (← headerLines maxHeaders (lines ++ newline ++ newline)) rest
    | _ => throw .incompleteStream
  | _ => throw .incompleteStream

/-- The parts from behind a boundary on. -/
def partsFrom (boundary : List UInt8) : Nat → List UInt8 → Multipart
  | 0, _ => ⟨[], some .incompleteStream⟩
  | fuel + 1, bytes =>
    match afterBoundary bytes with
    | .error f => ⟨[], some f⟩
    | .ok .last => ⟨[], none⟩
    | .ok (.part headers rest) =>
      let name := dispositionOf headers "name"
      let part : Part := {
        name, fileName := dispositionOf headers "filename", contentType := contentTypeOf headers
        chunks := [] }
      match cutAt (newline ++ dashes ++ boundary) [] rest with
      | none => ⟨[{ part with fault := some (.incompleteContent name) }], none⟩
      | some (content, rest) =>
        let more := partsFrom boundary fuel rest
        ⟨{ part with chunks := [content] } :: more.parts, more.fault⟩

/-- The parts of a body. What stands before the first boundary does not count. -/
def parse (boundary : String) (body : List UInt8) : Multipart :=
  let boundary := Utf8.encode boundary
  match cutAt (dashes ++ boundary) [] body with
  | none => ⟨[], some .incompleteStream⟩
  | some (_, rest) => partsFrom boundary (body.length + 1) rest

/-- The boundary that a content type declares. -/
def boundary? (headers : Headers) : Option String := do
  let m ← MimeType.parse? (← headers.text? "content-type")
  if m.essence == "multipart/form-data" then m.param? "boundary" else none

def missingBoundary : String := "Invalid `boundary` for `multipart/form-data` request"

end Multipart
end RestKit.Http
