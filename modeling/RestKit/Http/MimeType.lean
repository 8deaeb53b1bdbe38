import RestKit.Http.Header
/-!
# Content types with parameters

`MimeType.parse?` reads a content type by its grammar: a type, a subtype, and parameters that are
tokens or quoted texts. The type, the names and a charset are in lower case.
-/
namespace RestKit.Http

structure MimeType where
  /-- The type and the subtype. -/
  essence : String
  /-- The written form. -/
  text : String
  params : List (String × String)
deriving DecidableEq, Repr

namespace MimeType

/-- Characters that a quoted value may hold. -/
def isQuotedChar (c : Char) : Bool := 31 < c.toNat && c.toNat ≠ 127

def lowerChars (cs : List Char) : List Char := cs.map Char.toLower

/-- A parameter's name in front of `=`, and what follows. It has at least one character. -/
def paramName (cs : List Char) : Option (List Char × List Char) :=
  match cs.takeWhile isTokenChar, cs.dropWhile isTokenChar with
  | [], _ => none
  | name, '=' :: rest => some (name, rest)
  | _, _ => none

/-- A quoted value: it ends at the first quote that is not its first character. -/
def quotedValue : List Char → Option (List Char × List Char)
  | [] => none
  | c :: rest =>
    if isQuotedChar c then
      match (rest.dropWhile fun c => c ≠ '"') with
      | '"' :: behind =>
        let more := rest.takeWhile fun c => c ≠ '"'
        if more.all isQuotedChar then some (c :: more, behind) else none
      | _ => none
    else none

/-- What may follow a quoted value: blanks, then a semicolon or the end. The blanks and the
semicolon are given back with the rest. -/
def afterQuoted (cs : List Char) : Option (List Char × List Char) :=
  let blanks := cs.takeWhile (· = ' ')
  match cs.dropWhile (· = ' ') with
  | [] => some (blanks, [])
  | ';' :: rest => some (blanks ++ [';'], rest)
  | _ => none

/-- A value with its written form and the rest. A token value may be empty only at the end. -/
def paramValue (cs : List Char) : Option (List Char × List Char × List Char) :=
  match cs with
  | '"' :: rest => do
    let (value, rest) ← quotedValue rest
    let (tail, rest) ← afterQuoted rest
    return (value, ['"'] ++ value ++ ['"'] ++ tail, rest)
  | cs =>
    let value := cs.takeWhile isTokenChar
    match cs.dropWhile isTokenChar with
    | [] => some (value, value, [])
    | ';' :: rest => if value.isEmpty then none else some (value, value ++ [';'], rest)
    | _ => none

/-- The parameters behind a semicolon, with their written forms. -/
def readParams : Nat → List Char → Option (List (String × String) × List Char)
  | 0, _ => none
  | _ + 1, [] => some ([], [])
  | fuel + 1, ' ' :: cs => do
    let (ps, text) ← readParams fuel cs
    return (ps, ' ' :: text)
  | fuel + 1, cs => do
    let (name, rest) ← paramName cs
    let (value, written, rest) ← paramValue rest
    let (ps, text) ← readParams fuel rest
    let name := lowerChars name
    let isCharset := String.ofList name == "charset"
    let value := if isCharset then lowerChars value else value
    let written := if isCharset then lowerChars written else written
    return ((String.ofList name, String.ofList value) :: ps, name ++ ['='] ++ written ++ text)

/-- The subtype, and what follows its semicolon; it does not start with one. -/
def subtype (cs : List Char) : Option (List Char × Option (List Char)) :=
  let name := cs.takeWhile isTokenChar
  match cs.dropWhile isTokenChar with
  | [] => some (name, none)
  | ';' :: rest => if name.isEmpty then none else some (name, some rest)
  | _ => none

def parse? (s : String) : Option MimeType := do
  let cs := s.toList
  let type := cs.takeWhile isTokenChar
  match cs.dropWhile isTokenChar with
  | '/' :: rest =>
    if type.isEmpty then none
    else
      let (sub, tail) ← subtype rest
      let essence := lowerChars (type ++ ['/'] ++ sub)
      match tail with
      | none => some ⟨String.ofList essence, String.ofList essence, []⟩
      | some tail =>
        let (ps, text) ← readParams (tail.length + 1) tail
        let text := if ps.isEmpty then essence else essence ++ [';'] ++ text
        some ⟨String.ofList essence, String.ofList text, ps⟩
  | _ => none

/-- The first parameter of a name. -/
def param? (m : MimeType) (name : String) : Option String := m.params.lookup name

end MimeType
end RestKit.Http
