import RestKit.Text.Blank
import RestKit.Text.Utf8
/-!
# Header fields

`Headers` holds the fields of a message in order, names in lower case and values as bytes.
`Headers.ofPairs` admits the legal ones; `text?` reads the first value of a name as text.
-/
namespace RestKit.Http

/-- Header fields in order of arrival. -/
abbrev Headers := List (String × List UInt8)

/-- Characters of a field name, and of a method: letters, digits and some marks. -/
def isTokenChar (c : Char) : Bool := c.isAlphanum || "!#$%&'*+-.^_`|~".toList.contains c

def isToken (s : String) : Bool := !s.isEmpty && s.toList.all isTokenChar

/-- Bytes of a field value: no controls but the tab. -/
def isValueByte (b : UInt8) : Bool := (32 ≤ b && b ≠ 127) || b = 9

def isVisible (b : UInt8) : Bool := (32 ≤ b && b < 127) || b = 9

namespace Headers

/-- The legal fields of some pairs, in order. -/
def ofPairs (pairs : List (String × String)) : Headers :=
  pairs.filterMap fun (name, value) =>
    let bytes := Utf8.encode value
    if isToken name && bytes.all isValueByte then some (Text.asciiLower name, bytes) else none

/-- The first value of a name, whatever the name's case. -/
def first? (h : Headers) (name : String) : Option (List UInt8) := h.lookup (Text.asciiLower name)

/-- The text of a value, if it is visible ASCII. -/
def visible? (bytes : List UInt8) : Option String :=
  if bytes.all isVisible then some (String.ofList (bytes.map fun b => Char.ofNat b.toNat)) else none

/-- The first value of a name as text. -/
def text? (h : Headers) (name : String) : Option String := (h.first? name).bind visible?

end Headers
end RestKit.Http
