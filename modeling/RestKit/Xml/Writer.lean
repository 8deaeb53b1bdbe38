import RestKit.Json.Basic
import RestKit.Xml.Name
/-!
# JSON values as XML

`document` writes a value as an element. The entries of an object are its children, but an entry
whose key starts with `@` is an attribute, `$text` is the element's text and `$value` its bare
content. A list repeats its element, and nested lists are flattened. A value has no XML when a key
is no name, or when an attribute or a text holds an object.
-/
namespace RestKit.Xml

/-- A character of text; the five marks are escaped. -/
def escapeChar (c : Char) : List Char :=
  if c = '<' then "&lt;".toList
  else if c = '>' then "&gt;".toList
  else if c = '&' then "&amp;".toList
  else if c = '\'' then "&apos;".toList
  else if c = '"' then "&quot;".toList
  else [c]

def escape (s : String) : String := String.ofList (s.toList.flatMap escapeChar)

/-- A character of a list's item; blanks, which part the items, are escaped too. -/
def escapeItemChar (c : Char) : List Char :=
  if c = ' ' || c = '\t' || c = '\n' || c = '\r' then ("&#" ++ toString c.toNat ++ ";").toList
  else escapeChar c

def escapeItem (s : String) : String := String.ofList (s.toList.flatMap escapeItemChar)

/-- The text of a number: a double has no exponent. -/
def numberText : Number → String
  | .int n => toString n
  | .double x => x.plain

/-- An item of a list in a simple text. -/
def itemText? : Json → Option String
  | .bool b => some (toString b)
  | .number n => some (numberText n)
  | .string s => some (escapeItem s)
  | _ => none

/-- The text of an attribute, or of an element's text: a scalar, or items parted by blanks. -/
def simpleText? : Json → Option String
  | .null => some ""
  | .bool b => some (toString b)
  | .number n => some (numberText n)
  | .string s => some (escape s)
  | .array xs => do
    let items ← xs.mapM itemText?
    return String.intercalate " " (items.filter fun s => !s.isEmpty)
  | .object _ => none

def emptyElement (name : String) : String := "<" ++ name ++ "/>"

def element (name content : String) : String := "<" ++ name ++ ">" ++ content ++ "</" ++ name ++ ">"

/-- The name of an attribute that a key stands for. -/
def attribute? (key : String) : Option String :=
  match key.toList with
  | '@' :: name => some (String.ofList name)
  | _ => none

mutual
/-- The bare content of a value: no element around it. -/
def bare? : Json → Option String
  | .null => some ""
  | .bool b => some (toString b)
  | .number n => some (numberText n)
  | .string s => some (escape s)
  | .array xs => bareItems? xs
  | .object _ => none

def bareItems? : List Json → Option String
  | [] => some ""
  | x :: xs => do return (← bare? x) ++ (← bareItems? xs)
end

mutual
/-- A value as an element. -/
def element? (name : String) : Json → Option String
  | .null => some (emptyElement name)
  | .bool b => some (element name (toString b))
  | .number n => some (element name (numberText n))
  | .string s => some (if s.isEmpty then emptyElement name else element name (escape s))
  | .array xs => elements? name xs
  | .object es => do
    let (attributes, children) ← entries? es
    if children.isEmpty then return "<" ++ name ++ attributes ++ "/>"
    else return "<" ++ name ++ attributes ++ ">" ++ children ++ "</" ++ name ++ ">"

/-- The items of a list as elements of one name. -/
def elements? (name : String) : List Json → Option String
  | [] => some ""
  | x :: xs => do return (← element? name x) ++ (← elements? name xs)

/-- The attributes and the children that entries stand for. -/
def entries? : List (String × Json) → Option (String × String)
  | [] => some ("", "")
  | (key, v) :: rest => do
    let (front, child) ← partOf? key v
    let (attributes, children) ← entries? rest
    return (front ++ attributes, child ++ children)

/-- The attribute or the child that one entry stands for. -/
def partOf? (key : String) (v : Json) : Option (String × String) :=
  match attribute? key with
  | some name =>
    if isName name then
      (simpleText? v).map fun s => (" " ++ name ++ "=\"" ++ s ++ "\"", "")
    else none
  | none =>
    if key == "$text" then (simpleText? v).map fun s => ("", s)
    else if key == "$value" then (bare? v).map fun s => ("", s)
    else if isName key then (element? key v).map fun s => ("", s)
    else none
end

/-- A value as a document with a root element. -/
def document (root : String) (v : Json) : Option String := element? root v

end RestKit.Xml
