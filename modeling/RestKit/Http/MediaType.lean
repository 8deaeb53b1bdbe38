import RestKit.Text.Blank
/-!
# Media types

The essence of a content type is its type without parameters. `admits` compares a received type
with an accepted one.
-/
namespace RestKit.Http

def jsonType : String := "application/json"
def formType : String := "application/x-www-form-urlencoded"
def multipartType : String := "multipart/form-data"

/-- The type in front of the first semicolon, trimmed and in lower case (`essence`). -/
def essence (contentType : String) : String :=
  Text.asciiLower (Text.trim (String.ofList (contentType.toList.takeWhile (· ≠ ';'))))

def hasPrefix (front s : String) : Bool := front.toList.isPrefixOf s.toList

def hasSuffix (back s : String) : Bool := back.toList.isSuffixOf s.toList

/-- Whether an accepted type admits a received one (`matches`). Multipart admits all that starts
with it, and JSON the application types that end in `+json`. -/
def admits (accepted received : String) : Bool :=
  let r := essence received
  let a := essence accepted
  if r.isEmpty then false
  else if a == multipartType then hasPrefix multipartType r
  else if a == jsonType then r == jsonType || (hasPrefix "application/" r && hasSuffix "+json" r)
  else r == a

end RestKit.Http
