import RestKit.Query.Where
import RestKit.Text.Blank
/-!
# Orders

The order of results: fields with a direction. An order is written as a text such as
`"name ASC, age DESC"`, as a list of such texts, or as an object from fields to directions;
`render` writes the list form.
-/
namespace RestKit.Query

inductive Direction where
  | asc
  | desc
deriving DecidableEq, Repr

namespace Direction

def name : Direction → String
  | .asc => "ASC"
  | .desc => "DESC"

/-- The number that stands for the direction in a sort document. -/
def sign : Direction → Int
  | .asc => 1
  | .desc => -1

def parse (word : String) : Except QueryError Direction :=
  if Text.sameIgnoringCase word "asc" then .ok .asc
  else if Text.sameIgnoringCase word "desc" then .ok .desc
  else .error (.orderWord word)

end Direction

structure OrderEntry where
  field : String
  direction : Direction
deriving DecidableEq, Repr

namespace OrderEntry

/-- `field DIRECTION`. -/
def text (e : OrderEntry) : String := e.field ++ " " ++ e.direction.name

/-- One part of an order text: a field and perhaps a direction (`parse_order_string`). -/
def parsePart (part : String) : Except QueryError OrderEntry :=
  match Text.words part with
  | [] => .error .orderEmpty
  | field :: rest => do
    rejectDollar field
    match rest with
    | [] => return ⟨field, .asc⟩
    | word :: rest => do
      let direction ← Direction.parse word
      match rest with
      | [] => return ⟨field, direction⟩
      | extra :: _ => .error (.orderExtra extra (Text.trim part))

end OrderEntry

namespace Order

/-- The entries of an order text, which commas part; blank parts are passed over. -/
def parseText (s : String) : Except QueryError (List OrderEntry) :=
  ((Text.splitOn ',' s).filter fun part => !Text.isBlankText part).mapM OrderEntry.parsePart

/-- The entries of a list of order texts. -/
def parseTexts : List Json → Except QueryError (List OrderEntry)
  | [] => .ok []
  | .string s :: rest => do
    let es ← parseText s
    return es ++ (← parseTexts rest)
  | found :: _ => .error (.orderElement found)

/-- The entries of an object from fields to directions, in key order. -/
def parseEntries (es : List (String × Json)) : Except QueryError (List OrderEntry) :=
  es.mapM fun (k, v) => do
    rejectDollar k
    match v with
    | .string s => return ⟨k, ← Direction.parse s⟩
    | _ => .error (.orderDirection k)

/-- The entries of an order in any of its forms (`validate_and_parse`). -/
def parse : Json → Except QueryError (List OrderEntry)
  | .null => .ok []
  | .string s => parseText s
  | .array xs => parseTexts xs
  | .object es => parseEntries es
  | found => .error (.orderUnsupported found)

/-- The list form of an order (`FilterOrder::render`). -/
def render (es : List OrderEntry) : Json := .array (es.map fun e => .string e.text)

end Order
end RestKit.Query
