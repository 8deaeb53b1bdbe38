import RestKit.Grouped
import RestKit.Http.Pairs
import RestKit.Json.Reader
import RestKit.Schema.Compile
/-!
# Forms as values

A form holds texts. `Form.toValue` reads each declared field as its kind and gives an object;
undeclared fields stay texts.
-/
namespace RestKit.Body
open Schema

/-- The form of an url-encoded text (`parse_urlencoded`). -/
def formOfBytes (bytes : List UInt8) : Form := Grouped.ofPairs (Http.pairsOf bytes)

/-- A text read as a JSON value. -/
def readJson (what raw : String) : Except String (Option Json) :=
  match Json.read raw with
  | .ok v => .ok (some v)
  | .error f => .error ("must be " ++ what ++ ": " ++ f.message)

/-- One text read as a kind (`coerce_one`). A blank text is no value, unless a string is wanted. -/
def coerceOne (kind : Kind) (raw : String) : Except String (Option Json) :=
  let text := Text.trim raw
  let want (what : String) : Option Json → Except String (Option Json)
    | some v => .ok (some v)
    | none => .error ("must be " ++ what)
  match kind.base with
  | .string => .ok (some (.string raw))
  | base =>
    if text.isEmpty then .ok none
    else match base with
      | .int => want "a valid integer" ((Numeral.int64? text).map .int)
      | .float => want "a valid number"
          (((Numeral.double? text).filter Double.isFinite).map fun x => .number (.double x))
      | .bool =>
        let s := Text.asciiLower text
        want "a boolean (true, false, 1 or 0)"
          (if s == "true" || s == "1" then some (.bool true)
           else if s == "false" || s == "0" then some (.bool false)
           else none)
      | _ => readJson "valid JSON" raw

/-- The values of a list field, without the blank ones. -/
def coerceItems (kind : Kind) : List String → Except String (List Json)
  | [] => .ok []
  | raw :: rest => do
    let v ← coerceOne kind raw
    return v.toList ++ (← coerceItems kind rest)

/-- The texts of a field read as its kind (`coerce`). A list takes all of them, or a single JSON
array; any other kind takes the last. -/
def coerceField (kind : Kind) (raws : List String) : Except String (Option Json) :=
  match kind.base, raws with
  | .list e, [raw] =>
    if Text.startsWith '[' (Text.trimStart raw) then readJson "a JSON array" raw
    else (coerceItems e [raw]).map fun xs => some (.array xs)
  | .list e, raws => (coerceItems e raws).map fun xs => some (.array xs)
  | _, raws =>
    match raws.getLast? with
    | some raw => coerceOne kind raw
    | none => .ok none

/-- The value of an undeclared field: a text, or a list of texts when it is repeated. -/
def undeclared : List String → Json
  | [raw] => .string raw
  | raws => .array (raws.map .string)

/-- The value of one field of a form. -/
def fieldValue (schema : TypeSchema) (name : String) (raws : List String) :
    Except String (Option Json) :=
  if raws.isEmpty then .ok none
  else match schema.field? name with
    | some f => coerceField f.kind raws
    | none => .ok (some (undeclared raws))

/-- The message of a field that cannot be read as its kind. -/
def fieldFault? (schema : TypeSchema) (field : String × List String) : Option (String × String) :=
  match fieldValue schema field.1 field.2 with
  | .error message => some (field.1, message)
  | .ok _ => none

/-- A field that has a value, with the value. -/
def fieldPair? (schema : TypeSchema) (field : String × List String) : Option (String × Json) :=
  match fieldValue schema field.1 field.2 with
  | .ok (some v) => some (field.1, v)
  | _ => none

/-- The object of a form, or the messages of all fields that cannot be read (`form_to_value`). -/
def formValue (schema : TypeSchema) (form : Form) : Except FieldErrors Json :=
  let faults := form.filterMap (fieldFault? schema)
  if faults.isEmpty then .ok (.object (form.filterMap (fieldPair? schema))) else .error faults

end RestKit.Body
