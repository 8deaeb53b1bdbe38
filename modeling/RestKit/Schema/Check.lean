import RestKit.Schema.Compile
/-!
# Validating values

`checkObject` gives one message for each field of a value that fails its rules, at any depth. A
field that fails is not looked into; elements are checked by the rules behind `dive`, and structs by
the schema of their type.
-/
namespace RestKit.Schema

/-- The path of a name inside another path (`join`). -/
def joinPath (path name : String) : String := if path.isEmpty then name else path ++ "." ++ name

def itemPath (path : String) (i : Nat) : String := path ++ "[" ++ toString i ++ "]"

/-- The outcome of a field that has none: it is checked as null. -/
def checkMissing (path : String) (f : FieldSchema) : FieldErrors :=
  match f.validate.bind fun s => s.check f.kind .null with
  | some message => [(joinPath path f.name, message)]
  | none => []

/-- The outcomes of a schema's fields, in declared order. -/
def gather (schema : TypeSchema) (path : String)
    (outcomes : List (String × Except SchemaError FieldErrors)) :
    Except SchemaError FieldErrors := do
  let all ← schema.fields.mapM fun f =>
    match Json.lookup outcomes f.name with
    | some r => r
    | none => .ok (checkMissing path f)
  return all.flatten

mutual
/-- The messages of a value with a kind and rules of its own. -/
def checkValue (fam : Family) (kind : Kind) (rules : Option RuleSet) (path : String) :
    Json → Except SchemaError FieldErrors
  | .array xs =>
    match rules with
    | none => .ok []
    | some s =>
      match s.check kind (.array xs), s.dive, kind.element? with
      | some message, _, _ => .ok [(path, message)]
      | none, some d, some e => checkItems fam e d path 0 xs
      | none, _, _ => .ok []
  | .object es =>
    match rules.bind fun s => s.check kind (.object es) with
    | some message => .ok [(path, message)]
    | none => do
      let elements ← match rules.bind (·.dive), kind.element? with
        | some d, some e => checkEntries fam e d path es
        | _, _ => pure []
      let nested ← match kind.base with
        | .struct type => do
          let schema ← fam.schema type
          if schema.hasValidateTags then gather schema path (checkFields fam schema path es)
          else pure []
        | _ => pure []
      return elements ++ nested
  | v =>
    match rules.bind fun s => s.check kind v with
    | some message => .ok [(path, message)]
    | none => .ok []

/-- The messages of a list's items from an index on (`validate_elements`). -/
def checkItems (fam : Family) (kind : Kind) (rules : RuleSet) (path : String) (i : Nat) :
    List Json → Except SchemaError FieldErrors
  | [] => .ok []
  | x :: xs => do
    let es ← checkValue fam kind (some rules) (itemPath path i) x
    return es ++ (← checkItems fam kind rules path (i + 1) xs)

/-- The messages of a map's values. -/
def checkEntries (fam : Family) (kind : Kind) (rules : RuleSet) (path : String) :
    List (String × Json) → Except SchemaError FieldErrors
  | [] => .ok []
  | (k, x) :: xs => do
    let es ← checkValue fam kind (some rules) (joinPath path k) x
    return es ++ (← checkEntries fam kind rules path xs)

/-- The outcomes of the declared fields that an object has. -/
def checkFields (fam : Family) (schema : TypeSchema) (path : String) :
    List (String × Json) → List (String × Except SchemaError FieldErrors)
  | [] => []
  | (k, x) :: xs =>
    let rest := checkFields fam schema path xs
    match schema.field? k with
    | some f => (k, checkValue fam f.kind f.validate (joinPath path k) x) :: rest
    | none => rest
end

/-- The messages of a value against a schema (`validate_object`). A value that is no object has no
fields. -/
def checkObject (fam : Family) (schema : TypeSchema) (path : String) (value : Json) :
    Except SchemaError FieldErrors :=
  match value with
  | .object es => gather schema path (checkFields fam schema path es)
  | _ => gather schema path []

end RestKit.Schema
