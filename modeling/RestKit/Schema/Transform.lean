import RestKit.Schema.Check
/-!
# Transforming values

`transformObject` runs the operators of a stage over a value: chains on string fields, chains with
`dive` on the elements of lists and maps, and the chains of a struct's own schema behind `dive`.
Nothing but strings changes; an operator that refuses a string leaves it and gives a message.
-/
namespace RestKit.Schema

/-- A value after a stage, with the messages of the operators that refused. -/
abbrev Transformed := Except SchemaError (Json × FieldErrors)

/-- A value that a stage leaves alone. -/
def untouched (v : Json) : Transformed := .ok (v, [])

/-- Run a chain on a string (`OperatorChain::apply`). -/
def transformText (chain : Chain) (path s : String) : Transformed :=
  match chain.apply s with
  | .ok t => .ok (.string t, [])
  | .error message => .ok (.string s, [(path, message)])

/-- The object of its entries' outcomes, with the messages in the order of the schema's fields. -/
def assemble (schema : TypeSchema) (outcomes : List (String × Transformed)) : Transformed := do
  let messages ← schema.fields.mapM fun f =>
    match Json.lookup outcomes f.name with
    | some r => r.map (·.2)
    | none => .ok []
  let entries ← outcomes.mapM fun (k, r) => r.map fun (v, _) => (k, v)
  return (.object entries, messages.flatten)

/-- A value behind `dive` that is no object: a struct's schema has to compile all the same. -/
def passBy (fam : Family) (kind : Kind) (v : Json) : Transformed :=
  match kind.base with
  | .struct type => do let _ ← fam.schema type; untouched v
  | _ => untouched v

mutual
/-- Run a field's chain on its value. -/
def transformField (fam : Family) (stage : Stage) (kind : Kind) (chain : Chain) (path : String) :
    Json → Transformed
  | .string s => if chain.dive then passBy fam kind (.string s) else transformText chain path s
  | .array xs =>
    if chain.dive then
      match kind.element? with
      | some e => do
        let (ys, es) ← transformItems fam stage e chain path 0 xs
        return (.array ys, es)
      | none => passBy fam kind (.array xs)
    else untouched (.array xs)
  | .object es =>
    if chain.dive then
      match kind.base with
      | .list e | .map e => do
        let (fs, messages) ← transformEntries fam stage e chain path es
        return (.object fs, messages)
      | .struct type => do
        let schema ← fam.schema type
        assemble schema (transformFields fam stage schema path es)
      | _ => untouched (.object es)
    else untouched (.object es)
  | v => if chain.dive then passBy fam kind v else untouched v

/-- Run a chain on an element of a list or a map (`apply_to_element`). -/
def transformElement (fam : Family) (stage : Stage) (kind : Kind) (chain : Chain) (path : String) :
    Json → Transformed
  | .string s => if kind.isString then transformText chain path s else untouched (.string s)
  | .object es =>
    match kind.base with
    | .struct type => do
      let schema ← fam.schema type
      assemble schema (transformFields fam stage schema path es)
    | _ => untouched (.object es)
  | v => untouched v

def transformItems (fam : Family) (stage : Stage) (kind : Kind) (chain : Chain) (path : String)
    (i : Nat) : List Json → Except SchemaError (List Json × FieldErrors)
  | [] => .ok ([], [])
  | x :: xs => do
    let (y, es) ← transformElement fam stage kind chain (itemPath path i) x
    let (ys, more) ← transformItems fam stage kind chain path (i + 1) xs
    return (y :: ys, es ++ more)

def transformEntries (fam : Family) (stage : Stage) (kind : Kind) (chain : Chain) (path : String) :
    List (String × Json) → Except SchemaError (List (String × Json) × FieldErrors)
  | [] => .ok ([], [])
  | (k, x) :: xs => do
    let (y, es) ← transformElement fam stage kind chain (joinPath path k) x
    let (ys, more) ← transformEntries fam stage kind chain path xs
    return ((k, y) :: ys, es ++ more)

/-- The outcomes of an object's entries; those without a chain stay as they are. -/
def transformFields (fam : Family) (stage : Stage) (schema : TypeSchema) (path : String) :
    List (String × Json) → List (String × Transformed)
  | [] => []
  | (k, x) :: xs =>
    let rest := transformFields fam stage schema path xs
    match (schema.field? k).bind fun f => (f.chain stage).map fun c => (f.kind, c) with
    | some (kind, chain) => (k, transformField fam stage kind chain (joinPath path k) x) :: rest
    | none => (k, untouched x) :: rest
end

/-- Run a stage over a value by a schema (`apply_to_object`). A value that is no object stays as it
is. -/
def transformObject (fam : Family) (stage : Stage) (schema : TypeSchema) (path : String)
    (value : Json) : Transformed :=
  match value with
  | .object es => assemble schema (transformFields fam stage schema path es)
  | v => untouched v

end RestKit.Schema
