import RestKit.Schema.Compile
/-!
# Descriptions of schemas

A compiled schema as a JSON document, for tools that show what an application takes.
-/
namespace RestKit.Schema

/-- A kind with the properties that decide which tags it takes. -/
def Kind.toJson (k : Kind) : Json :=
  .ofPairs [("debug", .string k.text), ("optional", .bool k.isOptional),
    ("string", .bool k.isString),
    ("numeric", .bool k.isNumeric), ("collection", .bool k.isCollection), ("dive", .bool k.canDive),
    ("element", .ofOption (fun e => .string e.text) k.element?)]

def Chain.toJson (c : Chain) : Json :=
  .ofPairs [("ops", .array (c.operators.map fun o => .string o.name)), ("dive", .bool c.dive)]

def Rule.toJson (r : Rule) : Json := .array [.string r.name.name, .ofOption .string r.param]

/-- Rules, and the rules of elements below them. -/
def RuleSet.toJson : RuleSet → Json
  | { rules, dive } =>
    let dive : Json := match dive with
      | some inner => inner.toJson
      | none => .null
    .ofPairs [("rules", .array (rules.map Rule.toJson)), ("dive", dive)]

/-- A field with its place in the schema. -/
def FieldSchema.toJson (f : FieldSchema) (index : Nat) : Json :=
  .ofPairs [("index", .nat index), ("name", .string f.name), ("kind", f.kind.toJson),
    ("normalize", .ofOption Chain.toJson f.normalize),
    ("sanitize", .ofOption Chain.toJson f.sanitize),
    ("validate", .ofOption RuleSet.toJson f.validate)]

def TypeSchema.toJson (s : TypeSchema) : Json :=
  .ofPairs [("name", .string s.name), ("has_validate_tags", .bool s.hasValidateTags),
    ("normalizes", .bool (s.hasOperators .normalize)),
    ("sanitizes", .bool (s.hasOperators .sanitize)),
    ("fields", .array (s.fields.mapIdx fun n f => f.toJson n))]

end RestKit.Schema
