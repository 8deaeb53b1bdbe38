import RestKit.Schema.Compile
/-!
# Compiled schemas that are kept

A type's schema is compiled when it is first asked for and kept from then on. Calls may compile one
type side by side; each offers what it has compiled, and the first offer stays.
-/
namespace RestKit.Schema

/-- The kept schemas by type. -/
abbrev Memo := List (String × TypeSchema)

namespace Memo

/-- Offer the schema of a type. Gives the one that stays. -/
def offer (m : Memo) (type : String) (schema : TypeSchema) : TypeSchema × Memo :=
  match Json.lookup m type with
  | some kept => (kept, m)
  | none => (schema, m ++ [(type, schema)])

/-- The schema of a type: the kept one, else it is compiled and offered (`schema_for`). A refusal is
not kept. -/
def schema (m : Memo) (fam : Family) (type : String) : Except SchemaError (TypeSchema × Memo) :=
  match Json.lookup m type with
  | some kept => .ok (kept, m)
  | none => do return m.offer type (← fam.schema type)

end Memo
end RestKit.Schema
