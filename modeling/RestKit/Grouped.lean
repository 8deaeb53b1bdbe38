import RestKit.Json.Basic
/-!
# Values by name

`Grouped` holds the values of repeated names: the names in key order, each name's values in order
of arrival. Form values and uploaded files are held so.
-/
namespace RestKit

/-- Values by name, each name's in order of arrival. -/
abbrev Grouped (α : Type) := List (String × List α)

namespace Grouped

/-- Add a value behind the others of its name. -/
def add {α : Type} (g : Grouped α) (name : String) (x : α) : Grouped α :=
  Json.insert g name ((Json.lookup g name).getD [] ++ [x])

def get {α : Type} (g : Grouped α) (name : String) : List α := (Json.lookup g name).getD []

/-- Group pairs by name. -/
def ofPairs {α : Type} (pairs : List (String × α)) : Grouped α :=
  pairs.foldl (fun g (name, x) => add g name x) []

/-- The values of all names, in the order of names. -/
def all {α : Type} (g : Grouped α) : List α := g.flatMap (·.2)

end Grouped

/-- Form values by name. -/
abbrev Form := Grouped String

def Form.toJson (f : Form) : Json := .object (f.map fun (k, vs) => (k, .array (vs.map .string)))

end RestKit
