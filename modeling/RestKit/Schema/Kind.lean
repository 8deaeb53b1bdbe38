/-!
# Field kinds

The shape of a field's value as a schema declares it. A struct is named; its fields are found in
the family of types.
-/
namespace RestKit.Schema

/-- What a field holds (`FieldKind`). -/
inductive Kind where
  | string
  | int
  | float
  | bool
  | json
  | list (element : Kind)
  | map (element : Kind)
  | struct (type : String)
  | optional (kind : Kind)
deriving DecidableEq, Repr, Inhabited

namespace Kind

/-- The kind without its optional layers (`base`). -/
def base : Kind → Kind
  | .optional k => k.base
  | k => k

def isOptional : Kind → Bool
  | .optional _ => true
  | _ => false

def isString (k : Kind) : Bool := k.base == .string

def isNumeric (k : Kind) : Bool := k.base == .int || k.base == .float

/-- Lists and maps are measured by the number of elements (`is_collection`). -/
def isCollection (k : Kind) : Bool :=
  match k.base with
  | .list _ | .map _ => true
  | _ => false

/-- Has elements or fields to go into (`can_dive`). -/
def canDive (k : Kind) : Bool :=
  match k.base with
  | .list _ | .map _ | .struct _ => true
  | _ => false

/-- The kind of a collection's elements (`element`). -/
def element? (k : Kind) : Option Kind :=
  match k.base with
  | .list e | .map e => some e
  | _ => none

/-- The kind as a type expression. -/
def text : Kind → String
  | .string => "String"
  | .int => "Int"
  | .float => "Float"
  | .bool => "Bool"
  | .json => "Json"
  | .list k => "List<" ++ k.text ++ ">"
  | .map k => "Map<" ++ k.text ++ ">"
  | .struct name => "Struct<" ++ name ++ ">"
  | .optional k => "Option<" ++ k.text ++ ">"

end Kind
end RestKit.Schema
