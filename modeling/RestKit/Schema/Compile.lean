import RestKit.Api.Error
import RestKit.Schema.Operator
import RestKit.Schema.Rule
/-!
# Compiled schemas

A type declares its fields by `FieldRule`s, whose tags are texts; `TypeSchema.compile` resolves
them. A `Family` holds the declarations of types that may refer to each other and to themselves, so
a struct's schema is compiled when a value reaches it.
-/
namespace RestKit.Schema

/-- One declared field (`FieldRule`). -/
structure FieldRule where
  name : String
  kind : Kind
  normalize : Option String := none
  sanitize : Option String := none
  validate : Option String := none
deriving DecidableEq, Repr

/-- Mark a field as optional, once (`optional`). -/
def FieldRule.optional (f : FieldRule) : FieldRule :=
  if f.kind.isOptional then f else { f with kind := .optional f.kind }

/-- Why a schema is refused (`SchemaError`). -/
inductive SchemaError where
  | unknownOperator (type field : String) (stage : Stage) (operator : String)
  | diveNotAllowed (type field : String)
  | notAString (type field : String) (stage : Stage)
  | invalidValidateTag (type field : String) (cause : TagError)
  | duplicateField (type field : String)
deriving DecidableEq, Repr

def SchemaError.message : SchemaError → String
  | .unknownOperator type field stage op =>
    type ++ "." ++ field ++ ": unknown " ++ stage.name ++ " operator '" ++ op ++ "'"
  | .diveNotAllowed type field =>
    type ++ "." ++ field ++ ": 'dive' is only valid on struct, list or map fields"
  | .notAString type field stage =>
    type ++ "." ++ field ++ ": " ++ stage.name
      ++ " operators apply to string fields, use 'dive' for collections"
  | .invalidValidateTag type field cause =>
    type ++ "." ++ field ++ ": invalid validate tag: " ++ cause.message
  | .duplicateField type field => type ++ ": field '" ++ field ++ "' is declared twice"

/-- The name of the cause. -/
def SchemaError.cause : SchemaError → String
  | .unknownOperator .. => "UnknownOperator"
  | .diveNotAllowed .. => "DiveNotAllowed"
  | .notAString .. => "NotAString"
  | .invalidValidateTag .. => "InvalidValidateTag"
  | .duplicateField .. => "DuplicateField"

def SchemaError.toJson (e : SchemaError) : Json := .ofError e.cause e.message

/-- A broken schema is no fault of the client. -/
def SchemaError.toApi (_ : SchemaError) : ApiError :=
  .internal "Request body schema is misconfigured"

/-- A field with its tags compiled (`FieldSchema`). -/
structure FieldSchema where
  name : String
  kind : Kind
  normalize : Option Chain
  sanitize : Option Chain
  validate : Option RuleSet

def FieldSchema.chain (f : FieldSchema) : Stage → Option Chain
  | .normalize => f.normalize
  | .sanitize => f.sanitize

/-- The compiled fields of a type (`TypeSchema`). -/
structure TypeSchema where
  name : String
  fields : List FieldSchema

namespace TypeSchema

def field? (s : TypeSchema) (name : String) : Option FieldSchema := s.fields.find? (·.name == name)

/-- Whether some field has operators for a stage, or dives in it (`has_operators`). -/
def hasOperators (s : TypeSchema) (stage : Stage) : Bool :=
  s.fields.any fun f => (f.chain stage).isSome

def hasValidateTags (s : TypeSchema) : Bool := s.fields.any fun f => f.validate.isSome

/-- The operators that a tag names. -/
def resolveAll (r : Registry) (type field : String) (stage : Stage) :
    List String → Except SchemaError (List TextOperator)
  | [] => .ok []
  | name :: rest =>
    match r.find? stage name with
    | none => .error (.unknownOperator type field stage name)
    | some op => do return op :: (← resolveAll r type field stage rest)

/-- The chain of a field's tag for a stage; a tag that names nothing has none (`compile_chain`). -/
def compileChain (r : Registry) (type : String) (f : FieldRule) (stage : Stage)
    (tag : Option String) : Except SchemaError (Option Chain) :=
  match tag with
  | none => .ok none
  | some tag => do
    let tokens := tagTokens tag
    let dive := tokens.contains "dive"
    let operators ← resolveAll r type f.name stage (tokens.filter (· != "dive"))
    if dive && !f.kind.canDive then throw (.diveNotAllowed type f.name)
    if !dive && !operators.isEmpty && !f.kind.isString then throw (.notAString type f.name stage)
    return if operators.isEmpty && !dive then none else some ⟨operators, dive⟩

/-- The rules of a field's tag. -/
def compileRules (type : String) (f : FieldRule) : Except SchemaError (Option RuleSet) :=
  match f.validate with
  | none => .ok none
  | some tag =>
    match RuleSet.parse tag with
    | .error cause => .error (.invalidValidateTag type f.name cause)
    | .ok rules =>
      if rules.dive.isSome && !f.kind.isCollection then .error (.diveNotAllowed type f.name)
      else .ok (some rules)

def compileField (r : Registry) (type : String) (f : FieldRule) :
    Except SchemaError FieldSchema := do
  let normalize ← compileChain r type f .normalize f.normalize
  let sanitize ← compileChain r type f .sanitize f.sanitize
  let validate ← compileRules type f
  return { name := f.name, kind := f.kind, normalize, sanitize, validate }

/-- The fields in order; `seen` holds the names before. -/
def compileFields (r : Registry) (type : String) (seen : List String) :
    List FieldRule → Except SchemaError (List FieldSchema)
  | [] => .ok []
  | f :: fs => do
    if seen.contains f.name then throw (.duplicateField type f.name)
    let s ← compileField r type f
    return s :: (← compileFields r type (f.name :: seen) fs)

/-- The schema of a type's field rules (`TypeSchema::compile`). -/
def compile (r : Registry) (type : String) (rules : List FieldRule) :
    Except SchemaError TypeSchema := do
  return { name := type, fields := ← compileFields r type [] rules }

end TypeSchema

/-- Types by name, with the operators that their tags may use. -/
structure Family where
  registry : Registry
  types : List (String × List FieldRule)

/-- The schema of a type of the family (`resolve`). -/
def Family.schema (f : Family) (type : String) : Except SchemaError TypeSchema :=
  TypeSchema.compile f.registry type ((Json.lookup f.types type).getD [])

end RestKit.Schema
