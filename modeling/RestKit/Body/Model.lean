import RestKit.Body.Form
import RestKit.Endpoint.Context
import RestKit.Schema.Transform
/-!
# Body models

A `Model` is the type of a request body: the shape that it is read as, the schema of its fields, and
a hook for each stage. A body is bound and then processed: normalized, sanitized and validated, in
this order. Collections of bodies are processed element by element.
-/
namespace RestKit.Body
open Schema

/-- What a hook leaves of a stage: the value, and whether the stage is done. -/
structure Hooked where
  value : Json
  handled : Bool
deriving DecidableEq, Repr

/-- A type that bodies are bound to, with its hooks (`BodyModel`). -/
structure Model where
  /-- The type's name in its family. -/
  type : String
  family : Family
  shape : Json.Shape
  /-- May change the value; does a stage in place of the schema's operators when it handles it. -/
  normalize : Context → Json → Except ApiError Hooked := fun _ v => .ok ⟨v, false⟩
  sanitize : Context → Json → Except ApiError Hooked := fun _ v => .ok ⟨v, false⟩
  /-- Does the validation in place of the schema's rules when it gives true. -/
  validate : Context → Json → Except ApiError Bool := fun _ _ => .ok false
  /-- The value as the stages see it; none if it cannot be written. -/
  write : Json → Option Json := some

/-- A body type: a model, or a collection of bodies. -/
inductive BodyType where
  | model (m : Model)
  | list (element : BodyType)
  | map (element : BodyType)

/-- The bytes or the form that a body is bound from (`BodySource`). -/
inductive Source where
  | json (bytes : List UInt8)
  | form (form : Form)

namespace Model

def schema (m : Model) : Except ApiError TypeSchema :=
  (m.family.schema m.type).mapError SchemaError.toApi

/-- The value as the stages see it (`to_value`). -/
def written (m : Model) (v : Json) : Except ApiError Json :=
  match m.write v with
  | some j => .ok j
  | none => .error (.internal "Failed to process request body")

end Model

/-! ## Binding -/

/-- The error of a body that cannot be read (`body_error`). -/
def bodyError (message cause : String) : ApiError := .invalidRequest message [("body", cause)]

/-- Read a value as a shape (`from_value`). -/
def fitBody (shape : Json.Shape) (v : Json) : Except ApiError Json :=
  (shape.fit v).mapError fun m =>
    bodyError "Request body does not match the expected shape" m.message

def isBlankByte (b : UInt8) : Bool := b = 32 || b = 9 || b = 10 || b = 12 || b = 13

/-- Read a JSON text as a shape (`bind_json`). -/
def bindJson (shape : Json.Shape) (bytes : List UInt8) : Except ApiError Json :=
  if bytes.all isBlankByte then .error (.badRequest "Request body is empty")
  else (Json.readAs shape bytes).mapError fun f => bodyError "Invalid JSON body" f.message

namespace BodyType

def shape : BodyType → Json.Shape
  | .model m => m.shape
  | .list t => .list t.shape
  | .map t => .dict t.shape

/-- The name by which a handler asks for the body. -/
def name : BodyType → String
  | .model m => m.type
  | .list t => "list of " ++ t.name
  | .map t => "map of " ++ t.name

/-- The schema that a form is read by; a collection declares no fields. -/
def schema : BodyType → Except ApiError TypeSchema
  | .model m => m.schema
  | t => .ok { name := t.name, fields := [] }

/-- Read a body from its source (`bind`). -/
def bind (t : BodyType) : Source → Except ApiError Json
  | .json bytes => bindJson t.shape bytes
  | .form form => do
    let schema ← t.schema
    let v ← (formValue schema form).mapError fun es => .invalidRequest "Invalid form data" es
    fitBody t.shape v

end BodyType

/-! ## Stages -/

/-- A value after a stage. A stage that fails has done its work on the elements before. -/
structure Staged where
  value : Json
  error : Option ApiError := none

/-- The outcome of a stage that either gives a value or leaves it. -/
def Staged.of (before : Json) : Except ApiError Json → Staged
  | .ok v => ⟨v, none⟩
  | .error e => ⟨before, some e⟩

def failureMessage : Stage → String
  | .normalize => "Normalization failed"
  | .sanitize => "Sanitization failed"

namespace Model

def hook (m : Model) : Stage → Context → Json → Except ApiError Hooked
  | .normalize => m.normalize
  | .sanitize => m.sanitize

/-- Run the schema's operators over a value (`apply_operators`). -/
def transform (m : Model) (stage : Stage) (v : Json) : Except ApiError Json := do
  let schema ← m.schema
  if !schema.hasOperators stage then return v
  let j ← m.written v
  let (w, messages) ← (transformObject m.family stage schema "" j).mapError SchemaError.toApi
  if messages.isEmpty then fitBody m.shape w
  else throw (.invalidRequest (failureMessage stage) messages)

/-- Normalize or sanitize a value, by the hook or by the operators (`normalize`, `sanitize`). -/
def run (m : Model) (stage : Stage) (ctx : Context) (v : Json) : Except ApiError Json := do
  let h ← m.hook stage ctx v
  if h.handled then return h.value
  m.transform stage h.value

/-- Validate a value, by the hook or by the rules (`validate`). -/
def check (m : Model) (ctx : Context) (v : Json) : Except ApiError Unit := do
  if ← m.validate ctx v then return ()
  let schema ← m.schema
  if !schema.hasValidateTags then return ()
  let j ← m.written v
  let messages ← (checkObject m.family schema "" j).mapError SchemaError.toApi
  if !messages.isEmpty then throw (.invalidRequest "Validation failed" messages)

end Model

/-- Run a stage over the items of a list until one fails. -/
def runItems (f : Json → Staged) : List Json → List Json × Option ApiError
  | [] => ([], none)
  | x :: xs =>
    match f x with
    | ⟨y, some e⟩ => (y :: xs, some e)
    | ⟨y, none⟩ =>
      let (ys, e) := runItems f xs
      (y :: ys, e)

namespace BodyType

/-- Normalize or sanitize a body. -/
def run (stage : Stage) (ctx : Context) : BodyType → Json → Staged
  | .model m, v => .of v (m.run stage ctx v)
  | .list t, .array xs =>
    let (ys, e) := runItems (t.run stage ctx) xs
    ⟨.array ys, e⟩
  | .map t, .object es =>
    let (ys, e) := runItems (t.run stage ctx) (es.map (·.2))
    ⟨.object (List.zip (es.map (·.1)) ys), e⟩
  | _, v => ⟨v, none⟩

/-- Validate a body. -/
def check (ctx : Context) : BodyType → Json → Except ApiError Unit
  | .model m, v => m.check ctx v
  | .list t, .array xs => xs.forM (t.check ctx)
  | .map t, .object es => (es.map (·.2)).forM (t.check ctx)
  | _, _ => .ok ()

/-- Normalize, sanitize and validate; the first failure ends it (`process`). -/
def process (t : BodyType) (ctx : Context) (v : Json) : Except ApiError Json := do
  let n := t.run .normalize ctx v
  if let some e := n.error then throw e
  let s := t.run .sanitize ctx n.value
  if let some e := s.error then throw e
  t.check ctx s.value
  return s.value

/-- Bind a body from its source and process it (`bind_and_process`). -/
def receive (t : BodyType) (ctx : Context) (source : Source) : Except ApiError ParsedBody := do
  let v ← t.bind source
  return ⟨t.name, ← t.process ctx v⟩

end BodyType
end RestKit.Body
