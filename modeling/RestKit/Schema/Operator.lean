import RestKit.Html.Sanitize
import RestKit.Text.Letter
/-!
# Text operators

Named functions on strings that the `normalize` and `sanitize` tags of a field list. A `Registry`
holds them by stage and name; a name is bound once and never again.
-/
namespace RestKit.Schema

/-- The two stages that change strings (`OperatorKind`). -/
inductive Stage where
  | normalize
  | sanitize
deriving DecidableEq, Repr

def Stage.name : Stage → String
  | .normalize => "normalize"
  | .sanitize => "sanitize"

/-- A named function on strings; it may refuse one, with a message (`NamedOperator`). -/
structure TextOperator where
  name : String
  apply : String → Except String String

/-- Operators by stage (`Registry`). -/
structure Registry where
  operators : List (Stage × TextOperator)

def total (name : String) (f : String → String) : TextOperator := ⟨name, fun s => .ok (f s)⟩

/-- The letters and digits of a text. -/
def alphanumericOnly (s : String) : String :=
  String.ofList (s.toList.filter fun c => Text.isLetter c || Text.isDecimalDigit c)

/-- The digits of a text. -/
def digitsOnly (s : String) : String := String.ofList (s.toList.filter Text.isDecimalDigit)

namespace Registry

/-- The operators that are always there (`builtins`). -/
def builtin : Registry :=
  ⟨[(.normalize, total "trim" Text.trim), (.normalize, total "lowercase" Text.lowercase),
    (.normalize, total "uppercase" Text.uppercase),
    (.normalize, total "unaccent" Text.withoutMarks),
    (.normalize, total "unicode" Text.nfc), (.sanitize, total "html" Html.sanitize),
    (.sanitize, total "alphanumeric" alphanumericOnly), (.sanitize, total "numeric" digitsOnly)]⟩

/-- The operator of a stage with a name (`lookup`). -/
def find? (r : Registry) (stage : Stage) (name : String) : Option TextOperator :=
  (r.operators.find? fun (s, op) => s == stage && op.name == name).map (·.2)

end Registry

/-- Why an operator is not registered (`OperatorError`). -/
inductive RegisterError where
  | alreadyRegistered (stage : Stage) (name : String)
  | invalidName (name : String)
deriving DecidableEq, Repr

def RegisterError.message : RegisterError → String
  | .alreadyRegistered stage name =>
    stage.name ++ " operator '" ++ name ++ "' is already registered"
  | .invalidName name => "invalid operator name '" ++ name ++ "'"

/-- Bind an operator (`register`). Its name is trimmed; it may be neither empty nor `dive`, and
holds no comma. -/
def Registry.register (r : Registry) (stage : Stage) (op : TextOperator) :
    Except RegisterError Registry :=
  let name := Text.trim op.name
  if name.isEmpty || name == "dive" || name.toList.contains ',' then .error (.invalidName name)
  else if (r.find? stage name).isSome then .error (.alreadyRegistered stage name)
  else .ok ⟨r.operators ++ [(stage, { op with name })]⟩

/-- A list of operators from a tag, in order (`OperatorChain`). With `dive` they apply to the
elements. -/
structure Chain where
  operators : List TextOperator
  dive : Bool

/-- Apply the operators in order; the first refusal ends it (`OperatorChain::apply`). -/
def Chain.apply (c : Chain) (s : String) : Except String String :=
  c.operators.foldlM (fun s op => op.apply s) s

end RestKit.Schema
