import RestKit.Body.Model
import RestKit.Body.Violation
import RestKit.Net.Email
import RestKit.Sample.Operators
/-!
# Sample models

Body models as an application declares them: by tags alone, by hooks, and by both. `untyped` is the
model of a type known by its field rules only, which takes any value as it is.
-/
namespace RestKit.Sample
open Schema Body

/-- A family of one type. -/
def alone (type : String) (rules : List FieldRule) : Family :=
  { registry, types := [(type, rules)] }

/-- A type of a family that takes any value. -/
def untyped (family : Family) (type : String) : Model := { type, family, shape := .any }

/-- The value of a field; every value of a record's shape has it. -/
def field (v : Json) (name : String) : Json := (v.get? name).getD .null

def textOf (v : Json) (name : String) : String := (field v name).string?.getD ""

def intOf (v : Json) (name : String) : Int := (field v name).int64?.getD 0

def signup : Model where
  type := "SignUp"
  family := alone "SignUp" [
    { name := "name", kind := .string, normalize := some "trim,lowercase",
      validate := some "min=2" },
    { name := "email", kind := .string, sanitize := some "html", validate := some "email" },
    { name := "age", kind := .int, validate := some "gte=0,lte=150" },
    { name := "username", kind := .string, sanitize := some "alphanumeric",
      validate := some "min=3" }]
  shape := .record "SignUp" [("name", .text, none), ("email", .text, none), ("age", .int64, none),
    ("username", .text, none)]

def profile : Model where
  type := "Profile"
  family := alone "Profile" [
    { name := "name", kind := .string, validate := some "required" },
    { name := "age", kind := .optional .int },
    { name := "active", kind := .bool },
    { name := "tags", kind := .list .string, normalize := some "dive,trim" },
    { name := "address", kind := .optional .json },
    { name := "scores", kind := .map .float }]
  shape := .record "Profile" [("name", .text, none), ("age", .option .nat8, none),
    ("active", .boolean, none), ("tags", .list .text, some (.array [])),
    ("address", .option .any, none), ("scores", .dict .double, some (.object []))]

/-- Two bounds in order, checked by the model itself. -/
def range : Model where
  type := "Range"
  family := alone "Range" []
  shape := .record "Range" [("from", .int64, none), ("to", .int64, none)]
  validate := fun _ v =>
    if intOf v "from" > intOf v "to" then
      .error (.invalidRequest "Validation failed" [("from", "must not be after 'to'")])
    else .ok true

/-- The violations of a login's own rules, by field. -/
def loginViolations (v : Json) : List (String × Report) :=
  let email :=
    if Net.isEmail (textOf v "email") then []
    else [("email", Report.found [⟨"email", none, []⟩])]
  let length := (textOf v "password").length
  let password :=
    if 8 ≤ length && length ≤ 12 then []
    else [("password", Report.found [⟨"length", none, [("min", .int 8), ("max", .int 12)]⟩])]
  let n := intOf v "level"
  let level :=
    if 1 ≤ n && n ≤ 5 then []
    else [("level", Report.found [⟨"range", none, [("min", .int 1), ("max", .int 5)]⟩])]
  email ++ password ++ level

/-- A model whose hooks stand in for its tags. -/
def login : Model where
  type := "Login"
  family := alone "Login" [
    { name := "email", kind := .string, normalize := some "uppercase", sanitize := some "numeric"
      validate := some "numeric" }]
  shape := .record "Login" [("email", .text, none), ("password", .text, none),
    ("level", .int64, none)]
  normalize := fun _ v =>
    match v with
    | .object es =>
      .ok ⟨.object (Json.insert es "email" (.string (Text.trim (textOf v "email")))), true⟩
    | _ => .ok ⟨v, false⟩
  sanitize := fun _ v =>
    if textOf v "email" == "forbidden@x.io" then .error (.forbidden "blocked") else .ok ⟨v, true⟩
  validate := fun _ v =>
    let violations := loginViolations v
    if violations.isEmpty then .ok true else .error (violationError violations)

/-- A model that cannot always be written. -/
def fragile : Model where
  type := "Fragile"
  family := alone "Fragile" [{ name := "name", kind := .string, normalize := some "trim" }]
  shape := .record "Fragile" [("name", .text, none), ("broken", .boolean, none)]
  write := fun v => if field v "broken" = .bool true then none else some v

/-- The sample model of a name. -/
def model? (name : String) : Option Model :=
  match name with
  | "signup" => some signup
  | "profile" => some profile
  | "range" => some range
  | "login" => some login
  | "fragile" => some fragile
  | _ => none

end RestKit.Sample
