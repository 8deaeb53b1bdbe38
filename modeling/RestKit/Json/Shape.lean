import RestKit.Json.Fault
/-!
# Shapes

A `Shape` is the type that a value is read as: a record with named fields, a list, a bounded
integer. `Shape.fit` reads a value as a shape and gives its canonical form, in which a record holds
exactly its own fields, absent ones at their defaults, and a double field holds a double.
-/
namespace RestKit.Json

inductive Shape where
  | any
  | text
  | boolean
  | int64
  | nat8
  | double
  | choice (names : List String)
  | option (s : Shape)
  | list (s : Shape)
  | dict (s : Shape)
  /-- A record. A field whose default is `none` has to be given, unless it is an option. -/
  | record (name : String) (fields : List (String × Shape × Option Json))
deriving Repr

namespace Shape

/-- What messages call the shape. -/
def expected : Shape → String
  | .any => "any value"
  | .text => "a string"
  | .boolean => "a boolean"
  | .int64 => "i64"
  | .nat8 => "u8"
  | .double => "f64"
  | .choice _ => "variant identifier"
  | .option _ => "option"
  | .list _ => "a sequence"
  | .dict _ => "a map"
  | .record name _ => "struct " ++ name

/-- What messages call a record read from a list. -/
def expectedElements (name : String) (count : Nat) : String :=
  "struct " ++ name ++ " with " ++ toString count ++ (if count = 1 then " element" else " elements")

/-- A number read as an integer between bounds. -/
def fitInt (s : Shape) (min max : Int) : Number → Except Mismatch Json
  | .int n =>
    if min ≤ n ∧ n ≤ max then .ok (.number (.int n))
    else .error (.value (.number (.int n)) s.expected)
  | x => .error (.type (.number x) s.expected)

/-- A number read as a numeric shape. -/
def fitNumber (s : Shape) (n : Number) : Except Mismatch Json :=
  match s with
  | .any => .ok (.number n)
  | .int64 => fitInt s (-9223372036854775808) 9223372036854775807 n
  | .nat8 => fitInt s 0 255 n
  | .double => .ok (.number (.double n.toDouble))
  | s => .error (.type (.number n) s.expected)

/-- A string read as one of a choice of names. -/
def fitChoice (names : List String) (s : String) : Except Mismatch Json :=
  if names.contains s then .ok (.string s) else .error (.variant s names)

/-- The value of a field that is absent. -/
def absent (name : String) (s : Shape) (default : Option Json) : Except Mismatch Json :=
  match default, s with
  | some v, _ => .ok v
  | none, .option _ => .ok .null
  | none, _ => .error (.missing name)

/-- The values of the fields in declared order: those given, and the absent ones. -/
def complete (fields : List (String × Shape × Option Json)) (given : List (String × Json)) :
    Except Mismatch (List (String × Json)) :=
  fields.mapM fun (name, s, default) =>
    match lookup given name with
    | some v => .ok (name, v)
    | none => (absent name s default).map fun v => (name, v)

/-- A shape without its option layers. -/
def peel : Shape → Shape
  | .option s => peel s
  | s => s

def isOption : Shape → Bool
  | .option _ => true
  | _ => false

/-- The fields that a list is too short to give: all of them need a default. -/
def trailing (name : String) (count index : Nat) :
    List (String × Shape × Option Json) → Except Mismatch (List (String × Json))
  | [] => .ok []
  | (field, _, some v) :: fields => do
    return (field, v) :: (← trailing name count (index + 1) fields)
  | (_, _, none) :: _ => .error (.length index (expectedElements name count))

mutual
/-- Read a value as a shape. -/
def fit (s : Shape) : Json → Except Mismatch Json
  | .null => if s.isOption then .ok .null else match s with
    | .any => .ok .null
    | s => .error (.type .null s.expected)
  | .bool b => match s.peel with
    | .any | .boolean => .ok (.bool b)
    | s => .error (.type (.boolean b) s.expected)
  | .number n => fitNumber s.peel n
  | .string t => match s.peel with
    | .any | .text => .ok (.string t)
    | .choice names => fitChoice names t
    | s => .error (.type (.string t) s.expected)
  | .array xs => match s.peel with
    | .any => .ok (.array xs)
    | .list s => (fitItems s xs).map .array
    | .record name fields => do
      let given ← fitElements name fields.length 0 fields xs
      if fields.length < xs.length then .error (.length xs.length "fewer elements in array")
      else .ok (ofPairs given)
    | s => .error (.type .sequence s.expected)
  | .object es => match s.peel with
    | .any => .ok (.object es)
    | .dict s => (fitEntries s es).map .object
    | .record _ fields => do
      let given ← fitFields fields es
      (complete fields given).map ofPairs
    | s => .error (.type .map s.expected)

def fitItems (s : Shape) : List Json → Except Mismatch (List Json)
  | [] => .ok []
  | x :: xs => do
    let x ← fit s x
    return x :: (← fitItems s xs)

def fitEntries (s : Shape) : List (String × Json) → Except Mismatch (List (String × Json))
  | [] => .ok []
  | (k, x) :: xs => do
    let x ← fit s x
    return (k, x) :: (← fitEntries s xs)

/-- The fields of a record from the items of a list, in declared order. -/
def fitElements (name : String) (count index : Nat) (fields : List (String × Shape × Option Json)) :
    List Json → Except Mismatch (List (String × Json))
  | [] => trailing name count index fields
  | x :: xs =>
    match fields with
    | [] => .ok []
    | (field, s, _) :: fields => do
      let x ← fit s x
      return (field, x) :: (← fitElements name count (index + 1) fields xs)

/-- The given fields of a record from the entries of an object, in key order. -/
def fitFields (fields : List (String × Shape × Option Json)) :
    List (String × Json) → Except Mismatch (List (String × Json))
  | [] => .ok []
  | (k, x) :: es =>
    match lookup fields k with
    | some (s, _) => do
      let x ← fit s x
      return (k, x) :: (← fitFields fields es)
    | none => fitFields fields es
end

end Shape
end RestKit.Json
