import RestKit.Double.Shortest
/-!
# JSON values

`Json` is the value type of bodies, filters and responses. Numbers are integers or doubles, and
the two kinds are never equal. An object is the list of its entries; `Json.insert` keeps the keys
in code-point order and lets the last value of a key win, so two objects built by it are equal
exactly when they have the same entries.
-/
namespace RestKit

/-- A JSON number: an integer, or a double when the text has a fraction or an exponent or the
integer needs more than 64 bits. -/
inductive Number where
  | int (n : Int)
  | double (x : Double)
deriving DecidableEq, Repr

inductive Json where
  | null
  | bool (b : Bool)
  | number (n : Number)
  | string (s : String)
  | array (items : List Json)
  | object (entries : List (String × Json))
deriving Repr, Inhabited

namespace Number

/-- The number as a double. -/
def toDouble : Number → Double
  | .int n => .ofInt n
  | .double x => x

/-- Equality of values: doubles are the same when they are equal as numbers, or are one double. -/
def same : Number → Number → Bool
  | .int m, .int n => m == n
  | .double x, .double y => x == y || x.eq y
  | _, _ => false

def written : Number → String
  | .int n => toString n
  | .double x => x.written

end Number

namespace Json

def int (n : Int) : Json := .number (.int n)

def nat (n : Nat) : Json := .number (.int n)

/-- A double as a value; one that is not finite has none and becomes `null`. -/
def ofDouble (x : Double) : Json := if x.isFinite then .number (.double x) else .null

/-- A value that may be absent; absence is `null`. -/
def ofOption {α : Type} (f : α → Json) : Option α → Json
  | some x => f x
  | none => .null

/-! ## Equality -/

mutual
def decEq : (a b : Json) → Decidable (a = b)
  | .null, .null => isTrue rfl
  | .bool a, .bool b => if h : a = b then isTrue (h ▸ rfl) else isFalse fun e => h (by cases e; rfl)
  | .number a, .number b =>
    if h : a = b then isTrue (h ▸ rfl) else isFalse fun e => h (by cases e; rfl)
  | .string a, .string b =>
    if h : a = b then isTrue (h ▸ rfl) else isFalse fun e => h (by cases e; rfl)
  | .array a, .array b =>
    match decEqItems a b with
    | isTrue h => isTrue (h ▸ rfl)
    | isFalse h => isFalse fun e => h (by cases e; rfl)
  | .object a, .object b =>
    match decEqEntries a b with
    | isTrue h => isTrue (h ▸ rfl)
    | isFalse h => isFalse fun e => h (by cases e; rfl)
  | .null, .bool _ | .null, .number _ | .null, .string _ | .null, .array _ | .null, .object _
  | .bool _, .null | .bool _, .number _ | .bool _, .string _ | .bool _, .array _
  | .bool _, .object _
  | .number _, .null | .number _, .bool _ | .number _, .string _ | .number _, .array _
  | .number _, .object _
  | .string _, .null | .string _, .bool _ | .string _, .number _ | .string _, .array _
  | .string _, .object _
  | .array _, .null | .array _, .bool _ | .array _, .number _ | .array _, .string _
  | .array _, .object _
  | .object _, .null | .object _, .bool _ | .object _, .number _ | .object _, .string _
  | .object _, .array _ => isFalse (by intro e; cases e)
def decEqItems : (a b : List Json) → Decidable (a = b)
  | [], [] => isTrue rfl
  | [], _ :: _ | _ :: _, [] => isFalse (by intro e; cases e)
  | x :: xs, y :: ys =>
    match decEq x y, decEqItems xs ys with
    | isTrue h, isTrue k => isTrue (h ▸ k ▸ rfl)
    | isFalse h, _ => isFalse fun e => h (by cases e; rfl)
    | _, isFalse k => isFalse fun e => k (by cases e; rfl)
def decEqEntries : (a b : List (String × Json)) → Decidable (a = b)
  | [], [] => isTrue rfl
  | [], _ :: _ | _ :: _, [] => isFalse (by intro e; cases e)
  | (k, x) :: xs, (l, y) :: ys =>
    if hk : k = l then
      match decEq x y, decEqEntries xs ys with
      | isTrue h, isTrue r => isTrue (by rw [hk, h, r])
      | isFalse h, _ => isFalse fun e => h (by cases e; rfl)
      | _, isFalse r => isFalse fun e => r (by cases e; rfl)
    else isFalse fun e => hk (by cases e; rfl)
end

instance : DecidableEq Json := decEq

mutual
/-- Equality of values, with doubles compared as numbers: `0.0` is the same as `-0.0`. -/
def same : Json → Json → Bool
  | .null, .null => true
  | .bool a, .bool b => a == b
  | .number a, .number b => a.same b
  | .string a, .string b => a == b
  | .array a, .array b => sameItems a b
  | .object a, .object b => sameEntries a b
  | _, _ => false
def sameItems : List Json → List Json → Bool
  | [], [] => true
  | x :: xs, y :: ys => same x y && sameItems xs ys
  | _, _ => false
def sameEntries : List (String × Json) → List (String × Json) → Bool
  | [], [] => true
  | (k, x) :: xs, (l, y) :: ys => k == l && same x y && sameEntries xs ys
  | _, _ => false
end

/-! ## Objects -/

/-- Put a value at a key, in key order; an earlier value of the key is replaced. -/
def insert {α : Type} (entries : List (String × α)) (key : String) (value : α) :
    List (String × α) :=
  match entries with
  | [] => [(key, value)]
  | (k, v) :: rest =>
    if key < k then (key, value) :: (k, v) :: rest
    else if key = k then (key, value) :: rest
    else (k, v) :: insert rest key value

/-- The entries of a list of pairs, in key order, the last pair of a key winning. -/
def entriesOf {α : Type} (pairs : List (String × α)) : List (String × α) :=
  pairs.foldl (fun es (k, v) => insert es k v) []

/-- The object of a list of pairs. -/
def ofPairs (pairs : List (String × Json)) : Json := .object (entriesOf pairs)

/-- An error as a document: the name of its cause, and its message. -/
def ofError (cause message : String) : Json :=
  .object [("error", .string cause), ("message", .string message)]

/-- The value at a key. -/
def lookup {α : Type} (entries : List (String × α)) (key : String) : Option α :=
  (entries.find? (·.1 == key)).map (·.2)

/-- The value at a key of an object. -/
def get? (j : Json) (key : String) : Option Json :=
  match j with
  | .object es => lookup es key
  | _ => none

def isNull : Json → Bool
  | .null => true
  | _ => false

def string? : Json → Option String
  | .string s => some s
  | _ => none

def array? : Json → Option (List Json)
  | .array xs => some xs
  | _ => none

def object? : Json → Option (List (String × Json))
  | .object es => some es
  | _ => none

def bool? : Json → Option Bool
  | .bool b => some b
  | _ => none

/-- An integer of the signed 64-bit range. -/
def int64? : Json → Option Int
  | .number (.int n) => if -9223372036854775808 ≤ n ∧ n ≤ 9223372036854775807 then some n else none
  | _ => none

/-- An integer of the unsigned 64-bit range. -/
def nat64? : Json → Option Nat
  | .number (.int n) => if 0 ≤ n then some n.toNat else none
  | _ => none

/-- A number as a double. -/
def double? : Json → Option Double
  | .number n => some n.toDouble
  | _ => none

mutual
/-- The nesting depth: zero for scalars, one more than the deepest child otherwise. -/
def depth : Json → Nat
  | .array xs => depthItems xs + 1
  | .object es => depthEntries es + 1
  | _ => 0
def depthItems : List Json → Nat
  | [] => 0
  | x :: xs => max (depth x) (depthItems xs)
def depthEntries : List (String × Json) → Nat
  | [] => 0
  | (_, x) :: xs => max (depth x) (depthEntries xs)
end

end Json
end RestKit
