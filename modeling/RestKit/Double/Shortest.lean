import RestKit.Double.Basic
/-!
# Shortest decimal digits

`shortest` finds the fewest decimal digits that round to a given double, the nearest such digits
if there are several, and the even ones on a tie. `written` is the number format of JSON texts and
of messages; `plain` is the format without an exponent.
-/
namespace RestKit.Double

/-- Decimal digits `0.d₁d₂… · 10 ^ (point)`, as the digit list and the position of the point. -/
structure Decimal where
  digits : List Char
  point : Int
deriving DecidableEq, Repr

/-- The decimal digits of a natural number. -/
def digitsOf (n : Nat) : List Char := Nat.toDigits 10 n

/-- A fraction's number of digits before the point; zero or less below 1/10. -/
def pointOf (num den : Nat) : Int :=
  if den ≤ num then (digitsOf (num / den)).length
  else (digitsOf (num * Nat.pow 10 400 / den)).length - 400

/-- The points of the grid `10 ^ k` beside `num / den`: `d` with `d · 10 ^ k ≤ num / den`. -/
def gridFloor (num den : Nat) (k : Int) : Nat :=
  if 0 ≤ k then num / (den * Nat.pow 10 k.toNat) else num * Nat.pow 10 (-k).toNat / den

/-- `d · 10 ^ k` compared with `num / den`. -/
def gridCompare (d : Nat) (k : Int) (num den : Nat) : Ordering :=
  if 0 ≤ k then compare (d * Nat.pow 10 k.toNat * den) num
  else compare (d * den) (num * Nat.pow 10 (-k).toNat)

/-- The reals that round to `significand · 2 ^ exponent`: lower end, upper end, and whether the
ends belong to them, over the denominator `den`. -/
structure Interval where
  low : Nat
  value : Nat
  high : Nat
  den : Nat
  closed : Bool

def intervalOf (significand : Nat) (exponent : Int) : Interval :=
  let step := if significand = halfSignificand ∧ minExponent < exponent then 1 else 2
  let e := exponent - 2
  let up := if 0 ≤ e then Nat.pow 2 e.toNat else 1
  let den := if 0 ≤ e then 1 else Nat.pow 2 (-e).toNat
  { low := (4 * significand - step) * up
    value := 4 * significand * up
    high := (4 * significand + 2) * up
    den
    closed := significand % 2 = 0 }

def Interval.contains (i : Interval) (d : Nat) (k : Int) : Bool :=
  match gridCompare d k i.low i.den, gridCompare d k i.high i.den with
  | .gt, .lt => true
  | .eq, _ | _, .eq => i.closed
  | _, _ => false

/-- The grid point of `10 ^ k` that rounds to the value, the nearer one if both neighbours do. -/
def Interval.onGrid (i : Interval) (k : Int) : Option Nat :=
  let d := gridFloor i.value i.den k
  match decide (0 < d) && i.contains d k, i.contains (d + 1) k with
  | true, false => some d
  | false, true => some (d + 1)
  | false, false => none
  | true, true =>
    match gridCompare (2 * d + 1) k (2 * i.value) i.den with
    | .gt => some d
    | .lt => some (d + 1)
    | .eq => some (if d % 2 = 0 then d else d + 1)

/-- The first of the grids `10 ^ k, 10 ^ (k - 1), …` with a point that rounds to the value. -/
def Interval.search (i : Interval) : Nat → Int → Option (Nat × Int)
  | 0, _ => none
  | n + 1, k =>
    match i.onGrid k with
    | some d => some (d, k)
    | none => i.search n (k - 1)

def dropZeros (digits : List Char) : List Char :=
  (digits.reverse.dropWhile (· = '0')).reverse

/-- The shortest digits of a positive finite double. -/
def shortest (significand : Nat) (exponent : Int) : Decimal :=
  let i := intervalOf significand exponent
  let p := pointOf i.value i.den
  match i.search 18 (p - 1) with
  | some (d, k) =>
    let ds := digitsOf d
    { digits := dropZeros ds, point := ds.length + k }
  | none => { digits := [], point := 0 }

/-- Digits with the point in its place, and `tail` in place of an empty fraction. -/
def Decimal.positional (x : Decimal) (tail : String) : String :=
  if x.point ≤ 0 then
    "0." ++ String.ofList (List.replicate (-x.point).toNat '0' ++ x.digits)
  else
    let p := x.point.toNat
    if x.digits.length ≤ p then
      String.ofList (x.digits ++ List.replicate (p - x.digits.length) '0') ++ tail
    else String.ofList (x.digits.take p) ++ "." ++ String.ofList (x.digits.drop p)

/-- One digit before the point, and the exponent with its sign. -/
def Decimal.scientific (x : Decimal) : String :=
  let e := x.point - 1
  let head := String.ofList (x.digits.take 1)
  let rest := x.digits.drop 1
  let mantissa := if rest.isEmpty then head else head ++ "." ++ String.ofList rest
  mantissa ++ "e" ++ (if 0 ≤ e then "+" else "-") ++ toString e.natAbs

/-- Positional from `1e-5` to below `1e16`, scientific outside. -/
def Decimal.written (x : Decimal) : String :=
  if -5 < x.point ∧ x.point ≤ 16 then x.positional ".0" else x.scientific

/-- The text of a double in a document or a message. -/
def written : Double → String
  | .nan => "null"
  | .infinity _ => "null"
  | .finite s m e =>
    let sign := if s then "-" else ""
    if m = 0 then sign ++ "0.0" else sign ++ (shortest m e).written

/-- The text of a double without an exponent, and without a fraction when it is whole. -/
def plain : Double → String
  | .nan => "NaN"
  | .infinity s => if s then "-inf" else "inf"
  | .finite s m e =>
    let sign := if s then "-" else ""
    if m = 0 then sign ++ "0" else sign ++ (shortest m e).positional ""

end RestKit.Double
