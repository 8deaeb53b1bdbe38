/-!
# Double-precision numbers

Numbers of the binary64 format, held exactly: a finite one is `± significand · 2 ^ exponent`.
`round` is the only way from a rational to a double: to the nearest, a half to the even
significand. All arithmetic and all comparisons below are exact arithmetic on `Nat`.
-/
namespace RestKit

/-- A number of the binary64 format. A finite one built by `Double.round` has
`significand < 2 ^ 53` and `-1074 ≤ exponent ≤ 971`, and the least such exponent. -/
inductive Double where
  | nan
  | infinity (negative : Bool)
  | finite (negative : Bool) (significand : Nat) (exponent : Int)
deriving DecidableEq, Repr, Inhabited

namespace Double

/-- Positive zero. -/
def zero : Double := .finite false 0 (-1074)

/-- The least exponent of the format. -/
def minExponent : Int := -1074

/-- The greatest exponent of the format. -/
def maxExponent : Int := 971

/-- Half the bound of significands: `2 ^ 52`. -/
def halfSignificand : Nat := 4503599627370496

/-- `num / den` in units of `2 ^ e`, as a fraction. -/
def inUnits (num den : Nat) (e : Int) : Nat × Nat :=
  if 0 ≤ e then (num, den * Nat.pow 2 e.toNat) else (num * Nat.pow 2 (-e).toNat, den)

/-- The quotient rounded to the nearest, a half to the even neighbour. -/
def divNearest (num den : Nat) : Nat :=
  let q := num / den
  let r := num % den
  if 2 * r < den then q
  else if 2 * r = den then (if q % 2 = 0 then q else q + 1)
  else q + 1

/-- The exponent at which `num / den` has 53 significant bits, or the least one. -/
def exponentFor (num den : Nat) : Int :=
  let e : Int := (Nat.log2 num : Int) - (Nat.log2 den : Int) - 52
  let (n, d) := inUnits num den e
  let e := if n / d < halfSignificand then e - 1 else e
  max e minExponent

/-- The double nearest to `± num / den`. -/
def round (negative : Bool) (num den : Nat) : Double :=
  if num = 0 then .finite negative 0 minExponent
  else
    let e := exponentFor num den
    let (n, d) := inUnits num den e
    let q := divNearest n d
    let (q, e) := if q = 2 * halfSignificand then (halfSignificand, e + 1) else (q, e)
    if maxExponent < e then .infinity negative else .finite negative q e

/-- The double nearest to an integer. -/
def ofInt (n : Int) : Double := round (n < 0) n.natAbs 1

/-- The magnitude of `significand · 2 ^ exponent` as a fraction. -/
def magnitude (significand : Nat) (exponent : Int) : Nat × Nat :=
  if 0 ≤ exponent then (significand * Nat.pow 2 exponent.toNat, 1)
  else (significand, Nat.pow 2 (-exponent).toNat)

/-- The sign of a double. -/
def isNegative : Double → Bool
  | .nan => false
  | .infinity s => s
  | .finite s _ _ => s

/-- Neither infinite nor not a number. -/
def isFinite : Double → Bool
  | .finite .. => true
  | _ => false

def neg : Double → Double
  | .nan => .nan
  | .infinity s => .infinity (!s)
  | .finite s m e => .finite (!s) m e

/-- The numerator, with its sign, and the denominator of a finite double. -/
def fraction? : Double → Option (Int × Nat)
  | .finite s m e =>
    let (n, d) := magnitude m e
    some (if s then -(n : Int) else n, d)
  | _ => none

/-- `a < b` as numbers; nothing is below or above `nan`. -/
def lt : Double → Double → Bool
  | .nan, _ | _, .nan => false
  | .infinity a, .infinity b => a && !b
  | .infinity a, .finite .. => a
  | .finite .., .infinity b => !b
  | a@(.finite ..), b@(.finite ..) =>
    match a.fraction?, b.fraction? with
    | some (n, d), some (m, c) => n * c < m * d
    | _, _ => false

/-- `a = b` as numbers: zeros of both signs are equal, and `nan` differs from itself. -/
def eq : Double → Double → Bool
  | .nan, _ | _, .nan => false
  | a, b => !lt a b && !lt b a

def le (a b : Double) : Bool := lt a b || eq a b

/-- The product of two finite doubles, rounded. -/
def mul : Double → Double → Double
  | .finite s m e, .finite t n f =>
    let (a, b) := magnitude m e
    let (c, d) := magnitude n f
    round (s != t) (a * c) (b * d)
  | .infinity s, .finite t n _ => if n = 0 then .nan else .infinity (s != t)
  | .finite s m _, .infinity t => if m = 0 then .nan else .infinity (s != t)
  | .infinity s, .infinity t => .infinity (s != t)
  | .nan, _ | _, .nan => .nan

/-- The quotient of a finite double by a finite one other than zero, rounded. -/
def div : Double → Double → Double
  | .finite s m e, .finite t n f =>
    let (a, b) := magnitude m e
    let (c, d) := magnitude n f
    if c = 0 then .nan else round (s != t) (a * d) (b * c)
  | _, _ => .nan

/-- The integer part, toward zero. -/
def truncate? (x : Double) : Option Int :=
  x.fraction?.map fun (n, d) => n.tdiv d

/-- A finite double without a fractional part. -/
def isWhole (x : Double) : Bool :=
  match x.fraction? with
  | some (n, d) => n % d == 0
  | none => false

end Double
end RestKit
