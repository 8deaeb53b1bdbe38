import RestKit.Double.Basic
/-!
# Numerals

Reading numbers from free text: integers within given bounds, and doubles, which are rounded
correctly from the decimal they spell. Only ASCII digits count, and no surrounding blanks.
-/
namespace RestKit.Numeral

/-- The value of a run of decimal digits; `none` for anything else and for the empty run. -/
def digits? (cs : List Char) : Option Nat :=
  if cs.isEmpty then none
  else cs.foldl (fun acc c =>
    acc.bind fun n => if c.isDigit then some (n * 10 + (c.toNat - 48)) else none)
    (some 0)

/-- A natural number up to `max`, with an optional plus sign. -/
def natUpTo? (max : Nat) (s : String) : Option Nat :=
  let body := match s.toList with
    | '+' :: r => r
    | r => r
  (digits? body).filter (· ≤ max)

/-- An integer from `min` to `max`, with an optional sign. -/
def intWithin? (min max : Int) (s : String) : Option Int :=
  let value? : Option Int := match s.toList with
    | '+' :: r => (digits? r).map Int.ofNat
    | '-' :: r => (digits? r).map fun n => -(n : Int)
    | r => (digits? r).map Int.ofNat
  value?.filter fun n => min ≤ n ∧ n ≤ max

/-- The bounds of signed 64-bit integers. -/
def int64Min : Int := -9223372036854775808
def int64Max : Int := 9223372036854775807

/-- The bound of unsigned 64-bit integers. -/
def nat64Max : Nat := 18446744073709551615

def int64? (s : String) : Option Int := intWithin? int64Min int64Max s

def nat64? (s : String) : Option Nat := natUpTo? nat64Max s

/-- A decimal `± digits · 10 ^ exponent`, rounded. Exponents far outside the format's range are
decided by magnitude alone. -/
def decimal (negative : Bool) (digits : Nat) (exponent : Int) : Double :=
  if digits = 0 then .finite negative 0 Double.minExponent
  else
    let magnitude : Int := (Nat.toDigits 10 digits).length + exponent
    if 400 < magnitude then .infinity negative
    else if magnitude < -400 then .finite negative 0 Double.minExponent
    else if 0 ≤ exponent then Double.round negative (digits * Nat.pow 10 exponent.toNat) 1
    else Double.round negative digits (Nat.pow 10 (-exponent).toNat)

/-- The digits before and after the point, and what follows them. -/
def mantissa (cs : List Char) : List Char × List Char × List Char :=
  let whole := cs.takeWhile Char.isDigit
  match cs.dropWhile Char.isDigit with
  | '.' :: r => (whole, r.takeWhile Char.isDigit, r.dropWhile Char.isDigit)
  | r => (whole, [], r)

/-- An exponent part: nothing, or `e` with an optional sign and digits. -/
def exponent? : List Char → Option Int
  | [] => some 0
  | c :: r =>
    if c = 'e' ∨ c = 'E' then
      match r with
      | '+' :: r => (digits? r).map Int.ofNat
      | '-' :: r => (digits? r).map fun n => -(n : Int)
      | r => (digits? r).map Int.ofNat
    else none

/-- An unsigned decimal or one of the words `inf`, `infinity`, `nan` in any case. -/
def unsignedDouble? (negative : Bool) (cs : List Char) : Option Double :=
  let word := cs.map Char.toLower
  if word = "inf".toList ∨ word = "infinity".toList then some (.infinity negative)
  else if word = "nan".toList then some .nan
  else
    let (whole, fraction, rest) := mantissa cs
    if whole.isEmpty && fraction.isEmpty then none
    else do
      let n ← digits? (whole ++ fraction)
      let e ← exponent? rest
      pure (decimal negative n (e - fraction.length))

/-- A double, with an optional sign. -/
def double? (s : String) : Option Double :=
  match s.toList with
  | '+' :: r => unsignedDouble? false r
  | '-' :: r => unsignedDouble? true r
  | r => unsignedDouble? false r

end RestKit.Numeral
