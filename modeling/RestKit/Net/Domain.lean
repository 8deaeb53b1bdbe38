import RestKit.Text.Case
import RestKit.Text.Normal
import RestKit.Text.Printable
/-!
# Domain names

International domain names in their ASCII form: characters are folded, the name is cut at dots and
a label beyond ASCII is written in the bootstring encoding behind `xn--`.
-/
namespace RestKit.Net

/-! ## Bootstring encoding -/

/-- The threshold of the digit at position `k`. -/
def threshold (k bias : Nat) : Nat :=
  if k ≤ bias then 1 else if bias + 26 ≤ k then 26 else k - bias

def bootDigit (d : Nat) : Char := if d < 26 then Char.ofNat (97 + d) else Char.ofNat (22 + d)

/-- A difference in digits of varying base; the fuel is the number itself. -/
def bootDigits (bias : Nat) : Nat → Nat → Nat → List Char
  | 0, _, q => [bootDigit q]
  | fuel + 1, k, q =>
    let t := threshold k bias
    if q < t then [bootDigit q]
    else bootDigit (t + (q - t) % (36 - t)) :: bootDigits bias fuel (k + 36) ((q - t) / (36 - t))

/-- Shrink a difference below 456, counting the steps. -/
def shrink : Nat → Nat → Nat → Nat × Nat
  | 0, delta, k => (delta, k)
  | fuel + 1, delta, k => if 455 < delta then shrink fuel (delta / 35) (k + 36) else (delta, k)

/-- The bias after a difference. -/
def adapt (delta points : Nat) (first : Bool) : Nat :=
  let d := if first then delta / 700 else delta / 2
  let (d, k) := shrink d (d + d / points) 0
  k + 36 * d / (d + 38)

structure Bootstring where
  output : List Char
  delta : Nat
  bias : Nat
  handled : Nat

/-- One character of the label, seen while `m` is the code point encoded. -/
def Bootstring.scan (basic m : Nat) (s : Bootstring) (c : Char) : Bootstring :=
  if c.toNat < m then { s with delta := s.delta + 1 }
  else if c.toNat = m then
    { output := s.output ++ bootDigits s.bias s.delta 36 s.delta
      delta := 0
      bias := adapt s.delta (s.handled + 1) (s.handled = basic)
      handled := s.handled + 1 }
  else s

/-- The code points from `n` on, in order. -/
def Bootstring.encode (label : List Char) (basic : Nat) : List Nat → Nat → Bootstring → Bootstring
  | [], _, s => s
  | m :: rest, n, s =>
    let s := { s with delta := s.delta + (m - n) * (s.handled + 1) }
    let s := label.foldl (Bootstring.scan basic m) s
    Bootstring.encode label basic rest (m + 1) { s with delta := s.delta + 1 }

def bootstring (label : List Char) : List Char :=
  let basic := label.filter fun c => c.toNat < 128
  let points := ((label.filter fun c => 128 ≤ c.toNat).map Char.toNat).mergeSort.eraseDups
  let head := if basic.isEmpty then [] else basic ++ ['-']
  (Bootstring.encode label basic.length points 128 ⟨head, 0, 72, basic.length⟩).output

/-! ## Names -/

/-- Characters that a name drops. -/
def isIgnoredInName (c : Char) : Bool :=
  let n := c.toNat
  n = 0xAD || n = 0x34F || n = 0x200B || n = 0x2060 || n = 0x2064 || n = 0xFEFF
    || (0x180B ≤ n && n ≤ 0x180D) || (0xFE00 ≤ n && n ≤ 0xFE0F)

/-- A character folded for a name: full-width forms become ASCII, ideographic stops become dots. -/
def foldForName (c : Char) : List Char :=
  let n := c.toNat
  if isIgnoredInName c then []
  else if n = 0x3002 ∨ n = 0xFF61 then ['.']
  else if 0xFF01 ≤ n ∧ n ≤ 0xFF5E then [(Char.ofNat (n - 0xFEE0)).toLower]
  else Text.lowerChar c

/-- A label in ASCII form; a label beyond ASCII starts with no mark and holds printable characters
only. -/
def labelToAscii (label : List Char) : Option (List Char) :=
  if label.all fun c => c.toNat < 128 then some label
  else if (label.head?.map Text.isMark).getD false then none
  else if label.any fun c => Text.Table.holds Text.unprintableRanges c then none
  else some ("xn--".toList ++ bootstring label)

/-- The ASCII form of a name. -/
def domainToAscii (name : String) : Option String := do
  let folded := Text.nfc (String.ofList (name.toList.flatMap foldForName))
  let labels ← (Text.splitChars (· = '.') folded.toList).mapM labelToAscii
  return String.ofList (['.'].intercalate labels)

end RestKit.Net
