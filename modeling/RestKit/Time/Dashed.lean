import RestKit.Time.Calendar
import RestKit.Text.Blank
import RestKit.Text.Numeral
/-!
# Dates with dashes

`Date.parse?` reads a year, a month and a day joined by dashes. Blanks may stand before each
number, month and day have one or two digits, and a year with a sign may have any number.
-/
namespace RestKit.Time

/-- Up to `width` digits as a number, and the rest. -/
def digitsUpTo (width : Nat) (cs : List Char) : Option (Nat × List Char) :=
  let ds := (cs.takeWhile Char.isDigit).take width
  (Numeral.digits? ds).map fun n => (n, cs.drop ds.length)

/-- A year: a sign and digits, or up to four digits. -/
def yearPart (cs : List Char) : Option (Int × List Char) :=
  match cs with
  | '-' :: r => (digitsUpTo r.length r).map fun (n, r) => (-(n : Int), r)
  | '+' :: r => (digitsUpTo r.length r).map fun (n, r) => ((n : Int), r)
  | r => (digitsUpTo 4 r).map fun (n, r) => ((n : Int), r)

/-- A dash, then a number of up to two digits. -/
def dashedPart : List Char → Option (Nat × List Char)
  | '-' :: r => digitsUpTo 2 (Text.dropBlanks r)
  | _ => none

/-- The date of a text; every part has to be in range. -/
def Date.parse? (s : String) : Option Date := do
  let (year, r) ← yearPart (Text.dropBlanks s.toList)
  let (month, r) ← dashedPart r
  let (day, r) ← dashedPart r
  let d : Date := ⟨year, month, day⟩
  if r.isEmpty && d.isValid && minYear ≤ year && year ≤ maxYear then some d else none

end RestKit.Time
