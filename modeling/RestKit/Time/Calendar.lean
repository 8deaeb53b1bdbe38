/-!
# The proleptic Gregorian calendar

Days are counted from 1970-01-01. `Date.toDays` and `Date.ofDays` convert between the count and
the date; an `Instant` is a date with a time of day and a fraction of a second. A second may hold a
leap second, which is written as second 60.
-/
namespace RestKit.Time

structure Date where
  year : Int
  month : Nat
  day : Nat
deriving DecidableEq, Repr

def isLeapYear (y : Int) : Bool := y % 4 = 0 && (y % 100 ≠ 0 || y % 400 = 0)

def daysInMonth (y : Int) (m : Nat) : Nat :=
  if m = 2 then (if isLeapYear y then 29 else 28)
  else if m = 4 ∨ m = 6 ∨ m = 9 ∨ m = 11 then 30
  else 31

def Date.isValid (d : Date) : Bool :=
  1 ≤ d.month && d.month ≤ 12 && 1 ≤ d.day && d.day ≤ daysInMonth d.year d.month

/-- Days before the month in a year that starts in March. -/
def daysBeforeMonth (shifted : Nat) : Nat := (153 * shifted + 2) / 5

/-- The number of days from 1970-01-01. Years start in March, so that the leap day is their last
day, and go in eras of 400 years. -/
def Date.toDays (d : Date) : Int :=
  let y := if d.month ≤ 2 then d.year - 1 else d.year
  let m := if d.month ≤ 2 then d.month + 9 else d.month - 3
  let era := y / 400
  let yoe := y % 400
  let doy : Int := daysBeforeMonth m + d.day - 1
  let doe := yoe * 365 + yoe / 4 - yoe / 100 + doy
  era * 146097 + doe - 719468

/-- The date of a number of days from 1970-01-01. -/
def Date.ofDays (days : Int) : Date :=
  let z := days + 719468
  let era := z / 146097
  let doe := z % 146097
  let yoe := (doe - doe / 1460 + doe / 36524 - doe / 146096) / 365
  let doy := doe - (365 * yoe + yoe / 4 - yoe / 100)
  let mp := (5 * doy + 2) / 153
  let day := doy - (153 * mp + 2) / 5 + 1
  let month := if mp < 10 then mp + 3 else mp - 9
  let year := yoe + era * 400 + (if month ≤ 2 then 1 else 0)
  ⟨year, month.toNat, day.toNat⟩

/-- The years that dates may have. -/
def minYear : Int := -262143
def maxYear : Int := 262142

/-- An instant: seconds from 1970-01-01T00:00:00, and nanoseconds, of which a leap second has a
full second more. -/
structure Instant where
  seconds : Int
  nanos : Nat
deriving DecidableEq, Repr

/-- Whether the date of an instant is within the range of years. -/
def Instant.inRange (t : Instant) : Bool :=
  let d := Date.ofDays (t.seconds / 86400)
  minYear ≤ d.year && d.year ≤ maxYear

/-- The instant of a number of milliseconds, if it is within the range of years. -/
def Instant.ofMillis? (millis : Int) : Option Instant :=
  let t : Instant := ⟨millis / 1000, (millis % 1000).toNat * 1000000⟩
  if t.inRange then some t else none

def Instant.ofSeconds? (seconds : Int) : Option Instant :=
  let t : Instant := ⟨seconds, 0⟩
  if t.inRange then some t else none

/-- Whole milliseconds from 1970-01-01T00:00:00, a leap second counting as its own. -/
def Instant.millis (t : Instant) : Int := t.seconds * 1000 + (t.nanos / 1000000 : Nat)

/-! ## Text -/

/-- A natural number with leading zeros up to a width. -/
def padded (width n : Nat) : String :=
  let ds := Nat.toDigits 10 n
  String.ofList (List.replicate (width - ds.length) '0' ++ ds)

/-- A year: four digits from 0 to 9999, a sign and at least four digits outside. -/
def yearText (y : Int) : String :=
  if 0 ≤ y ∧ y ≤ 9999 then padded 4 y.toNat
  else (if y < 0 then "-" else "+") ++ padded 4 y.natAbs

def Date.text (d : Date) : String :=
  yearText d.year ++ "-" ++ padded 2 d.month ++ "-" ++ padded 2 d.day

/-- The hour, minute and second of an instant, a leap second counting as second 60. -/
def Instant.clock (t : Instant) : Nat × Nat × Nat :=
  let s := (t.seconds % 86400).toNat
  (s / 3600, s / 60 % 60, s % 60 + t.nanos / 1000000000)

/-- The date and the time of day to the second. -/
def Instant.local (t : Instant) : String :=
  let (h, m, s) := t.clock
  (Date.ofDays (t.seconds / 86400)).text ++ "T" ++ padded 2 h ++ ":" ++ padded 2 m ++ ":"
    ++ padded 2 s

/-- The text of an instant in UTC, to the millisecond. -/
def Instant.utcText (t : Instant) : String :=
  t.local ++ "." ++ padded 3 (t.nanos % 1000000000 / 1000000) ++ "Z"

/-- The fraction of a second: nothing, or three, six or nine digits, as few as needed. -/
def fractionText (nanos : Nat) : String :=
  let n := nanos % 1000000000
  if n = 0 then ""
  else if n % 1000000 = 0 then "." ++ padded 3 (n / 1000000)
  else if n % 1000 = 0 then "." ++ padded 6 (n / 1000)
  else "." ++ padded 9 n

/-- An offset from UTC in seconds, as hours and minutes. -/
def offsetText (offset : Int) : String :=
  let n := offset.natAbs
  (if offset < 0 then "-" else "+") ++ padded 2 (n / 3600) ++ ":" ++ padded 2 (n / 60 % 60)

/-- The text of an instant as local time at an offset. -/
def Instant.textAt (t : Instant) (offset : Int) : String :=
  { t with seconds := t.seconds + offset }.local ++ fractionText t.nanos ++ offsetText offset

end RestKit.Time
