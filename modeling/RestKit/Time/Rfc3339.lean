import RestKit.Time.Calendar
/-!
# RFC 3339 dates

`parse?` reads a date with a time of day and an offset, such as `2024-02-29T12:30:00.5+01:00`, and
gives the instant with the offset.
-/
namespace RestKit.Time

/-- Exactly `n` ASCII digits, and the rest. -/
def fixedDigits : Nat → List Char → Option (Nat × List Char)
  | n, cs =>
    let ds := cs.take n
    if ds.length = n ∧ ds.all Char.isDigit then
      some (ds.foldl (fun acc c => acc * 10 + (c.toNat - 48)) 0, cs.drop n)
    else none

def expect (c : Char) : List Char → Option (List Char)
  | d :: r => if c = d then some r else none
  | [] => none

/-- Digits behind the point, in nanoseconds; digits beyond the ninth are dropped. -/
def fraction (cs : List Char) : Option (Nat × List Char) :=
  let ds := cs.takeWhile Char.isDigit
  let kept := ds.take 9
  if kept.isEmpty then none
  else
    let n := kept.foldl (fun acc c => acc * 10 + (c.toNat - 48)) 0
    some (n * Nat.pow 10 (9 - kept.length), cs.dropWhile Char.isDigit)

/-- An offset: `Z`, or a sign with hours and minutes. The minus sign may be U+2212. -/
def offset : List Char → Option (Int × List Char)
  | [] => none
  | c :: r =>
    if c = 'Z' ∨ c = 'z' then some (0, r)
    else do
      let negative ← if c = '+' then some false
        else if c = '-' ∨ c.toNat = 0x2212 then some true else none
      let (h, r) ← fixedDigits 2 r
      let r ← expect ':' r
      let (m, r) ← fixedDigits 2 r
      if 59 < m ∨ 23 * 60 + 59 < h * 60 + m then none
      else
        let n : Int := h * 3600 + m * 60
        some (if negative then -n else n, r)

/-- A date with a time of day and an offset; the offset is kept beside the instant. -/
def parse? (s : String) : Option (Instant × Int) := do
  let (year, r) ← fixedDigits 4 s.toList
  let r ← expect '-' r
  let (month, r) ← fixedDigits 2 r
  let r ← expect '-' r
  let (day, r) ← fixedDigits 2 r
  let r ← match r with
    | c :: r => if c = 'T' ∨ c = 't' ∨ c = ' ' then some r else none
    | [] => none
  let (hour, r) ← fixedDigits 2 r
  let r ← expect ':' r
  let (minute, r) ← fixedDigits 2 r
  let r ← expect ':' r
  let (second, r) ← fixedDigits 2 r
  let (nanos, r) ← match r with
    | '.' :: r => fraction r
    | r => some (0, r)
  let (off, r) ← offset r
  let date : Date := ⟨year, month, day⟩
  if !r.isEmpty || !date.isValid || 23 < hour || 59 < minute || 60 < second then none
  else
    -- second 60 is second 59 with a full second of nanoseconds more
    let (second, nanos) := if second = 60 then (59, nanos + 1000000000) else (second, nanos)
    let seconds := date.toDays * 86400 + (hour * 3600 + minute * 60 + second : Nat) - off
    some (⟨seconds, nanos⟩, off)

end RestKit.Time
