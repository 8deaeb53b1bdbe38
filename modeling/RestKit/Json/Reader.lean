import RestKit.Json.Shape
import RestKit.Text.Utf8
/-!
# JSON texts, read

`read` gives the value of a text and `readAs` reads it directly as a shape, so that a mismatch is
reported with its place and before any fault further on. A reader is a function on a `Cursor`, the
bytes still to read and the place reached. Nesting is limited; recursion goes by a fuel that the
number of bytes bounds.
-/
namespace RestKit.Json

/-- The bytes still to read, the line reached and the bytes read on it. -/
structure Cursor where
  rest : List UInt8
  line : Nat
  column : Nat
deriving DecidableEq, Repr

namespace Cursor

def start (bytes : List UInt8) : Cursor := ⟨bytes, 1, 0⟩

/-- The cursor behind the next byte; at the end it stays. -/
def advance (c : Cursor) : Cursor :=
  match c.rest with
  | [] => c
  | b :: r => if b = 10 then ⟨r, c.line + 1, 0⟩ else ⟨r, c.line, c.column + 1⟩

def advanceBy : Nat → Cursor → Cursor
  | 0, c => c
  | n + 1, c => advanceBy n c.advance

/-- A fault at the place reached. -/
def fault {α : Type} (c : Cursor) (cause : Cause) : Except Fault α :=
  .error ⟨cause, c.line, c.column⟩

/-- A fault at the next byte. -/
def faultNext {α : Type} (c : Cursor) (cause : Cause) : Except Fault α :=
  c.advance.fault cause

def isBlank (b : UInt8) : Bool := b = 32 || b = 9 || b = 10 || b = 13

/-- The cursor at the next byte that is no blank. -/
def skipBlanks (c : Cursor) : Cursor :=
  advanceBy (c.rest.takeWhile isBlank).length c

def peek (c : Cursor) : Option UInt8 := c.rest.head?

end Cursor

open Cursor

/-! ## Numbers -/

def isDigit (b : UInt8) : Bool := 48 ≤ b && b ≤ 57

def digitValue (b : UInt8) : Nat := b.toNat - 48

/-- The digits at the cursor. -/
def digitRun (c : Cursor) : List UInt8 × Cursor :=
  let ds := c.rest.takeWhile isDigit
  (ds, advanceBy ds.length c)

/-- Append digits to a significand while it stays below `2 ^ 64`; the second component counts the
digits taken. -/
def absorb (significand : Nat) : List UInt8 → Nat × Nat
  | [] => (significand, 0)
  | d :: ds =>
    let next := significand * 10 + digitValue d
    if next < 18446744073709551616 then
      let (s, k) := absorb next ds
      (s, k + 1)
    else (significand, 0)

/-- `x · 10 ^ e`, with one rounding for each factor of at most `10 ^ 308`; `none` above the
range. -/
def scale (x : Double) (e : Int) : Nat → Option Double
  | 0 => some x
  | n + 1 =>
    if e.natAbs ≤ 308 then
      let power := Double.round false (Nat.pow 10 e.natAbs) 1
      if 0 ≤ e then
        let y := x.mul power
        if y.isFinite then some y else none
      else some (x.div power)
    else if x.eq .zero then some x
    else if 0 ≤ e then none
    else scale (x.div (Double.round false (Nat.pow 10 308) 1)) (e + 308) n

/-- The double of a significand and a decimal exponent. -/
def assemble (positive : Bool) (significand : Nat) (exponent : Int) (c : Cursor) :
    Except Fault (Number × Cursor) :=
  match scale (Double.ofInt significand) exponent 4 with
  | some x => .ok (.double (if positive then x else x.neg), c)
  | none => c.fault .numberOutOfRange

/-- The greatest exponent that is kept. -/
def exponentMax : Nat := 2147483647

/-- The digits of an exponent, or none at the cursor behind the digit that passes the bound. -/
def exponentDigits (acc : Nat) : Nat → Cursor → Except Cursor (Nat × Cursor)
  | 0, c => .ok (acc, c)
  | n + 1, c =>
    match c.peek with
    | some b =>
      if isDigit b then
        let next := acc * 10 + digitValue b
        if next ≤ exponentMax then exponentDigits next n c.advance else .error c.advance
      else .ok (acc, c)
    | none => .ok (acc, c)

/-- The exponent part, with the cursor at its `e`. -/
def exponentPart (positive : Bool) (significand : Nat) (start : Int) (c : Cursor) :
    Except Fault (Number × Cursor) :=
  let c := c.advance
  let (plus, c) := match c.peek with
    | some 43 => (true, c.advance)
    | some 45 => (false, c.advance)
    | _ => (true, c)
  match c.peek with
  | none => c.fault .eofValue
  | some b =>
    if !isDigit b then c.advance.fault .invalidNumber
    else
      match exponentDigits (digitValue b) c.rest.length c.advance with
      | .ok (e, c) =>
        let e : Int := if plus then start + e else start - e
        assemble positive significand (max (-2147483648) (min 2147483647 e)) c
      | .error c =>
        if significand ≠ 0 && plus then c.fault .numberOutOfRange
        else
          let zero := Double.zero
          .ok (.double (if positive then zero else zero.neg), (digitRun c).2)

/-- The fraction, with the cursor at its point. -/
def fractionPart (positive : Bool) (significand : Nat) (start : Int) (c : Cursor) :
    Except Fault (Number × Cursor) :=
  let c := c.advance
  let (ds, c) := digitRun c
  if ds.isEmpty then
    match c.peek with
    | some _ => c.faultNext .invalidNumber
    | none => c.faultNext .eofValue
  else
    let (s, k) := absorb significand ds
    let e := start - k
    match c.peek with
    | some 101 | some 69 => exponentPart positive s e c
    | _ => assemble positive s e c

/-- An integer that fits 64 bits is one; minus zero does not count as an integer. -/
def integerOf (positive : Bool) (n : Nat) : Number :=
  if positive then .int n
  else if 0 < n ∧ n ≤ 9223372036854775808 then .int (-(n : Int))
  else .double (Double.ofInt n).neg

/-- A number without its sign. -/
def numeral (positive : Bool) (c : Cursor) : Except Fault (Number × Cursor) :=
  match c.peek with
  | none => c.fault .eofValue
  | some b =>
    if !isDigit b then c.advance.fault .invalidNumber
    else
      let (ds, c') := digitRun c
      if b = 48 ∧ 1 < ds.length then c.advance.faultNext .invalidNumber
      else
        let (s, k) := absorb 0 ds
        let extra : Int := (ds.length - k : Nat)
        match c'.peek with
        | some 46 => fractionPart positive s extra c'
        | some 101 | some 69 => exponentPart positive s extra c'
        | _ => if extra = 0 then .ok (integerOf positive s, c') else assemble positive s extra c'

/-! ## Words and strings -/

/-- The rest of a word whose first letter has been read. -/
def word (c : Cursor) : List UInt8 → Except Fault Cursor
  | [] => .ok c
  | b :: bs =>
    match c.peek with
    | none => c.fault .eofValue
    | some a => if a = b then word c.advance bs else c.advance.fault .expectedIdent

def ull : List UInt8 := [117, 108, 108]
def rue : List UInt8 := [114, 117, 101]
def alse : List UInt8 := [97, 108, 115, 101]

/-- The value of a hexadecimal digit. -/
def hexValue? (b : UInt8) : Option Nat :=
  if 48 ≤ b && b ≤ 57 then some (b.toNat - 48)
  else if 97 ≤ b && b ≤ 102 then some (b.toNat - 87)
  else if 65 ≤ b && b ≤ 70 then some (b.toNat - 55)
  else none

/-- Four hexadecimal digits. -/
def hexUnit (c : Cursor) : Except Fault (Nat × Cursor) :=
  match c.rest with
  | a :: b :: d :: e :: _ =>
    let c := advanceBy 4 c
    match hexValue? a, hexValue? b, hexValue? d, hexValue? e with
    | some a, some b, some d, some e => .ok (a * 4096 + b * 256 + d * 16 + e, c)
    | _, _, _, _ => c.fault .invalidEscape
  | r => (advanceBy r.length c).fault .eofString

/-- A byte that has to come next in a pair of surrogates. -/
def pairByte (b : UInt8) (c : Cursor) : Except Fault Cursor :=
  match c.peek with
  | none => c.fault .eofString
  | some a => if a = b then .ok c.advance else c.advance.fault .endOfHexEscape

/-- The character of a `u` escape, one unit or a pair of surrogates. -/
def unicodeEscape (c : Cursor) : Except Fault (Char × Cursor) := do
  let (n, c) ← hexUnit c
  if 0xDC00 ≤ n ∧ n ≤ 0xDFFF then c.fault .loneSurrogate
  else if n < 0xD800 ∨ 0xDBFF < n then .ok (Char.ofNat n, c)
  else
    let c ← pairByte 92 c
    let c ← pairByte 117 c
    let (m, c) ← hexUnit c
    if m < 0xDC00 ∨ 0xDFFF < m then c.fault .loneSurrogate
    else .ok (Char.ofNat ((n - 0xD800) * 1024 + (m - 0xDC00) + 0x10000), c)

/-- The character of an escape whose backslash has been read. -/
def escape (c : Cursor) : Except Fault (Char × Cursor) :=
  match c.peek with
  | none => c.fault .eofString
  | some b =>
    let c := c.advance
    if b = 34 then .ok ('"', c)
    else if b = 92 then .ok ('\\', c)
    else if b = 47 then .ok ('/', c)
    else if b = 98 then .ok (Char.ofNat 8, c)
    else if b = 102 then .ok (Char.ofNat 12, c)
    else if b = 110 then .ok ('\n', c)
    else if b = 114 then .ok ('\r', c)
    else if b = 116 then .ok ('\t', c)
    else if b = 117 then unicodeEscape c
    else c.fault .invalidEscape

/-- The bytes of a string whose opening quote has been read. -/
def stringBytes : Nat → Cursor → Except Fault (List UInt8 × Cursor)
  | 0, c => c.fault .eofString
  | n + 1, c =>
    match c.peek with
    | none => c.fault .eofString
    | some b =>
      if b = 34 then .ok ([], c.advance)
      else if b = 92 then do
        let (ch, c) ← escape c.advance
        let (bs, c) ← stringBytes n c
        return (String.utf8EncodeChar ch ++ bs, c)
      else if b < 32 then c.advance.fault .controlCharacter
      else do
        let (bs, c) ← stringBytes n c.advance
        return (b :: bs, c)

/-- A string whose opening quote has been read. -/
def stringRest (c : Cursor) : Except Fault (String × Cursor) := do
  let (bs, c) ← stringBytes (c.rest.length + 1) c
  match Utf8.decode? bs with
  | some s => .ok (s, c)
  | none => c.fault .invalidCodePoint

/-! ## Commas -/

/-- At an item of a list or at its end: whether there is an item, and the cursor at it. -/
def nextItem (first : Bool) (c : Cursor) : Except Fault (Bool × Cursor) :=
  let c := c.skipBlanks
  match c.peek with
  | none => c.faultNext .eofList
  | some b =>
    if b = 93 then .ok (false, c)
    else if first then .ok (true, c)
    else if b = 44 then
      let c := c.advance.skipBlanks
      match c.peek with
      | none => c.faultNext .eofValue
      | some b => if b = 93 then c.faultNext .trailingComma else .ok (true, c)
    else c.faultNext .expectedListCommaOrEnd

/-- At a key of an object or at its end: whether there is a key, and the cursor at its quote. -/
def nextKey (first : Bool) (c : Cursor) : Except Fault (Bool × Cursor) :=
  let c := c.skipBlanks
  match c.peek with
  | none => c.faultNext .eofObject
  | some b =>
    if b = 125 then .ok (false, c)
    else if first then
      if b = 34 then .ok (true, c) else c.faultNext .keyMustBeString
    else if b = 44 then
      let c := c.advance.skipBlanks
      match c.peek with
      | none => c.faultNext .eofValue
      | some b =>
        if b = 34 then .ok (true, c)
        else if b = 125 then c.faultNext .trailingComma
        else c.faultNext .keyMustBeString
    else c.faultNext .expectedObjectCommaOrEnd

/-- The colon behind a key. -/
def colon (c : Cursor) : Except Fault Cursor :=
  let c := c.skipBlanks
  match c.peek with
  | none => c.faultNext .eofObject
  | some b => if b = 58 then .ok c.advance else c.faultNext .expectedColon

/-- The end of a list that was read as a record. -/
def endList (c : Cursor) : Except Fault Cursor :=
  let c := c.skipBlanks
  match c.peek with
  | none => c.faultNext .eofList
  | some b =>
    if b = 93 then .ok c.advance
    else if b = 44 then
      let c := c.advance.skipBlanks
      if c.peek = some 93 then c.faultNext .trailingComma else c.faultNext .trailingCharacters
    else c.faultNext .trailingCharacters

/-! ## Values -/

mutual
/-- A value, at most `depth` levels deep. -/
def value (depth : Nat) : Nat → Cursor → Except Fault (Json × Cursor)
  | 0, c => c.fault .eofValue
  | fuel + 1, c =>
    let c := c.skipBlanks
    match c.peek with
    | none => c.faultNext .eofValue
    | some b =>
      if b = 110 then do return (.null, ← word c.advance ull)
      else if b = 116 then do return (.bool true, ← word c.advance rue)
      else if b = 102 then do return (.bool false, ← word c.advance alse)
      else if b = 45 then do
        let (n, c) ← numeral false c.advance
        return (.number n, c)
      else if isDigit b then do
        let (n, c) ← numeral true c
        return (.number n, c)
      else if b = 34 then do
        let (s, c) ← stringRest c.advance
        return (.string s, c)
      else if b = 91 then
        match depth with
        | 0 => c.faultNext .recursionLimit
        | depth + 1 => do
          let (xs, c) ← items depth true fuel c.advance
          return (.array xs, c)
      else if b = 123 then
        match depth with
        | 0 => c.faultNext .recursionLimit
        | depth + 1 => do
          let (es, c) ← entries depth true fuel c.advance
          return (ofPairs es, c)
      else c.faultNext .expectedValue

/-- The items of a list up to its bracket. -/
def items (depth : Nat) (first : Bool) : Nat → Cursor → Except Fault (List Json × Cursor)
  | 0, c => c.fault .eofList
  | fuel + 1, c => do
    let (more, c) ← nextItem first c
    if more then
      let (x, c) ← value depth fuel c
      let (xs, c) ← items depth false fuel c
      return (x :: xs, c)
    else return ([], c.advance)

/-- The entries of an object up to its brace. -/
def entries (depth : Nat) (first : Bool) :
    Nat → Cursor → Except Fault (List (String × Json) × Cursor)
  | 0, c => c.fault .eofObject
  | fuel + 1, c => do
    let (more, c) ← nextKey first c
    if more then
      let (k, c) ← stringRest c.advance
      let c ← colon c
      let (x, c) ← value depth fuel c
      let (xs, c) ← entries depth false fuel c
      return ((k, x) :: xs, c)
    else return ([], c.advance)
end

/-- Nothing but blanks may follow the value. -/
def finish {α : Type} : Except Fault (α × Cursor) → Except Fault α
  | .error f => .error f
  | .ok (x, c) =>
    let c := c.skipBlanks
    match c.peek with
    | none => .ok x
    | some _ => c.faultNext .trailingCharacters

/-- The deepest nesting of a text that is read. -/
def depthLimit : Nat := 127

/-- Fuel enough for any text of this length. -/
def fuelFor (bytes : List UInt8) : Nat := 2 * bytes.length + 4

/-- The value of a text. -/
def readBytes (bytes : List UInt8) : Except Fault Json :=
  finish (value depthLimit (fuelFor bytes) (start bytes))

def read (text : String) : Except Fault Json := readBytes (Utf8.encode text)

/-- The value of a text nested at most `depth` levels. -/
def readWithin (depth : Nat) (text : String) : Except Fault Json :=
  let bytes := Utf8.encode text
  finish (value depth (fuelFor bytes) (start bytes))

/-! ## Values that are passed over -/

/-- The rest of a string that is passed over: only its escapes are looked at. -/
def skipString : Nat → Cursor → Except Fault Cursor
  | 0, c => c.fault .eofString
  | n + 1, c =>
    match c.peek with
    | none => c.fault .eofString
    | some b =>
      if b = 34 then .ok c.advance
      else if b = 92 then
        let c := c.advance
        match c.peek with
        | none => c.fault .eofString
        | some e =>
          if e = 117 then do
            let (_, c) ← hexUnit c.advance
            skipString n c
          else if [34, 92, 47, 98, 102, 110, 114, 116].contains e then skipString n c.advance
          else c.advance.fault .invalidEscape
      else if b < 32 then c.advance.fault .controlCharacter
      else skipString n c.advance

/-- A number that is passed over: its form is checked and its size is not. -/
def skipNumber (c : Cursor) : Except Fault Cursor :=
  match c.peek with
  | none => c.fault .eofValue
  | some b =>
    if !isDigit b then c.advance.fault .invalidNumber
    else
      let (ds, c') := digitRun c
      if b = 48 ∧ 1 < ds.length then c.advance.faultNext .invalidNumber
      else do
        let c ← if c'.peek = some 46 then
            let (fs, c) := digitRun c'.advance
            if fs.isEmpty then c.faultNext .invalidNumber else .ok c
          else .ok c'
        if c.peek = some 101 ∨ c.peek = some 69 then
          let c := c.advance
          let c := if c.peek = some 43 ∨ c.peek = some 45 then c.advance else c
          match c.peek with
          | none => c.fault .invalidNumber
          | some b => if isDigit b then .ok (digitRun c).2 else c.advance.fault .invalidNumber
        else .ok c

/-- The brackets around the place reached, innermost first; `true` is an object. -/
abbrev Frames := List Bool

mutual
/-- Pass over a value inside the given brackets. -/
def skipValue (frames : Frames) : Nat → Cursor → Except Fault Cursor
  | 0, c => c.fault .eofValue
  | fuel + 1, c =>
    let c := c.skipBlanks
    match c.peek with
    | none => c.faultNext .eofValue
    | some b =>
      if b = 110 then do skipMore frames true fuel (← word c.advance ull)
      else if b = 116 then do skipMore frames true fuel (← word c.advance rue)
      else if b = 102 then do skipMore frames true fuel (← word c.advance alse)
      else if b = 45 then do skipMore frames true fuel (← skipNumber c.advance)
      else if isDigit b then do skipMore frames true fuel (← skipNumber c)
      else if b = 34 then do
        skipMore frames true fuel (← skipString (c.rest.length + 1) c.advance)
      else if b = 91 then skipMore (false :: frames) false fuel c.advance
      else if b = 123 then skipMore (true :: frames) false fuel c.advance
      else c.faultNext .expectedValue

/-- Behind a value or an opening bracket: close brackets, then go on with the next value. -/
def skipMore (frames : Frames) (afterValue : Bool) : Nat → Cursor → Except Fault Cursor
  | 0, c => c.fault .eofValue
  | fuel + 1, c =>
    match frames with
    | [] => .ok c
    | isObject :: outer =>
      let c := c.skipBlanks
      match c.peek with
      | none => c.faultNext (if isObject then .eofObject else .eofList)
      | some b =>
        if b = 44 ∧ afterValue then skipKey frames fuel c.advance
        else if b = (if isObject then 125 else 93) then skipMore outer true fuel c.advance
        else if afterValue then
          c.faultNext (if isObject then .expectedObjectCommaOrEnd else .expectedListCommaOrEnd)
        else skipKey frames fuel c

/-- Pass over the key, if the innermost bracket is an object's, and over the value. -/
def skipKey (frames : Frames) : Nat → Cursor → Except Fault Cursor
  | 0, c => c.fault .eofValue
  | fuel + 1, c =>
    if frames.head? = some true then
      let c := c.skipBlanks
      match c.peek with
      | none => c.faultNext .eofObject
      | some b =>
        if b = 34 then do
          let c ← skipString (c.rest.length + 1) c.advance
          let c := c.skipBlanks
          match c.peek with
          | none => c.faultNext .eofObject
          | some b =>
            if b = 58 then skipValue frames fuel c.advance else c.faultNext .expectedColon
        else c.faultNext .keyMustBeString
    else skipValue frames fuel c
end

/-! ## Values of a shape -/

/-- A mismatch at the place reached. -/
def mismatchAt {α : Type} (c : Cursor) : Except Mismatch α → Except Fault α
  | .ok x => .ok x
  | .error m => c.fault (.mismatch m)

/-- A value that is not of the shape: a scalar is read before it is refused, a bracket is not. -/
def refuse {α : Type} (s : Shape) (c : Cursor) : Except Fault α :=
  let wrong (found : Found) (c : Cursor) : Except Fault α :=
    c.fault (.mismatch (.type found s.expected))
  match c.peek with
  | none => c.faultNext .expectedValue
  | some b =>
    if b = 110 then do wrong .null (← word c.advance ull)
    else if b = 116 then do wrong (.boolean true) (← word c.advance rue)
    else if b = 102 then do wrong (.boolean false) (← word c.advance alse)
    else if b = 45 then do
      let (n, c) ← numeral false c.advance
      wrong (.number n) c
    else if isDigit b then do
      let (n, c) ← numeral true c
      wrong (.number n) c
    else if b = 34 then do
      let (t, c) ← stringRest c.advance
      wrong (.string t) c
    else if b = 91 then wrong .sequence c
    else if b = 123 then wrong .map c
    else c.faultNext .expectedValue

/-- A string read as one of a choice of names. -/
def choiceRest (names : List String) (c : Cursor) : Except Fault (Json × Cursor) := do
  let (t, c) ← stringRest c
  let x ← mismatchAt c (Shape.fitChoice names t)
  return (x, c)

/-- A number read as a numeric shape. -/
def numberAs (s : Shape) (c : Cursor) : Except Fault (Json × Cursor) := do
  let (n, c) ← if c.peek = some 45 then numeral false c.advance else numeral true c
  let x ← mismatchAt c (s.fitNumber n)
  return (x, c)

/-- The place where a fault of a record as a whole is reported: behind its brace, or at what
stands in its place. -/
def endOfRecord (c : Cursor) : Cursor :=
  let c := c.skipBlanks
  if c.peek = some 125 then c.advance else c

/-- The place where a fault of a record given as a list is reported. -/
def endOfElements (c : Cursor) : Cursor :=
  let c := c.skipBlanks
  if c.peek = some 93 then c.advance else c

mutual
/-- A value of a shape. -/
def valueAs (depth : Nat) (s : Shape) : Nat → Cursor → Except Fault (Json × Cursor)
  | 0, c => c.fault .eofValue
  | fuel + 1, c =>
    let c := c.skipBlanks
    match s with
    | .any => value depth fuel c
    | .option s =>
      if c.peek = some 110 then do return (.null, ← word c.advance ull)
      else valueAs depth s fuel c
    | s =>
      match c.peek with
      | none => c.faultNext .eofValue
      | some b =>
        match s with
        | .text =>
          if b = 34 then do
            let (t, c) ← stringRest c.advance
            return (.string t, c)
          else refuse s c
        | .boolean =>
          if b = 116 then do return (.bool true, ← word c.advance rue)
          else if b = 102 then do return (.bool false, ← word c.advance alse)
          else refuse s c
        | .choice names =>
          if b = 34 then choiceRest names c.advance else c.faultNext .expectedValue
        | .list s' =>
          if b = 91 then
            match depth with
            | 0 => c.faultNext .recursionLimit
            | depth + 1 => do
              let (xs, c) ← itemsAs depth s' true fuel c.advance
              return (.array xs, c)
          else refuse s c
        | .dict s' =>
          if b = 123 then
            match depth with
            | 0 => c.faultNext .recursionLimit
            | depth + 1 => do
              let (es, c) ← entriesAs depth s' true fuel c.advance
              return (ofPairs es, c)
          else refuse s c
        | .record name fields =>
          if b = 123 then
            match depth with
            | 0 => c.faultNext .recursionLimit
            | depth + 1 => do
              let (given, c) ← fieldsAs depth fields [] true fuel c.advance
              let es ← mismatchAt c (Shape.complete fields given)
              return (ofPairs es, c)
          else if b = 91 then
            match depth with
            | 0 => c.faultNext .recursionLimit
            | depth + 1 => do
              let (es, c) ← elementsAs depth name fields.length 0 fields fuel c.advance
              return (ofPairs es, ← endList c)
          else refuse s c
        | s => if b = 45 || isDigit b then numberAs s c else refuse s c
termination_by structural fuel => fuel

def itemsAs (depth : Nat) (s : Shape) (first : Bool) :
    Nat → Cursor → Except Fault (List Json × Cursor)
  | 0, c => c.fault .eofList
  | fuel + 1, c => do
    let (more, c) ← nextItem first c
    if more then
      let (x, c) ← valueAs depth s fuel c
      let (xs, c) ← itemsAs depth s false fuel c
      return (x :: xs, c)
    else return ([], c.advance)
termination_by structural fuel => fuel

def entriesAs (depth : Nat) (s : Shape) (first : Bool) :
    Nat → Cursor → Except Fault (List (String × Json) × Cursor)
  | 0, c => c.fault .eofObject
  | fuel + 1, c => do
    let (more, c) ← nextKey first c
    if more then
      let (k, c) ← stringRest c.advance
      let c ← colon c
      let (x, c) ← valueAs depth s fuel c
      let (xs, c) ← entriesAs depth s false fuel c
      return ((k, x) :: xs, c)
    else return ([], c.advance)
termination_by structural fuel => fuel

/-- The fields of a record up to its brace; `given` holds those read before. -/
def fieldsAs (depth : Nat) (fields : List (String × Shape × Option Json))
    (given : List (String × Json)) (first : Bool) :
    Nat → Cursor → Except Fault (List (String × Json) × Cursor)
  | 0, c => c.fault .eofObject
  | fuel + 1, c => do
    let (more, c) ← nextKey first c
    if more then
      let (k, c) ← stringRest c.advance
      match lookup fields k with
      | some (s, _) =>
        if (lookup given k).isSome then
          (endOfRecord c).fault (.mismatch (.duplicate k))
        else
          let c ← colon c
          let (x, c) ← valueAs depth s fuel c
          fieldsAs depth fields (given ++ [(k, x)]) false fuel c
      | none =>
        let c ← colon c
        let c ← skipValue [] (fuelFor c.rest) c
        fieldsAs depth fields given false fuel c
    else return (given, c.advance)
termination_by structural fuel => fuel

/-- The fields of a record given as a list, in declared order; the cursor stays before what is
left of the list. -/
def elementsAs (depth : Nat) (name : String) (count index : Nat) :
    List (String × Shape × Option Json) → Nat → Cursor →
      Except Fault (List (String × Json) × Cursor)
  | _, 0, c => c.fault .eofList
  | [], _ + 1, c => .ok ([], c)
  | (field, s, default) :: fields, fuel + 1, c => do
    let (more, c) ← nextItem (index = 0) c
    if more then
      let (x, c) ← valueAs depth s fuel c
      let (es, c) ← elementsAs depth name count (index + 1) fields fuel c
      return ((field, x) :: es, c)
    else
      let es ← mismatchAt (endOfElements c)
        (Shape.trailing name count index ((field, s, default) :: fields))
      return (es, c)
termination_by structural _ fuel => fuel
end

/-- The value of a text, read as a shape. -/
def readAs (s : Shape) (bytes : List UInt8) : Except Fault Json :=
  finish (valueAs depthLimit s (fuelFor bytes) (start bytes))

end RestKit.Json
