import RestKit.Text.Blank
/-!
# Character tables

Tables of character properties, written as hexadecimal code points: ranges such as `41-5A 61-7A`,
and mappings from one or two characters to some, such as `DF:53,53`.
-/
namespace RestKit.Text.Table

/-- The value of a hexadecimal digit in capital letters. -/
def digit (c : Char) : Nat := if c.isDigit then c.toNat - 48 else c.toNat - 55

def number (cs : List Char) : Nat := cs.foldl (fun n c => n * 16 + digit c) 0

/-- The entries of a table's lines, which blanks part. -/
def entries (lines : List String) : List (List Char) :=
  lines.flatMap fun l => splitChars (· = ' ') l.toList

/-- A range, or a single code point. -/
def range (cs : List Char) : Nat × Nat :=
  match splitChars (· = '-') cs with
  | [a, b] => (number a, number b)
  | _ => (number cs, number cs)

def ranges (lines : List String) : List (Nat × Nat) := (entries lines).map range

/-- Code points that commas part. -/
def points (cs : List Char) : List Nat := (splitChars (· = ',') cs).map number

/-- What stands before and behind the colon. -/
def mapping (cs : List Char) : List Nat × List Nat :=
  match splitChars (· = ':') cs with
  | [a, b] => (points a, points b)
  | _ => ([], [])

def mappings (lines : List String) : List (List Nat × List Nat) := (entries lines).map mapping

/-- A range with a value. -/
def valuedRange (cs : List Char) : (Nat × Nat) × Nat :=
  match splitChars (· = ':') cs with
  | [a, b] => (range a, number b)
  | _ => ((0, 0), 0)

def valuedRanges (lines : List String) : List ((Nat × Nat) × Nat) := (entries lines).map valuedRange

/-- Whether a character lies in one of the ranges. -/
def holds (table : List (Nat × Nat)) (c : Char) : Bool :=
  table.any fun r => r.1 ≤ c.toNat && c.toNat ≤ r.2

/-- The characters that a table maps a character to. -/
def image? (table : List (List Nat × List Nat)) (c : Char) : Option (List Char) :=
  (table.find? fun m => m.1 == [c.toNat]).map fun m => m.2.map Char.ofNat

end RestKit.Text.Table
