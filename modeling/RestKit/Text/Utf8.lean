/-!
# UTF-8

Bytes read as text. `Symbol` keeps each byte that belongs to no character, so that a reader can
report its place; `lossy` puts one replacement character for each broken sequence.
-/
namespace RestKit.Utf8

/-- One unit of a byte text: a character, or the bytes of a broken sequence. -/
inductive Symbol where
  | char (c : Char)
  | stray (bytes : List UInt8)
deriving DecidableEq, Repr

/-- The number of bytes a symbol takes. -/
def Symbol.size : Symbol → Nat
  | .char c => c.utf8Size
  | .stray bytes => bytes.length

/-- The character of a symbol. -/
def Symbol.char? : Symbol → Option Char
  | .char c => some c
  | .stray _ => none

def isContinuation (b : UInt8) : Bool := 0x80 ≤ b && b ≤ 0xBF

/-- The admitted second bytes of a sequence, and its length, by its first byte. -/
def lead? (b : UInt8) : Option (UInt8 × UInt8 × Nat) :=
  if 0xC2 ≤ b && b ≤ 0xDF then some (0x80, 0xBF, 2)
  else if b = 0xE0 then some (0xA0, 0xBF, 3)
  else if b = 0xED then some (0x80, 0x9F, 3)
  else if 0xE1 ≤ b && b ≤ 0xEF then some (0x80, 0xBF, 3)
  else if b = 0xF0 then some (0x90, 0xBF, 4)
  else if 0xF1 ≤ b && b ≤ 0xF3 then some (0x80, 0xBF, 4)
  else if b = 0xF4 then some (0x80, 0x8F, 4)
  else none

/-- The low six bits of a continuation byte. -/
def low (b : UInt8) : Nat := b.toNat % 64

/-- The symbols of a byte list. A broken sequence ends before the first byte that cannot
continue it. -/
def symbols : List UInt8 → List Symbol
  | [] => []
  | a :: r =>
    if a < 0x80 then .char (Char.ofNat a.toNat) :: symbols r
    else match lead? a with
      | none => .stray [a] :: symbols r
      | some (lo, hi, n) =>
        match r with
        | [] => [.stray [a]]
        | b :: r =>
          if !(lo ≤ b && b ≤ hi) then .stray [a] :: symbols (b :: r)
          else if n = 2 then .char (Char.ofNat (a.toNat % 32 * 64 + low b)) :: symbols r
          else match r with
            | [] => [.stray [a, b]]
            | c :: r =>
              if !isContinuation c then .stray [a, b] :: symbols (c :: r)
              else if n = 3 then
                .char (Char.ofNat (a.toNat % 16 * 4096 + low b * 64 + low c)) :: symbols r
              else match r with
                | [] => [.stray [a, b, c]]
                | d :: r =>
                  if !isContinuation d then .stray [a, b, c] :: symbols (d :: r)
                  else
                    .char (Char.ofNat (a.toNat % 8 * 262144 + low b * 4096 + low c * 64 + low d))
                      :: symbols r

/-- The text of a byte list, if all of it is text. -/
def decode? (bytes : List UInt8) : Option String :=
  ((symbols bytes).mapM Symbol.char?).map String.ofList

/-- The text of a byte list, with U+FFFD for each broken sequence. -/
def lossy (bytes : List UInt8) : String :=
  String.ofList ((symbols bytes).map fun s => s.char?.getD (Char.ofNat 0xFFFD))

/-- The bytes of a text. -/
def encode (s : String) : List UInt8 := s.toUTF8.toList

end RestKit.Utf8
