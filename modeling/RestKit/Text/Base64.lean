/-!
# Base64 for URLs

Bytes as letters, digits, `-` and `_`, without padding. `decode` takes exactly the texts that
`encode` gives and says where any other goes wrong.
-/
namespace RestKit.Base64

def alphabet : List Char :=
  "ABCDEFGHIJKLMNOPQRSTUVWXYZabcdefghijklmnopqrstuvwxyz0123456789-_".toList

/-- The symbol of a number below 64. -/
def symbol (n : Nat) : Char := alphabet.getD n 'A'

/-- The text of some bytes: four symbols for three bytes, fewer for what is left. -/
def encode : List UInt8 → List Char
  | a :: b :: c :: rest =>
    symbol (a.toNat / 4) :: symbol (a.toNat % 4 * 16 + b.toNat / 16)
      :: symbol (b.toNat % 16 * 4 + c.toNat / 64) :: symbol (c.toNat % 64) :: encode rest
  | [a, b] =>
    [symbol (a.toNat / 4), symbol (a.toNat % 4 * 16 + b.toNat / 16), symbol (b.toNat % 16 * 4)]
  | [a] => [symbol (a.toNat / 4), symbol (a.toNat % 4 * 16)]
  | [] => []

/-- Why a text is refused. -/
inductive Fault where
  | symbol (byte : UInt8) (offset : Nat)
  | length (n : Nat)
  | lastSymbol (byte : UInt8) (offset : Nat)
  | padding
deriving DecidableEq, Repr

def Fault.message : Fault → String
  | .symbol b n => "Invalid symbol " ++ toString b.toNat ++ ", offset " ++ toString n ++ "."
  | .length n => "Invalid input length: " ++ toString n
  | .lastSymbol b n =>
    "Invalid last symbol " ++ toString b.toNat ++ ", offset " ++ toString n ++ "."
  | .padding => "Invalid padding"

/-- The number of a symbol. -/
def value? (b : UInt8) : Option Nat :=
  let n := b.toNat
  if 65 ≤ n ∧ n ≤ 90 then some (n - 65)
  else if 97 ≤ n ∧ n ≤ 122 then some (n - 71)
  else if 48 ≤ n ∧ n ≤ 57 then some (n + 4)
  else if n = 45 then some 62
  else if n = 95 then some 63
  else none

/-- The number of the symbol at an offset. -/
def value (b : UInt8) (offset : Nat) : Except Fault Nat :=
  match value? b with
  | some n => .ok n
  | none => .error (.symbol b offset)

def pad : UInt8 := 61

def values (offset : Nat) : List UInt8 → Except Fault (List Nat)
  | [] => .ok []
  | b :: bs => do
    let n ← value b offset
    return n :: (← values (offset + 1) bs)

/-- The bytes of up to four numbers; bits that make no byte have to be zero. -/
def bytesOf : List Nat → Option (List UInt8)
  | [a, b] => if b % 16 = 0 then some [UInt8.ofNat (a * 4 + b / 16)] else none
  | [a, b, c] =>
    if c % 4 = 0 then some [UInt8.ofNat (a * 4 + b / 16), UInt8.ofNat (b % 16 * 16 + c / 4)]
    else none
  | [a, b, c, d] =>
    some [UInt8.ofNat (a * 4 + b / 16), UInt8.ofNat (b % 16 * 16 + c / 4),
      UInt8.ofNat (c % 4 * 64 + d)]
  | _ => some []

/-- The bytes of the last one to four symbols. -/
def decodeLast (offset : Nat) (bytes : List UInt8) : Except Fault (List UInt8) := do
  let symbols := bytes.takeWhile (· ≠ pad)
  let pads := bytes.dropWhile (· ≠ pad)
  let ns ← values offset symbols
  let n := ns.length
  if !pads.isEmpty && (n < 2 || pads.any (· ≠ pad)) then throw (.symbol pad (offset + n))
  if n < 2 then throw (.length (offset + n))
  if !pads.isEmpty then throw .padding
  match bytesOf ns with
  | some out => return out
  | none => throw (.lastSymbol (symbols.getLast?.getD 0) (offset + n - 1))

/-- The bytes of a text from an offset on. -/
def decodeFrom (offset : Nat) : List UInt8 → Except Fault (List UInt8)
  | a :: b :: c :: d :: e :: rest => do
    let ns ← values offset [a, b, c, d]
    return (bytesOf ns).getD [] ++ (← decodeFrom (offset + 4) (e :: rest))
  | [] => .ok []
  | bytes => decodeLast offset bytes

/-- The bytes of a text. A symbol too many that is none is reported first. -/
def decode (text : List UInt8) : Except Fault (List UInt8) :=
  match text.getLast? with
  | some b =>
    if text.length % 4 = 1 && b ≠ pad && (value? b).isNone then .error (.symbol b (text.length - 1))
    else decodeFrom 0 text
  | none => .ok []

end RestKit.Base64
