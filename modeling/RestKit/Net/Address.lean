import RestKit.Text.Blank
import RestKit.Text.Numeral
import RestKit.Text.Uuid
/-!
# IP addresses

The written forms of IPv4 and IPv6 addresses, and the looser IPv4 numbers of URL hosts.
-/
namespace RestKit.Net

/-- One part of a dotted address: up to three digits, no leading zero, at most 255. -/
def isOctet (cs : List Char) : Bool :=
  match Numeral.digits? cs with
  | some n => cs.length ≤ 3 && n ≤ 255 && (cs.length = 1 || cs.head? != some '0')
  | none => false

/-- Four parts joined by dots. -/
def isIpv4 (s : String) : Bool :=
  let parts := Text.splitChars (· = '.') s.toList
  parts.length = 4 && parts.all isOctet

def isGroup (cs : List Char) : Bool := 1 ≤ cs.length && cs.length ≤ 4 && cs.all Text.isHexDigit

/-- The number of 16-bit groups that some parts stand for; the last may be a dotted address. -/
def groupCount (parts : List (List Char)) : Option Nat :=
  match parts.reverse with
  | [] => some 0
  | last :: before =>
    if !before.all isGroup then none
    else if isGroup last then some parts.length
    else if isIpv4 (String.ofList last) then some (parts.length + 1)
    else none

/-- The parts between colons; the empty text has none. -/
def colonParts (cs : List Char) : List (List Char) :=
  if cs.isEmpty then [] else Text.splitChars (· = ':') cs

/-- The texts before and after the first double colon. -/
def splitDouble (before : List Char) : List Char → Option (List Char × List Char)
  | ':' :: ':' :: rest => some (before.reverse, rest)
  | c :: rest => splitDouble (c :: before) rest
  | [] => none

/-- Eight groups, or fewer around one double colon. -/
def isIpv6 (s : String) : Bool :=
  match splitDouble [] s.toList with
  | none => groupCount (Text.splitChars (· = ':') s.toList) == some 8
  | some (front, back) =>
    (colonParts front).all isGroup &&
      match groupCount (colonParts back) with
      | some n => (colonParts front).length + n ≤ 7
      | none => false

def isIp (s : String) : Bool := isIpv4 s || isIpv6 s

/-! ## Numbers in URL hosts -/

def hexNumber? (cs : List Char) : Option Nat :=
  if cs.all Text.isHexDigit then
    some (cs.foldl (fun n c =>
      n * 16 + (if c.isDigit then c.toNat - 48 else c.toLower.toNat - 87)) 0)
  else none

def octalNumber? (cs : List Char) : Option Nat :=
  if cs.all fun c => '0' ≤ c && c ≤ '7' then some (cs.foldl (fun n c => n * 8 + (c.toNat - 48)) 0)
  else none

/-- A decimal number, an octal one with a leading zero, or a hexadecimal one behind `0x`. -/
def hostNumber? (cs : List Char) : Option Nat :=
  match cs with
  | [] => none
  | '0' :: 'x' :: r | '0' :: 'X' :: r => hexNumber? r
  | '0' :: c :: r => octalNumber? (c :: r)
  | cs => Numeral.digits? cs

/-- The parts of a host between dots, less a last empty one. -/
def hostParts (host : String) : List (List Char) :=
  let parts := Text.splitChars (· = '.') host.toList
  if 1 < parts.length && parts.getLast? == some [] then parts.dropLast else parts

/-- Whether a host has to be an IPv4 address because its last part is a number. -/
def endsInNumber (host : String) : Bool :=
  match (hostParts host).getLast? with
  | none | some [] => false
  | some last =>
    last.all Char.isDigit ||
      (match last with
        | '0' :: 'x' :: _ | '0' :: 'X' :: _ => (hostNumber? last).isSome
        | _ => false)

/-- An IPv4 address of up to four numbers, the last of which fills what the others leave. -/
def isHostIpv4 (host : String) : Bool :=
  let parts := hostParts host
  match (parts.mapM hostNumber?).map List.reverse with
  | some (last :: before) =>
    parts.length ≤ 4 && before.all (· ≤ 255) && last < Nat.pow 256 (5 - parts.length)
  | _ => false

end RestKit.Net
