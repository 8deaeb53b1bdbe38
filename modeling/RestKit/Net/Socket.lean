import RestKit.Net.Address
/-!
# Socket addresses

The address and port of a peer. `socketAddress?` reads one and gives the address in its canonical
text: in IPv6 the groups without leading zeros, the longest run of zero groups as a double colon.
-/
namespace RestKit.Net

/-- The value of a part of an address in hexadecimal. -/
def groupValue (cs : List Char) : Nat := (hexNumber? cs).getD 0

/-- The octets of a dotted address. -/
def octets (s : String) : List Nat :=
  (Text.splitChars (· = '.') s.toList).map fun cs => (Numeral.digits? cs).getD 0

/-- The 16-bit groups of some parts; a dotted part gives two. -/
def groupsOf (parts : List (List Char)) : List Nat :=
  parts.flatMap fun cs =>
    if cs.contains '.' then
      match octets (String.ofList cs) with
      | [a, b, c, d] => [a * 256 + b, c * 256 + d]
      | _ => []
    else [groupValue cs]

/-- The eight groups of an IPv6 address. -/
def ipv6Groups (s : String) : List Nat :=
  match splitDouble [] s.toList with
  | none => groupsOf (Text.splitChars (· = ':') s.toList)
  | some (front, back) =>
    let f := groupsOf (colonParts front)
    let b := groupsOf (colonParts back)
    f ++ List.replicate (8 - f.length - b.length) 0 ++ b

/-- The start and length of the first longest run of zeros: `best` is the longest before, and a
run of length `run` ends before position `i`. -/
def longestZeros (best : Nat × Nat) (run i : Nat) : List Nat → Nat × Nat
  | [] => best
  | g :: gs =>
    if g = 0 then
      let run := run + 1
      longestZeros (if best.2 < run then (i + 1 - run, run) else best) run (i + 1) gs
    else longestZeros best 0 (i + 1) gs

def groupsText (gs : List Nat) : String :=
  String.intercalate ":" (gs.map fun g => String.ofList (Nat.toDigits 16 g))

/-- The canonical text of eight groups. -/
def ipv6Text (gs : List Nat) : String :=
  match gs with
  | [0, 0, 0, 0, 0, 0xffff, a, b] =>
    "::ffff:" ++ String.intercalate "." ([a / 256, a % 256, b / 256, b % 256].map toString)
  | gs =>
    let (start, length) := longestZeros (0, 0) 0 0 gs
    if length < 2 then groupsText gs
    else groupsText (gs.take start) ++ "::" ++ groupsText (gs.drop (start + length))

/-- A port: digits up to 65535. -/
def isPortNumber (cs : List Char) : Bool := ((Numeral.digits? cs).filter (· ≤ 65535)).isSome

/-- The address of a text `address:port`, an IPv6 address in brackets. -/
def socketAddress? (s : String) : Option String :=
  match s.toList with
  | '[' :: rest =>
    let address := String.ofList (rest.takeWhile (· ≠ ']'))
    match rest.dropWhile (· ≠ ']') with
    | ']' :: ':' :: port =>
      if isIpv6 address && isPortNumber port then some (ipv6Text (ipv6Groups address)) else none
    | _ => none
  | cs =>
    match Text.splitChars (· = ':') cs with
    | [address, port] =>
      if isIpv4 (String.ofList address) && isPortNumber port then
        some (String.ofList address)
      else none
    | _ => none

end RestKit.Net
