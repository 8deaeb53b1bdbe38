import RestKit.Net.Address
import RestKit.Net.Domain
import RestKit.Text.Utf8
/-!
# URLs

Whether a text is an absolute URL, and with which scheme. A text without a scheme is relative; one
with a scheme is refused when its host or port is malformed.
-/
namespace RestKit.Net

/-- What a text is as a URL. -/
inductive UrlForm where
  | absolute (scheme : String)
  | relative
  | invalid
deriving DecidableEq, Repr

/-- Controls and the space are dropped at the ends, tabs and line ends everywhere. -/
def cleanUrl (cs : List Char) : List Char :=
  let edge (c : Char) : Bool := c.toNat ≤ 32
  let inner := ((cs.dropWhile edge).reverse.dropWhile edge).reverse
  inner.filter fun c => c ≠ '\t' ∧ c ≠ '\n' ∧ c ≠ '\r'

/-- A scheme and what follows its colon. -/
def splitScheme (cs : List Char) : Option (String × List Char) :=
  let isSchemeChar (c : Char) : Bool := c.isAlphanum || c = '+' || c = '-' || c = '.'
  match cs with
  | c :: _ =>
    if c.isAlpha then
      match cs.dropWhile isSchemeChar with
      | ':' :: rest => some (Text.asciiLower (String.ofList (cs.takeWhile isSchemeChar)), rest)
      | _ => none
    else none
  | [] => none

def isSpecialScheme (scheme : String) : Bool :=
  ["http", "https", "ws", "wss", "ftp"].contains scheme

/-- Characters that end the authority. -/
def endsAuthority (special : Bool) (c : Char) : Bool :=
  c = '/' || c = '?' || c = '#' || (special && c = '\\')

def hexPair? (a b : Char) : Option UInt8 :=
  (hexNumber? [a, b]).map UInt8.ofNat

/-- The bytes of a text with its percent escapes resolved. -/
def percentDecode : List Char → List UInt8
  | '%' :: a :: b :: rest =>
    match hexPair? a b with
    | some x => x :: percentDecode rest
    | none => String.utf8EncodeChar '%' ++ percentDecode (a :: b :: rest)
  | c :: rest => String.utf8EncodeChar c ++ percentDecode rest
  | [] => []

/-- Characters that no host may hold. -/
def isForbiddenInHost (c : Char) : Bool :=
  c.toNat = 0 || c = '\t' || c = '\n' || c = '\r' || " #/:<>?@[\\]^|".toList.contains c

/-- Characters that no domain may hold. -/
def isForbiddenInDomain (c : Char) : Bool :=
  isForbiddenInHost c || c.toNat < 32 || c.toNat = 127 || c = '%'

/-- An address in brackets. -/
def bracketHost (host : List Char) : Bool :=
  host.getLast? == some ']' && isIpv6 (String.ofList (host.drop 1).dropLast)

/-- Whether a host of a special scheme is well-formed. -/
def isHost (host : List Char) : Bool :=
  if host.head? == some '[' then bracketHost host
  else
    match (Utf8.decode? (percentDecode host)).bind domainToAscii with
    | none => false
    | some d =>
      !d.isEmpty && !(d.toList.any isForbiddenInDomain) &&
        (if endsInNumber d then isHostIpv4 d else true)

/-- Whether a host of any other scheme is well-formed. -/
def isOpaqueHost (host : List Char) : Bool :=
  if host.head? == some '[' then bracketHost host else !host.any isForbiddenInHost

/-- The host at the front of an authority without credentials, up to a colon outside brackets. -/
def hostPart (inBrackets : Bool) : List Char → List Char × List Char
  | [] => ([], [])
  | c :: cs =>
    if c = ':' ∧ !inBrackets then ([], c :: cs)
    else
      let (h, r) := hostPart (if c = '[' then true else if c = ']' then false else inBrackets) cs
      (c :: h, r)

/-- A port: digits below `2 ^ 16`, or nothing. -/
def isPort (cs : List Char) : Bool :=
  cs.all Char.isDigit && (cs.isEmpty || ((Numeral.digits? cs).any fun n => n < 65536))

/-- Whether an authority is well-formed: credentials, a host and a port. -/
def isAuthority (special : Bool) (authority : List Char) : Bool :=
  let back := authority.reverse.takeWhile (· ≠ '@')
  let credentials := authority.length - back.length
  let rest := back.reverse
  let (host, port) := hostPart false rest
  -- credentials are the part before the last at sign; a lone at sign is no part
  if host.isEmpty then !special && port.isEmpty && credentials ≤ 0
  else (if special then isHost host else isOpaqueHost host) && isPort (port.drop 1)

/-- A drive letter in the place of a host. -/
def isDriveLetter : List Char → Bool
  | [c, d] => c.isAlpha && (d = ':' || d = '|')
  | _ => false

def isSlash (c : Char) : Bool := c = '/' || c = '\\'

/-- What a text is as a URL without a base. -/
def urlForm (s : String) : UrlForm :=
  let cs := cleanUrl s.toList
  match splitScheme cs with
  | none => .relative
  | some (scheme, rest) =>
    let valid :=
      if scheme = "file" then
        match rest with
        | a :: b :: r =>
          if isSlash a && isSlash b then
            let host := r.takeWhile fun c => !endsAuthority true c
            host.isEmpty || isDriveLetter host || isHost host
          else true
        | _ => true
      else if isSpecialScheme scheme then
        isAuthority true ((rest.dropWhile isSlash).takeWhile fun c => !endsAuthority true c)
      else match rest with
        | '/' :: '/' :: r => isAuthority false (r.takeWhile fun c => !endsAuthority false c)
        | _ => true
    if valid then .absolute scheme else .invalid

/-- Whether a text is an absolute URL. -/
def isUrl (s : String) : Bool :=
  match urlForm s with
  | .absolute _ => true
  | _ => false

end RestKit.Net
