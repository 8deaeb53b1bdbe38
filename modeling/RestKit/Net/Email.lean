import RestKit.Net.Address
import RestKit.Net.Domain
/-!
# E-mail addresses

A local part of at most 64 characters and a domain of at most 255, around the last `@`. The domain
is a host name, an international one, or an address in brackets.
-/
namespace RestKit.Net

/-- An ASCII letter, or one of the two characters that fold to one. -/
def isFoldedLetter (c : Char) : Bool := c.isAlpha || c.toNat = 0x17F || c.toNat = 0x212A

def isLabelChar (c : Char) : Bool := isFoldedLetter c || c.isDigit

def isLocalChar (c : Char) : Bool := isLabelChar c || ".!#$%&'*+/=?^_`\x7b|\x7d~-".toList.contains c

/-- Up to 63 letters, digits and hyphens, with no hyphen at the ends. -/
def isLabel (cs : List Char) : Bool :=
  match cs, cs.getLast? with
  | c :: _, some d =>
    cs.length ≤ 63 && isLabelChar c && isLabelChar d && cs.all fun x => isLabelChar x || x = '-'
  | _, _ => false

def isHostName (s : String) : Bool := (Text.splitChars (· = '.') s.toList).all isLabel

/-- The text in the brackets that end a domain. -/
def bracketed? (s : String) : Option String :=
  match s.toList.reverse with
  | ']' :: rest =>
    let inside := rest.takeWhile (· ≠ '[')
    if inside.length < rest.length ∧ !inside.isEmpty ∧
        inside.all fun c => Text.isHexDigit c || c = ':' || c = '.' then
      some (String.ofList inside.reverse)
    else none
  | _ => none

def isMailDomain (s : String) : Bool :=
  isHostName s || (bracketed? s).any isIp

/-- The parts around the last `@`. -/
def splitAddress (s : String) : Option (String × String) :=
  let cs := s.toList.reverse
  match cs.dropWhile (· ≠ '@') with
  | _ :: before =>
    some (String.ofList before.reverse, String.ofList (cs.takeWhile (· ≠ '@')).reverse)
  | [] => none

def isEmail (s : String) : Bool :=
  match splitAddress s with
  | none => false
  | some (user, domain) =>
    user.length ≤ 64 && domain.length ≤ 255 && !user.isEmpty && user.toList.all isLocalChar &&
      (isMailDomain domain || (domainToAscii domain).any isMailDomain)

end RestKit.Net
