/-!
# Blanks

The characters with the Unicode property White_Space, and the cuts of a text at them. `trim` drops
them at both ends, `words` gives the pieces between them, `splitOn` cuts at one separator.
-/
namespace RestKit.Text

/-- White_Space of Unicode: 25 characters. -/
def isBlank (c : Char) : Bool :=
  let n := c.toNat
  (9 ≤ n && n ≤ 13) || n = 32 || n = 0x85 || n = 0xA0 || n = 0x1680 || (0x2000 ≤ n && n ≤ 0x200A)
    || n = 0x2028 || n = 0x2029 || n = 0x202F || n = 0x205F || n = 0x3000

/-- Drop blanks at the front of a character list. -/
def dropBlanks (cs : List Char) : List Char := cs.dropWhile isBlank

/-- Drop blanks at both ends of a character list. -/
def trimChars (cs : List Char) : List Char := (dropBlanks (dropBlanks cs).reverse).reverse

/-- Drop blanks at both ends. -/
def trim (s : String) : String := String.ofList (trimChars s.toList)

/-- Drop blanks at the front. -/
def trimStart (s : String) : String := String.ofList (dropBlanks s.toList)

/-- Nothing but blanks. -/
def isBlankText (s : String) : Bool := s.toList.all isBlank

/-- The pieces of a character list between characters that satisfy `p`, empty ones included. -/
def splitChars (p : Char → Bool) : List Char → List (List Char)
  | [] => [[]]
  | c :: cs =>
    if p c then [] :: splitChars p cs
    else match splitChars p cs with
      | [] => [[c]]
      | w :: ws => (c :: w) :: ws

/-- The pieces between occurrences of a separator, empty ones included. -/
def splitOn (sep : Char) (s : String) : List String :=
  (splitChars (· = sep) s.toList).map String.ofList

/-- The non-empty pieces between blanks. -/
def words (s : String) : List String :=
  ((splitChars isBlank s.toList).filter fun w => !w.isEmpty).map String.ofList

/-- The parts before and after the first occurrence of a separator. -/
def splitOnce (sep : Char) (s : String) : Option (String × String) :=
  let cs := s.toList
  match cs.dropWhile (· ≠ sep) with
  | [] => none
  | _ :: rest => some (String.ofList (cs.takeWhile (· ≠ sep)), String.ofList rest)

/-- ASCII letters in lower case, all else unchanged. -/
def asciiLower (s : String) : String := String.ofList (s.toList.map Char.toLower)

/-- Equality up to the case of ASCII letters. -/
def sameIgnoringCase (a b : String) : Bool := asciiLower a == asciiLower b

def startsWith (c : Char) (s : String) : Bool := s.toList.head? == some c

end RestKit.Text
