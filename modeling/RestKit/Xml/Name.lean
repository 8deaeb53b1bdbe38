/-!
# XML names

The characters of XML 1.1 names, those that may start one and those that may follow.
-/
namespace RestKit.Xml

def nameStartRanges : List (Nat × Nat) :=
  [(0x3A, 0x3A), (0x41, 0x5A), (0x5F, 0x5F), (0x61, 0x7A), (0xC0, 0xD6), (0xD8, 0xF6),
    (0xF8, 0x2FF), (0x370, 0x37D), (0x37F, 0x1FFF), (0x200C, 0x200D), (0x2070, 0x218F),
    (0x2C00, 0x2FEF), (0x3001, 0xD7FF), (0xF900, 0xFDCF), (0xFDF0, 0xFFFD), (0x10000, 0xEFFFF)]

def nameExtraRanges : List (Nat × Nat) :=
  [(0x2D, 0x2E), (0x30, 0x39), (0xB7, 0xB7), (0x300, 0x36F), (0x203F, 0x2040)]

def within (ranges : List (Nat × Nat)) (c : Char) : Bool :=
  ranges.any fun (a, b) => a ≤ c.toNat && c.toNat ≤ b

def isNameStart (c : Char) : Bool := within nameStartRanges c

def isNameChar (c : Char) : Bool := isNameStart c || within nameExtraRanges c

/-- A text that may name an element or an attribute; the empty text is let through. -/
def isName (s : String) : Bool :=
  match s.toList with
  | [] => true
  | c :: cs => isNameStart c && cs.all isNameChar

end RestKit.Xml
