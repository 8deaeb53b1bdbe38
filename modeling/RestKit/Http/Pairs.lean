import RestKit.Net.Url
import RestKit.Text.Utf8
/-!
# Encoded pairs

The encoding of query strings and url-encoded forms: pairs joined by `&`, name and value by the
first `=`, a plus for a space and percent escapes for bytes.
-/
namespace RestKit.Http

/-- The pieces of a byte list between occurrences of a byte. -/
def splitBytes (sep : UInt8) : List UInt8 → List (List UInt8)
  | [] => [[]]
  | b :: bs =>
    if b = sep then [] :: splitBytes sep bs
    else match splitBytes sep bs with
      | [] => [[b]]
      | w :: ws => (b :: w) :: ws

/-- The byte that two hexadecimal digits spell. -/
def hexByte? (a b : UInt8) : Option UInt8 := Net.hexPair? (Char.ofNat a.toNat) (Char.ofNat b.toNat)

/-- Percent escapes resolved; a percent sign that starts none stands for itself. -/
def percentDecode : List UInt8 → List UInt8
  | 37 :: a :: b :: rest =>
    match hexByte? a b with
    | some x => x :: percentDecode rest
    | none => 37 :: percentDecode (a :: b :: rest)
  | b :: rest => b :: percentDecode rest
  | [] => []

/-- The text of a name or a value; bytes that are no text are replaced. -/
def decodeComponent (bytes : List UInt8) : String :=
  Utf8.lossy (percentDecode (bytes.map fun b => if b = 43 then 32 else b))

/-- One pair; without `=` the value is empty. -/
def decodePair (bytes : List UInt8) : String × String :=
  (decodeComponent (bytes.takeWhile (· ≠ 61)), decodeComponent ((bytes.dropWhile (· ≠ 61)).drop 1))

/-- The pairs of an encoded text, in order. -/
def pairsOf (bytes : List UInt8) : List (String × String) :=
  ((splitBytes 38 bytes).filter fun p => !p.isEmpty).map decodePair

/-- The pairs of a query string; an absent one has none (`query_pairs`). -/
def queryPairs (query : Option String) : List (String × String) :=
  (query.map fun q => pairsOf (Utf8.encode q)).getD []

end RestKit.Http
