import RestKit.Json.Basic
/-!
# JSON texts, written

The compact form: no blanks, entries in the object's order, and the shortest escape of each
character that needs one.
-/
namespace RestKit.Json

/-- The lower-case hexadecimal digit of a number below 16. -/
def hexDigit (n : Nat) : Char := (Nat.toDigits 16 n).headD '0'

/-- A character inside a quoted string: quote, backslash and control characters are escaped. -/
def escapeChar (c : Char) : List Char :=
  if c = '"' then ['\\', '"']
  else if c = '\\' then ['\\', '\\']
  else if c = '\n' then ['\\', 'n']
  else if c = '\r' then ['\\', 'r']
  else if c = '\t' then ['\\', 't']
  else if c.toNat = 8 then ['\\', 'b']
  else if c.toNat = 12 then ['\\', 'f']
  else if c.toNat < 32 then ['\\', 'u', '0', '0', hexDigit (c.toNat / 16), hexDigit (c.toNat % 16)]
  else [c]

/-- A string with its quotes. -/
def quoted (s : String) : String :=
  String.ofList ('"' :: (s.toList.flatMap escapeChar ++ ['"']))

mutual
/-- The compact text of a value. -/
def compact : Json → String
  | .null => "null"
  | .bool true => "true"
  | .bool false => "false"
  | .number n => n.written
  | .string s => quoted s
  | .array xs => "[" ++ compactItems xs ++ "]"
  | .object es => "\x7b" ++ compactEntries es ++ "\x7d"
def compactItems : List Json → String
  | [] => ""
  | [x] => compact x
  | x :: y :: rest => compact x ++ "," ++ compactItems (y :: rest)
def compactEntries : List (String × Json) → String
  | [] => ""
  | [(k, x)] => quoted k ++ ":" ++ compact x
  | (k, x) :: e :: rest => quoted k ++ ":" ++ compact x ++ "," ++ compactEntries (e :: rest)
end

end RestKit.Json
