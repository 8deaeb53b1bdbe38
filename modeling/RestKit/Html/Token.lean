import RestKit.Html.Entity
/-!
# Tokens of HTML

`next` reads the tokens at the front of a text. How text is read depends on the element it stands
in: inside `title` only references count, inside `style` nothing but the end tag does. All
characters come out one by one; comments and doctypes leave no trace but their place.
-/
namespace RestKit.Html

/-- How the text at the place reached is read. `raw` and `script` name the tag that ends them. -/
inductive Content where
  | data
  | references (tag : List Char)
  | raw (tag : List Char)
  | script
  | plain
deriving DecidableEq, Repr

inductive Token where
  | char (c : Char)
  | start (name : String) (attributes : List (String × String)) (selfClosing : Bool)
  | stop (name : String)
  | comment
  | eof
deriving DecidableEq, Repr

def isSpace (c : Char) : Bool := c = '\t' || c = '\n' || c.toNat = 12 || c = '\r' || c = ' '

/-- Line ends become line feeds, and a byte order mark in front is dropped. -/
def normalizeLines : List Char → List Char
  | '\r' :: '\n' :: r => '\n' :: normalizeLines r
  | '\r' :: r => '\n' :: normalizeLines r
  | c :: r => c :: normalizeLines r
  | [] => []

def prepare (s : String) : List Char :=
  let cs := match s.toList with
    | c :: r => if c.toNat = 0xFEFF then r else c :: r
    | [] => []
  normalizeLines cs

def replaceNul (c : Char) : Char := if c.toNat = 0 then Char.ofNat 0xFFFD else c

/-- A name in lower case, with no NUL in it. -/
def nameOf (cs : List Char) : String := String.ofList (cs.map fun c => replaceNul c.toLower)

/-! ## Tags -/

/-- Characters that end a tag's name. -/
def endsName (c : Char) : Bool := isSpace c || c = '/' || c = '>'

/-- Characters that end an attribute's name, apart from a first `=`. -/
def endsAttribute (c : Char) : Bool := endsName c || c = '='

/-- An attribute's value with its references resolved. -/
def valueOf (cs : List Char) : String :=
  String.ofList (decodeReferences true (cs.map replaceNul))

/-- A value behind its `=`; `none` if the text ends in it. -/
def attributeValue (cs : List Char) : Option (String × List Char) :=
  let quoted (q : Char) (r : List Char) : Option (String × List Char) :=
    match r.dropWhile (· ≠ q) with
    | _ :: rest => some (valueOf (r.takeWhile (· ≠ q)), rest)
    | [] => none
  match cs.dropWhile isSpace with
  | [] => none
  | '"' :: r => quoted '"' r
  | '\'' :: r => quoted '\'' r
  | '>' :: r => some ("", '>' :: r)
  | r =>
    let stop (c : Char) : Bool := isSpace c || c = '>'
    some (valueOf (r.takeWhile fun c => !stop c), r.dropWhile fun c => !stop c)

/-- Add an attribute unless there is one of its name. -/
def addAttribute (attributes : List (String × String)) (name value : String) :
    List (String × String) :=
  if attributes.any (·.1 == name) then attributes else attributes ++ [(name, value)]

/-- The attributes of a tag up to its `>`, whether it closes itself, and what follows; `none` if
the text ends before. -/
def attributes :
    Nat → List (String × String) → List Char → Option (List (String × String) × Bool × List Char)
  | 0, _, _ => none
  | fuel + 1, found, cs =>
    match cs.dropWhile isSpace with
    | [] => none
    | '>' :: r => some (found, false, r)
    | '/' :: '>' :: r => some (found, true, r)
    | '/' :: r => attributes fuel found r
    | c :: r =>
      let name := nameOf (c :: r.takeWhile fun c => !endsAttribute c)
      match (r.dropWhile fun c => !endsAttribute c).dropWhile isSpace with
      | '=' :: r =>
        match attributeValue r with
        | some (value, r) => attributes fuel (addAttribute found name value) r
        | none => none
      | r => attributes fuel (addAttribute found name "") r

/-- A tag behind its `<` or `</`, at the first letter of its name. -/
def tag (cs : List Char) : Option (String × List (String × String) × Bool × List Char) :=
  let name := nameOf (cs.takeWhile fun c => !endsName c)
  let rest := cs.dropWhile fun c => !endsName c
  (attributes (rest.length + 1) [] rest).map fun (as, selfClosing, r) => (name, as, selfClosing, r)

/-! ## Markup declarations -/

/-- What follows the end of a comment. -/
def behindComment : List Char → List Char
  | '-' :: '-' :: '>' :: r => r
  | '-' :: '-' :: '!' :: '>' :: r => r
  | _ :: r => behindComment r
  | [] => []

def comment : List Char → List Char
  | '>' :: r => r
  | '-' :: '>' :: r => r
  | r => behindComment r

/-- What follows the next `>`. -/
def behindTag (cs : List Char) : List Char := (cs.dropWhile (· ≠ '>')).drop 1

/-- The text of a CDATA section, and what follows it. -/
def cdata : List Char → List Char × List Char
  | ']' :: ']' :: '>' :: r => ([], r)
  | c :: r =>
    let (text, r) := cdata r
    (c :: text, r)
  | [] => ([], [])

def startsWithIgnoringCase (word : String) (cs : List Char) : Bool :=
  (cs.take word.length).map Char.toLower == word.toList

/-! ## Text with an end tag -/

/-- Whether the end tag of an element stands at the front. -/
def isEndTag (name : List Char) (cs : List Char) : Bool :=
  match cs with
  | '<' :: '/' :: r =>
    (r.take name.length).map Char.toLower == name &&
      (match r.drop name.length with
        | c :: _ => endsName c
        | [] => false)
  | _ => false

/-- The text before the end tag of an element. -/
def untilEndTag (name : List Char) : List Char → List Char × List Char
  | [] => ([], [])
  | c :: cs =>
    if isEndTag name (c :: cs) then ([], c :: cs)
    else
      let (text, rest) := untilEndTag name cs
      (c :: text, rest)

/-- Whether a script tag, opening or closing, stands at the front behind `<` or `</`. -/
def isScriptWord (cs : List Char) : Bool :=
  startsWithIgnoringCase "script" cs &&
    (match cs.drop 6 with
      | c :: _ => endsName c
      | [] => false)

/-- How far a script is inside a comment: not at all, in one, or in a nested script. -/
inductive Escape where
  | none
  | escaped
  | doubled
deriving DecidableEq, Repr

/-- The text of a script before the end tag that ends it. -/
def untilScriptEnd (e : Escape) : List Char → List Char × List Char
  | [] => ([], [])
  | c :: cs =>
    if e ≠ .doubled && isEndTag "script".toList (c :: cs) then ([], c :: cs)
    else
      let next : Escape := match e, c :: cs with
        | .none, '<' :: '!' :: '-' :: '-' :: r =>
          -- an empty comment ends at once
          if r.take 1 = ['>'] ∨ r.take 2 = ['-', '>'] then .none else .escaped
        | .escaped, '-' :: '-' :: '>' :: _ | .doubled, '-' :: '-' :: '>' :: _ => .none
        | .escaped, '<' :: r => if isScriptWord r then .doubled else .escaped
        | .doubled, '<' :: '/' :: r => if isScriptWord r then .escaped else .doubled
        | e, _ => e
      let (text, rest) := untilScriptEnd next cs
      (c :: text, rest)

/-! ## The next tokens -/

def chars (cs : List Char) : List Token := cs.map .char

/-- The tokens behind a `<`. -/
def markup (foreign : Bool) (cs : List Char) : List Token × List Char :=
  match cs with
  | '!' :: '-' :: '-' :: r => ([.comment], comment r)
  | '!' :: r =>
    if foreign && r.take 7 == "[CDATA[".toList then
      let (text, rest) := cdata (r.drop 7)
      (chars text, rest)
    else ([.comment], behindTag r)
  | '?' :: r => ([.comment], behindTag r)
  | '/' :: c :: r =>
    if c.isAlpha then
      match tag (c :: r) with
      | some (name, _, _, rest) => ([.stop name], rest)
      | none => ([], [])
    else if c = '>' then ([], r)
    else ([.comment], behindTag (c :: r))
  | c :: r =>
    if c.isAlpha then
      match tag (c :: r) with
      | some (name, as, selfClosing, rest) => ([.start name as selfClosing], rest)
      | none => ([], [])
    else ([.char '<'], c :: r)
  | [] => ([.char '<'], [])

/-- The tokens at the front of a text and the rest of it. Every call reads at least one
character. -/
def next (content : Content) (foreign : Bool) (cs : List Char) : List Token × List Char :=
  match content with
  | .data =>
    match cs with
    | [] => ([], [])
    | '<' :: r => markup foreign r
    | cs => (chars (decodeReferences false (cs.takeWhile (· ≠ '<'))), cs.dropWhile (· ≠ '<'))
  | .plain => (chars (cs.map replaceNul), [])
  | .references name =>
    let (text, rest) := untilEndTag name cs
    (chars (decodeReferences false (text.map replaceNul)) ++ endTag rest, behindEnd rest)
  | .raw name =>
    let (text, rest) := untilEndTag name cs
    (chars (text.map replaceNul) ++ endTag rest, behindEnd rest)
  | .script =>
    let (text, rest) := untilScriptEnd .none cs
    (chars (text.map replaceNul) ++ endTag rest, behindEnd rest)
where
  /-- The end tag at the front. -/
  endTag (rest : List Char) : List Token :=
    match tag (rest.drop 2) with
    | some (name, _, _, _) => if rest.isEmpty then [] else [.stop name]
    | none => []
  behindEnd (rest : List Char) : List Char :=
    match tag (rest.drop 2) with
    | some (_, _, _, r) => r
    | none => []

end RestKit.Html
