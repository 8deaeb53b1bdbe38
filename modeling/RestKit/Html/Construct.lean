import RestKit.Html.Tree
/-!
# Building HTML trees

The tree of a piece of HTML inside a `div`. `Builder.token` puts one token into the tree as the
insertion mode says: misplaced end tags are dropped, missing ones implied, formatting elements
reopened and content that tables cannot hold moved before them.
-/
namespace RestKit.Html

inductive Mode where
  | inBody | text | inTable | inTableText | inCaption | inColumnGroup | inTableBody | inRow | inCell
  | inSelect | inSelectInTable | inTemplate
deriving DecidableEq, Repr

structure Builder where
  dom : Dom := {}
  /-- Open elements, innermost first. -/
  stack : List Nat := []
  /-- Formatting elements to reopen, last first; `none` is a marker. -/
  formatting : List (Option Nat) := []
  mode : Mode := .inBody
  /-- The mode to go back to after a text. -/
  resume : Mode := .inBody
  templates : List Mode := []
  /-- Characters read inside a table, last first. -/
  tableText : List Char := []
  fostering : Bool := false
  form : Option Nat := none
  /-- The next line feed is dropped. -/
  skipLineFeed : Bool := false
  content : Content := .data

namespace Builder

/-! ## The stack of open elements -/

def current (b : Builder) : Nat := b.stack.headD 0

def currentIs (b : Builder) (names : List String) : Bool := b.dom.isHtml b.current names

def pop (b : Builder) : Builder := { b with stack := b.stack.drop 1 }

/-- Pop through the first element with one of the names. -/
def popThrough (b : Builder) (names : List String) : Builder :=
  { b with stack := (b.stack.dropWhile fun n => !b.dom.isHtml n names).drop 1 }

/-- Pop down to an element with one of the names; the root stays. -/
def popTo (b : Builder) (names : List String) : Builder :=
  { b with stack := b.stack.dropWhile fun n => !b.dom.isHtml n ("html" :: names) }

def hasOpen (b : Builder) (names : List String) : Bool := b.stack.any fun n => b.dom.isHtml n names

/-- Elements that no search for an open element passes. -/
def isBoundary (b : Builder) (extra : List String) (n : Nat) : Bool :=
  let name := b.dom.name n
  match name.ns with
  | .html => (["applet", "caption", "html", "table", "td", "th", "marquee", "object", "template"]
      ++ extra).contains name.text
  | .math => ["mi", "mo", "mn", "ms", "mtext", "annotation-xml"].contains name.text
  | .svg => ["foreignObject", "desc", "title"].contains name.text

/-- Whether an element that satisfies `hit` is open inside every boundary. -/
def search (hit boundary : Nat → Bool) : List Nat → Bool
  | [] => false
  | n :: ns => if hit n then true else if boundary n then false else search hit boundary ns

def inScope (b : Builder) (names : List String) : Bool :=
  search (fun n => b.dom.isHtml n names) (b.isBoundary []) b.stack

def inButtonScope (b : Builder) (names : List String) : Bool :=
  search (fun n => b.dom.isHtml n names) (b.isBoundary ["button"]) b.stack

def inListScope (b : Builder) (names : List String) : Bool :=
  search (fun n => b.dom.isHtml n names) (b.isBoundary ["ol", "ul"]) b.stack

def inTableScope (b : Builder) (names : List String) : Bool :=
  search (fun n => b.dom.isHtml n names)
    (fun n => b.dom.isHtml n ["html", "table", "template"]) b.stack

def inSelectScope (b : Builder) (names : List String) : Bool :=
  search (fun n => b.dom.isHtml n names) (fun n => !b.dom.isHtml n ["optgroup", "option"]) b.stack

def nodeInScope (b : Builder) (n : Nat) : Bool := search (· = n) (b.isBoundary []) b.stack

/-- Elements whose end tags may be left out. -/
def impliedNames : List String :=
  ["dd", "dt", "li", "optgroup", "option", "p", "rb", "rp", "rt", "rtc"]

/-- Pop the elements whose end tags may be left out, except the given ones. -/
def closeImplied (b : Builder) (except : List String) : Builder :=
  { b with stack := b.stack.dropWhile fun n =>
      b.dom.isHtml n impliedNames && !b.dom.isHtml n except }

def closeP (b : Builder) : Builder := (b.closeImplied ["p"]).popThrough ["p"]

/-- Close an open paragraph. -/
def closePInScope (b : Builder) : Builder := if b.inButtonScope ["p"] then b.closeP else b

/-! ## Inserting nodes -/

/-- The inside of a node: a template's contents, else the node itself. -/
def inside (b : Builder) (n : Nat) : Nat := ((b.dom.record n).content).getD n

/-- The place before the innermost open table, or inside what stands for it. -/
def fosterPlace (b : Builder) : Place :=
  let template? := b.stack.findIdx? fun n => b.dom.isHtml n ["template"]
  let table? := b.stack.findIdx? fun n => b.dom.isHtml n ["table"]
  match template?, table? with
  | some t, none => .endOf (b.inside (b.stack.getD t 0))
  | none, none => .endOf (b.stack.getLastD 0)
  | template?, some i =>
    if (template?.map fun t => decide (t < i)).getD false then
      .endOf (b.inside (b.stack.getD (template?.getD 0) 0))
    else
      let table := b.stack.getD i 0
      match (b.dom.record table).parent with
      | some p => .before p table
      | none => .endOf (b.inside (b.stack.getD (i + 1) 0))

/-- Where a node goes that belongs to `target`. -/
def placeIn (b : Builder) (target : Nat) : Place :=
  if b.fostering && b.dom.isHtml target ["table", "tbody", "tfoot", "thead", "tr"] then
    b.fosterPlace
  else .endOf (b.inside target)

def place (b : Builder) : Place := b.placeIn b.current

def insertChar (b : Builder) (c : Char) : Builder :=
  { b with dom := b.dom.insertChar c b.place }

/-- A new element, with the fragment of a template. -/
def createElement (b : Builder) (name : Name) (as : List (String × String)) : Nat × Builder :=
  let (n, dom) := b.dom.create (.element name as)
  if name = ⟨.html, "template"⟩ then
    let (f, dom) := dom.create .fragment
    (n, { b with dom := dom.update n fun r => { r with content := some f } })
  else (n, { b with dom })

/-- Put an element into the tree and open it. -/
def insertNamed (b : Builder) (name : Name) (as : List (String × String)) : Builder :=
  let place := b.place
  let (n, b) := b.createElement name as
  { b with dom := b.dom.insert n place, stack := n :: b.stack }

def insertHtml (b : Builder) (name : String) (as : List (String × String)) : Builder :=
  b.insertNamed ⟨.html, name⟩ as

/-- Put an element into the tree that has no content. -/
def insertVoid (b : Builder) (name : String) (as : List (String × String)) : Builder :=
  (b.insertHtml name as).pop

/-! ## Formatting elements -/

def pushFormatting (b : Builder) (n : Nat) : Builder :=
  -- of three equal ones since the last marker the earliest goes
  let since := b.formatting.takeWhile Option.isSome
  let same := since.filter fun m => match m with
    | some m => b.dom.name m = b.dom.name n ∧
        (b.dom.attributes m).mergeSort (fun x y => x.1 ≤ y.1)
          = (b.dom.attributes n).mergeSort (fun x y => x.1 ≤ y.1)
    | none => false
  let list := match same[2]? with
    | some earliest => b.formatting.erase earliest
    | none => b.formatting
  { b with formatting := some n :: list }

def pushMarker (b : Builder) : Builder := { b with formatting := none :: b.formatting }

def clearToMarker (b : Builder) : Builder :=
  { b with formatting := (b.formatting.dropWhile Option.isSome).drop 1 }

/-- Open a copy of a formatting element, in its place on the list. -/
def reopen (b : Builder) (entry : Nat) : Builder :=
  let b := b.insertNamed (b.dom.name entry) (b.dom.attributes entry)
  { b with formatting := b.formatting.map fun m => if m = some entry then some b.current else m }

/-- Reopen the formatting elements that were closed since the last marker. -/
def reconstruct (b : Builder) : Builder :=
  let closed := b.formatting.takeWhile fun m => match m with
    | some m => !b.stack.contains m
    | none => false
  (closed.reverse.filterMap id).foldl reopen b

/-- The last formatting element of a name since the last marker. -/
def lastFormatting (b : Builder) (name : String) : Option Nat :=
  ((b.formatting.takeWhile Option.isSome).filterMap id).find? fun n => b.dom.isHtml n [name]

def removeFormatting (b : Builder) (n : Nat) : Builder :=
  { b with formatting := b.formatting.filter (· ≠ some n) }

def specialNames : List String :=
  ["address", "applet", "area", "article", "aside", "base", "basefont", "bgsound", "blockquote",
    "body", "br", "button", "caption", "center", "col", "colgroup", "dd", "details", "dir", "div",
    "dl", "dt", "embed", "fieldset", "figcaption", "figure", "footer", "form", "frame", "frameset",
    "h1", "h2", "h3", "h4", "h5", "h6", "head", "header", "hgroup", "hr", "html", "iframe", "img",
    "input", "keygen", "li", "link", "listing", "main", "marquee", "menu", "meta", "nav", "noembed",
    "noframes", "noscript", "object", "ol", "p", "param", "plaintext", "pre", "script", "search",
    "section", "select", "source", "style", "summary", "table", "tbody", "td", "template",
    "textarea", "tfoot", "th", "thead", "title", "tr", "track", "ul", "wbr", "xmp"]

def isSpecial (b : Builder) (n : Nat) : Bool :=
  let name := b.dom.name n
  match name.ns with
  | .html => specialNames.contains name.text
  | .math => ["mi", "mo", "mn", "ms", "mtext", "annotation-xml"].contains name.text
  | .svg => ["foreignObject", "desc", "title"].contains name.text

/-- An end tag without a rule of its own: close the element of that name unless a special one
stands in between. -/
def closeAnyFrom (b : Builder) (name : String) : List Nat → Builder
  | [] => b
  | n :: ns =>
    if b.dom.isHtml n [name] then
      let b := b.closeImplied [name]
      { b with stack := (b.stack.dropWhile (· ≠ n)).drop 1 }
    else if b.isSpecial n then b
    else b.closeAnyFrom name ns

def closeAny (b : Builder) (name : String) : Builder := b.closeAnyFrom name b.stack

/-- Put an item behind another one in a list ordered from the inside out: it is opened just inside
that one. -/
def insertInside (x y : Nat) : List Nat → List Nat
  | [] => [x]
  | z :: zs => if z = y then x :: z :: zs else z :: insertInside x y zs

def replaceItem [DecidableEq α] (x y : α) (l : List α) : List α :=
  l.map fun z => if z = x then y else z

/-- Walk from the furthest block out to the formatting element: formatting elements in between are
copied, others are closed. `lastNode` is the node last handled, `bookmark` the item of the list
before which the new element will stand. -/
def innerLoop (b : Builder) (formattingElement furthest : Nat) :
    Nat → Nat → List Nat → Nat → Option Nat → Builder × Nat × Option Nat
  | 0, _, _, lastNode, bookmark => (b, lastNode, bookmark)
  | _, _, [], lastNode, bookmark => (b, lastNode, bookmark)
  | fuel + 1, counter, node :: outer, lastNode, bookmark =>
    if node = formattingElement then (b, lastNode, bookmark)
    else
      let counter := counter + 1
      let b := if 3 < counter then b.removeFormatting node else b
      if !b.formatting.contains (some node) then
        ({ b with stack := b.stack.filter (· ≠ node) } : Builder).innerLoop
          formattingElement furthest fuel counter outer lastNode bookmark
      else
        let (copy, b) := b.createElement (b.dom.name node) (b.dom.attributes node)
        let b := { b with
          formatting := replaceItem (some node) (some copy) b.formatting
          stack := replaceItem node copy b.stack }
        let bookmark := if lastNode = furthest then some copy else bookmark
        let b := { b with dom := b.dom.insert lastNode (.endOf (b.inside copy)) }
        b.innerLoop formattingElement furthest fuel counter outer copy bookmark

/-- One round of closing a misnested formatting element. The flag tells whether to go on. -/
def adoptOnce (b : Builder) (name : String) : Bool × Builder :=
  match b.lastFormatting name with
  | none => (false, b.closeAny name)
  | some fe =>
    if !b.stack.contains fe then (false, b.removeFormatting fe)
    else if !b.nodeInScope fe then (false, b)
    else
      let inner := b.stack.takeWhile (· ≠ fe)
      match inner.reverse.find? b.isSpecial with
      | none =>
        let b := { b with stack := (b.stack.dropWhile (· ≠ fe)).drop 1 }
        (false, b.removeFormatting fe)
      | some furthest =>
        let ancestor := ((b.stack.dropWhile (· ≠ fe)).drop 1).headD 0
        let outer := (b.stack.dropWhile (· ≠ furthest)).drop 1
        let (b, lastNode, bookmark) :=
          b.innerLoop fe furthest (outer.length + 1) 0 outer furthest none
        let b := { b with dom := b.dom.insert lastNode (b.placeIn ancestor) }
        let (copy, b) := b.createElement (b.dom.name fe) (b.dom.attributes fe)
        let dom := b.dom.moveChildren (b.inside furthest) copy
        let b := { b with dom := dom.insert copy (.endOf (b.inside furthest)) }
        let formatting := match bookmark with
          | some mark => (b.formatting.filter (· ≠ some fe)).flatMap fun m =>
              if m = some mark then [some copy, m] else [m]
          | none => replaceItem (some fe) (some copy) b.formatting
        let stack := insertInside copy furthest (b.stack.filter (· ≠ fe))
        (true, { b with formatting, stack })

/-- Close a formatting element that may be misnested, in at most eight rounds. -/
def adopt (b : Builder) (name : String) : Nat → Builder
  | 0 => b
  | fuel + 1 =>
    let (again, b) := b.adoptOnce name
    if again then b.adopt name fuel else b

def closeFormatting (b : Builder) (name : String) : Builder :=
  if b.currentIs [name] && !b.formatting.contains (some b.current) then b.pop
  else b.adopt name 8

/-! ## Modes -/

/-- The mode that an open element calls for, if any. -/
def modeFor (b : Builder) (n : Nat) (outer : List Nat) : Option Mode :=
  let name := b.dom.name n
  if name.ns ≠ .html then none
  else match name.text with
    | "select" =>
      if outer.any fun m => b.dom.isHtml m ["table"] then some .inSelectInTable else some .inSelect
    | "td" | "th" => some .inCell
    | "tr" => some .inRow
    | "tbody" | "thead" | "tfoot" => some .inTableBody
    | "caption" => some .inCaption
    | "colgroup" => some .inColumnGroup
    | "table" => some .inTable
    | "template" => some (b.templates.headD .inBody)
    | "html" => some .inBody
    | _ => none

def resetFrom (b : Builder) : List Nat → Mode
  | [] => .inBody
  | n :: outer => (b.modeFor n outer).getD (b.resetFrom outer)

def resetMode (b : Builder) : Builder := { b with mode := b.resetFrom b.stack }

/-- Open an element whose text is read in its own way up to its end tag. -/
def openText (b : Builder) (name : String) (as : List (String × String)) (content : Content) :
    Builder :=
  { b.insertHtml name as with content, resume := b.mode, mode := .text }

/-! ## Foreign content -/

def isMathTextPoint (name : Name) : Bool :=
  name.ns = .math && ["mi", "mo", "mn", "ms", "mtext"].contains name.text

/-- An element of another namespace that holds HTML. -/
def isHtmlPoint (b : Builder) (n : Nat) : Bool :=
  let name := b.dom.name n
  (name.ns = .svg && ["foreignObject", "desc", "title"].contains name.text)
    || (name = ⟨.math, "annotation-xml"⟩ && (b.dom.attributes n).any fun a =>
        a.1 = "encoding" && ["text/html", "application/xhtml+xml"].contains (Text.asciiLower a.2))

/-- Whether a token is read by the rules of foreign content. -/
def isForeign (b : Builder) (t : Token) : Bool :=
  let n := b.current
  let name := b.dom.name n
  if b.stack.isEmpty || name.ns = .html then false
  else match t with
    | .eof => false
    | .start tag _ _ =>
      !(isMathTextPoint name && tag ≠ "mglyph" && tag ≠ "malignmark")
        && !(name = ⟨.math, "annotation-xml"⟩ && tag = "svg") && !b.isHtmlPoint n
    | .char _ => !isMathTextPoint name && !b.isHtmlPoint n
    | _ => true

/-- Start tags that end foreign content. -/
def breakoutNames : List String :=
  ["b", "big", "blockquote", "body", "br", "center", "code", "dd", "div", "dl", "dt", "em", "embed",
    "h1", "h2", "h3", "h4", "h5", "h6", "head", "hr", "i", "img", "li", "listing", "menu", "meta",
    "nobr", "ol", "p", "pre", "ruby", "s", "small", "span", "strong", "strike", "sub", "sup",
    "table", "tt", "u", "ul", "var"]

/-- SVG names with capital letters. -/
def svgNames : List String :=
  ["altGlyph", "altGlyphDef", "altGlyphItem", "animateColor", "animateMotion", "animateTransform",
    "clipPath", "feBlend", "feColorMatrix", "feComponentTransfer", "feComposite",
    "feConvolveMatrix", "feDiffuseLighting", "feDisplacementMap", "feDistantLight", "feDropShadow",
    "feFlood", "feFuncA", "feFuncB", "feFuncG", "feFuncR", "feGaussianBlur", "feImage", "feMerge",
    "feMergeNode", "feMorphology", "feOffset", "fePointLight", "feSpecularLighting", "feSpotLight",
    "feTile", "feTurbulence", "foreignObject", "glyphRef", "linearGradient", "radialGradient",
    "textPath"]

def svgName (name : String) : String :=
  (svgNames.find? fun n => Text.asciiLower n == name).getD name

/-- Pop down to HTML or to an element that holds HTML. -/
def leaveForeign (b : Builder) : Builder :=
  { b with stack := b.stack.dropWhile fun n =>
      (b.dom.name n).ns ≠ .html && !isMathTextPoint (b.dom.name n) && !b.isHtmlPoint n }

/-- An end tag among foreign elements: close the element of that name, in any case, before the
first HTML element; `none` if HTML's rules apply. -/
def closeForeign (b : Builder) (name : String) : List Nat → Option Builder
  | [] => some b
  | n :: ns =>
    if (b.dom.name n).ns = .html then none
    else if Text.asciiLower (b.dom.name n).text == name then
      some { b with stack := ns }
    else b.closeForeign name ns

end Builder
end RestKit.Html
