import RestKit.Html.Construct
/-!
# The insertion modes of HTML

What each mode does with a token. A rule ends in a builder and in whether the token has to be
handled once more, in the mode then set.
-/
namespace RestKit.Html

namespace Builder

/-- The builder after a rule; `again` asks for the token to be handled once more. -/
structure Step where
  builder : Builder
  again : Bool := false

def done (b : Builder) : Step := ⟨b, false⟩

def redo (b : Builder) : Step := ⟨b, true⟩

def headings : List String := ["h1", "h2", "h3", "h4", "h5", "h6"]

def blockNames : List String :=
  ["address", "article", "aside", "blockquote", "center", "details", "dialog", "dir", "div", "dl",
    "fieldset", "figcaption", "figure", "footer", "header", "hgroup", "main", "menu", "nav", "ol",
    "p", "search", "section", "summary", "ul"]

def formattingNames : List String :=
  ["b", "big", "code", "em", "font", "i", "s", "small", "strike", "strong", "tt", "u"]

def tableParts : List String :=
  ["caption", "col", "colgroup", "frame", "head", "tbody", "td", "tfoot", "th", "thead", "tr"]

/-! ## Templates and other head elements -/

/-- Close an open template. -/
def closeTemplate (b : Builder) : Builder :=
  if b.hasOpen ["template"] then
    let b := ((b.popThrough ["template"]).clearToMarker)
    ({ b with templates := b.templates.drop 1 } : Builder).resetMode
  else b

/-- Start tags of elements that belong to a head. -/
def headStart (b : Builder) (name : String) (as : List (String × String)) : Builder :=
  match name with
  | "title" => b.openText name as (.references name.toList)
  | "noframes" | "style" => b.openText name as (.raw name.toList)
  | "script" => b.openText name as .script
  | "template" =>
    let b := (b.insertHtml name as).pushMarker
    { b with mode := .inTemplate, templates := .inTemplate :: b.templates }
  | _ => b.insertVoid name as

def headNames : List String :=
  ["base", "basefont", "bgsound", "link", "meta", "noframes", "script", "style", "template",
    "title"]

/-! ## In body -/

/-- A list item start tag closes an open item unless a special element stands in between. -/
def closeItem (b : Builder) (names : List String) : List Nat → Builder
  | [] => b
  | n :: ns =>
    if b.dom.isHtml n names then
      let name := (b.dom.name n).text
      (b.closeImplied [name]).popThrough [name]
    else if b.isSpecial n && !b.dom.isHtml n ["address", "div", "p"] then b
    else b.closeItem names ns

/-- The start tag of an anchor closes an open one. -/
def closeAnchor (b : Builder) : Builder :=
  match b.lastFormatting "a" with
  | none => b
  | some n =>
    let b := (b.closeFormatting "a").removeFormatting n
    { b with stack := b.stack.filter (· ≠ n) }

def openFormatting (b : Builder) (name : String) (as : List (String × String)) : Builder :=
  let b := b.insertHtml name as
  b.pushFormatting b.current

def bodyStart (b : Builder) (name : String) (as : List (String × String)) (selfClosing : Bool) :
    Step :=
  if name = "html" ∨ name = "body" ∨ name = "frameset" ∨ tableParts.contains name then done b
  else if headNames.contains name then done (b.headStart name as)
  else if blockNames.contains name then done (b.closePInScope.insertHtml name as)
  else if headings.contains name then
    let b := b.closePInScope
    let b := if b.currentIs headings then b.pop else b
    done (b.insertHtml name as)
  else if formattingNames.contains name then done (b.reconstruct.openFormatting name as)
  else match name with
  | "pre" | "listing" =>
    done { b.closePInScope.insertHtml name as with skipLineFeed := true }
  | "form" =>
    if b.form.isSome && !b.hasOpen ["template"] then done b
    else
      let b := b.closePInScope.insertHtml name as
      done (if b.hasOpen ["template"] then b else { b with form := some b.current })
  | "li" => done ((b.closeItem ["li"] b.stack).closePInScope.insertHtml name as)
  | "dd" | "dt" => done ((b.closeItem ["dd", "dt"] b.stack).closePInScope.insertHtml name as)
  | "plaintext" => done { b.closePInScope.insertHtml name as with content := .plain }
  | "button" =>
    let b := if b.inScope ["button"] then (b.closeImplied []).popThrough ["button"] else b
    done (b.reconstruct.insertHtml name as)
  | "a" => done (b.closeAnchor.reconstruct.openFormatting name as)
  | "nobr" =>
    let b := b.reconstruct
    let b := if b.inScope ["nobr"] then (b.closeFormatting "nobr").reconstruct else b
    done (b.openFormatting name as)
  | "applet" | "marquee" | "object" => done (b.reconstruct.insertHtml name as).pushMarker
  | "table" => done { b.closePInScope.insertHtml name as with mode := .inTable }
  | "area" | "br" | "embed" | "img" | "keygen" | "wbr" | "input" =>
    done (b.reconstruct.insertVoid name as)
  | "param" | "source" | "track" => done (b.insertVoid name as)
  | "hr" => done (b.closePInScope.insertVoid name as)
  | "image" => done (b.reconstruct.insertVoid "img" as)
  | "textarea" => done { b.openText name as (.references name.toList) with skipLineFeed := true }
  | "xmp" => done (b.closePInScope.reconstruct.openText name as (.raw name.toList))
  | "iframe" | "noembed" | "noscript" => done (b.openText name as (.raw name.toList))
  | "select" =>
    let inside := [Mode.inTable, .inCaption, .inTableBody, .inRow, .inCell].contains b.mode
    done { b.reconstruct.insertHtml name as with
      mode := if inside then .inSelectInTable else .inSelect }
  | "optgroup" | "option" =>
    let b := if b.currentIs ["option"] then b.pop else b
    done (b.reconstruct.insertHtml name as)
  | "rb" | "rtc" =>
    let b := if b.inScope ["ruby"] then b.closeImplied [] else b
    done (b.insertHtml name as)
  | "rp" | "rt" =>
    let b := if b.inScope ["ruby"] then b.closeImplied ["rtc"] else b
    done (b.insertHtml name as)
  | "math" | "svg" =>
    let b := b.reconstruct.insertNamed ⟨if name = "svg" then .svg else .math, name⟩ as
    done (if selfClosing then b.pop else b)
  | _ => done (b.reconstruct.insertHtml name as)

/-- Close an element if it is in scope. -/
def closeInScope (b : Builder) (name : String) : Builder :=
  if b.inScope [name] then (b.closeImplied []).popThrough [name] else b

def closeForm (b : Builder) : Builder :=
  if b.hasOpen ["template"] then b.closeInScope "form"
  else
    match b.form with
    | none => b
    | some n =>
      let b := { b with form := none }
      if b.nodeInScope n then
        let b := b.closeImplied []
        { b with stack := b.stack.filter (· ≠ n) }
      else b

def bodyStop (b : Builder) (name : String) : Step :=
  if name = "template" then done b.closeTemplate
  else if name = "body" ∨ name = "html" then done b
  else if name = "p" then
    let b := if b.inButtonScope ["p"] then b else b.insertHtml "p" []
    done b.closeP
  else if blockNames.contains name ∨ ["button", "listing", "pre"].contains name then
    done (b.closeInScope name)
  else if headings.contains name then
    done (if b.inScope headings then (b.closeImplied []).popThrough headings else b)
  else if formattingNames.contains name ∨ name = "a" ∨ name = "nobr" then
    done (b.closeFormatting name)
  else match name with
  | "form" => done b.closeForm
  | "li" =>
    done (if b.inListScope ["li"] then (b.closeImplied ["li"]).popThrough ["li"] else b)
  | "dd" | "dt" =>
    done (if b.inScope [name] then (b.closeImplied [name]).popThrough [name] else b)
  | "applet" | "marquee" | "object" =>
    done (if b.inScope [name] then ((b.closeImplied []).popThrough [name]).clearToMarker else b)
  | "br" => done (b.reconstruct.insertVoid "br" [])
  | _ => done (b.closeAny name)

def inBody (b : Builder) : Token → Step
  | .char c => done (if c.toNat = 0 then b else b.reconstruct.insertChar c)
  | .start name as selfClosing => b.bodyStart name as selfClosing
  | .stop name => b.bodyStop name
  | .comment | .eof => done b

/-! ## Tables -/

/-- Handle a token as in a body, with content that a table cannot hold moved before it. -/
def fostered (b : Builder) (t : Token) : Step :=
  let s := ({ b with fostering := true } : Builder).inBody t
  { s with builder := { s.builder with fostering := false } }

def inTable (b : Builder) (t : Token) : Step :=
  match t with
  | .char _ =>
    if b.currentIs ["table", "tbody", "template", "tfoot", "thead", "tr"] then
      redo { b with resume := b.mode, mode := .inTableText, tableText := [] }
    else b.fostered t
  | .start name as _ =>
    match name with
    | "caption" =>
      let b := (b.popTo ["table", "template"]).pushMarker
      done { b.insertHtml name as with mode := .inCaption }
    | "colgroup" =>
      done { (b.popTo ["table", "template"]).insertHtml name as with mode := .inColumnGroup }
    | "col" =>
      redo { (b.popTo ["table", "template"]).insertHtml "colgroup" [] with mode := .inColumnGroup }
    | "tbody" | "tfoot" | "thead" =>
      done { (b.popTo ["table", "template"]).insertHtml name as with mode := .inTableBody }
    | "td" | "th" | "tr" =>
      redo { (b.popTo ["table", "template"]).insertHtml "tbody" [] with mode := .inTableBody }
    | "table" =>
      if b.inTableScope ["table"] then redo (b.popThrough ["table"]).resetMode else done b
    | "style" | "script" | "template" => done (b.headStart name as)
    | "input" =>
      let hidden := as.any fun a => a.1 = "type" && Text.asciiLower a.2 == "hidden"
      if hidden then done (b.insertVoid name as) else b.fostered t
    | "form" =>
      if b.hasOpen ["template"] || b.form.isSome then done b
      else
        let b := b.insertHtml name as
        done { b with form := some b.current }.pop
    | _ => b.fostered t
  | .stop name =>
    match name with
    | "table" =>
      if b.inTableScope ["table"] then done (b.popThrough ["table"]).resetMode else done b
    | "body" | "caption" | "col" | "colgroup" | "html" | "tbody" | "td" | "tfoot" | "th" | "thead"
    | "tr" => done b
    | "template" => done b.closeTemplate
    | _ => b.fostered t
  | .comment => done b
  | .eof => done b

/-- Characters inside a table wait until it is clear whether they are all blank. -/
def inTableText (b : Builder) (t : Token) : Step :=
  match t with
  | .char c => done (if c.toNat = 0 then b else { b with tableText := c :: b.tableText })
  | _ =>
    let cs := b.tableText.reverse
    let b := { b with tableText := [] }
    let b :=
      if cs.all isSpace then cs.foldl insertChar b
      else cs.foldl (fun b c => (b.fostered (.char c)).builder) b
    redo { b with mode := b.resume }

def closeCaption (b : Builder) : Builder :=
  let b := ((b.closeImplied []).popThrough ["caption"]).clearToMarker
  { b with mode := .inTable }

def inCaption (b : Builder) (t : Token) : Step :=
  match t with
  | .stop "caption" => done (if b.inTableScope ["caption"] then b.closeCaption else b)
  | .start name _ _ =>
    if tableParts.contains name ∧ name ≠ "frame" ∧ name ≠ "head" then
      if b.inTableScope ["caption"] then redo b.closeCaption else done b
    else b.inBody t
  | .stop "table" => if b.inTableScope ["caption"] then redo b.closeCaption else done b
  | .stop name =>
    if ["body", "col", "colgroup", "html", "tbody", "td", "tfoot", "th", "thead", "tr"].contains
        name
    then done b else b.inBody t
  | _ => b.inBody t

def inColumnGroup (b : Builder) (t : Token) : Step :=
  let leave : Step :=
    if b.currentIs ["colgroup"] then redo { b.pop with mode := .inTable } else done b
  match t with
  | .char c => if isSpace c then done (b.insertChar c) else leave
  | .start "col" as _ => done (b.insertVoid "col" as)
  | .start "template" as _ => done (b.headStart "template" as)
  | .start "html" _ _ => done b
  | .stop "colgroup" =>
    done (if b.currentIs ["colgroup"] then { b.pop with mode := .inTable } else b)
  | .stop "col" => done b
  | .stop "template" => done b.closeTemplate
  | .comment | .eof => done b
  | _ => leave

def bodyParts : List String := ["tbody", "tfoot", "thead"]

def inTableBody (b : Builder) (t : Token) : Step :=
  let close : Step :=
    if b.inTableScope bodyParts then
      redo { (b.popTo (bodyParts ++ ["template"])).pop with mode := .inTable }
    else done b
  match t with
  | .start name as _ =>
    match name with
    | "tr" => done { (b.popTo (bodyParts ++ ["template"])).insertHtml name as with mode := .inRow }
    | "th" | "td" =>
      redo { (b.popTo (bodyParts ++ ["template"])).insertHtml "tr" [] with mode := .inRow }
    | "caption" | "col" | "colgroup" | "tbody" | "tfoot" | "thead" => close
    | _ => b.inTable t
  | .stop name =>
    match name with
    | "tbody" | "tfoot" | "thead" =>
      if b.inTableScope [name] then
        done { (b.popTo (bodyParts ++ ["template"])).pop with mode := .inTable }
      else done b
    | "table" => close
    | "body" | "caption" | "col" | "colgroup" | "html" | "td" | "th" | "tr" => done b
    | _ => b.inTable t
  | _ => b.inTable t

def closeRow (b : Builder) : Builder :=
  { (b.popTo ["tr", "template"]).pop with mode := .inTableBody }

def inRow (b : Builder) (t : Token) : Step :=
  let close : Step := if b.inTableScope ["tr"] then redo b.closeRow else done b
  match t with
  | .start name as _ =>
    match name with
    | "th" | "td" =>
      let b := ({ (b.popTo ["tr", "template"]).insertHtml name as with mode := .inCell } : Builder)
      done b.pushMarker
    | "caption" | "col" | "colgroup" | "tbody" | "tfoot" | "thead" | "tr" => close
    | _ => b.inTable t
  | .stop name =>
    match name with
    | "tr" => done (if b.inTableScope ["tr"] then b.closeRow else b)
    | "table" => close
    | "tbody" | "tfoot" | "thead" => if b.inTableScope [name] then close else done b
    | "body" | "caption" | "col" | "colgroup" | "html" | "td" | "th" => done b
    | _ => b.inTable t
  | _ => b.inTable t

def closeCell (b : Builder) : Builder :=
  { ((b.closeImplied []).popThrough ["td", "th"]).clearToMarker with mode := .inRow }

def inCell (b : Builder) (t : Token) : Step :=
  match t with
  | .stop name =>
    match name with
    | "td" | "th" =>
      done (if b.inTableScope [name] then
        { ((b.closeImplied []).popThrough [name]).clearToMarker with mode := .inRow } else b)
    | "body" | "caption" | "col" | "colgroup" | "html" => done b
    | "table" | "tbody" | "tfoot" | "thead" | "tr" =>
      if b.inTableScope [name] then redo b.closeCell else done b
    | _ => b.inBody t
  | .start name _ _ =>
    if tableParts.contains name ∧ name ≠ "frame" ∧ name ≠ "head" then
      if b.inTableScope ["td", "th"] then redo b.closeCell else done b
    else b.inBody t
  | _ => b.inBody t

/-! ## Selects -/

def inSelect (b : Builder) (t : Token) : Step :=
  let closed : Builder := (b.popThrough ["select"]).resetMode
  match t with
  | .char c => done (if c.toNat = 0 then b else b.insertChar c)
  | .start name as _ =>
    let leaveOption (b : Builder) : Builder := if b.currentIs ["option"] then b.pop else b
    let leaveGroup (b : Builder) : Builder := if b.currentIs ["optgroup"] then b.pop else b
    match name with
    | "option" => done ((leaveOption b).insertHtml name as)
    | "optgroup" => done ((leaveGroup (leaveOption b)).insertHtml name as)
    | "hr" => done ((leaveGroup (leaveOption b)).insertVoid name as)
    | "select" => done (if b.inSelectScope ["select"] then closed else b)
    | "input" | "keygen" | "textarea" =>
      if b.inSelectScope ["select"] then redo closed else done b
    | "script" | "template" => done (b.headStart name as)
    | _ => done b
  | .stop name =>
    match name with
    | "optgroup" =>
      let outer := b.stack.drop 1
      let inGroup := (outer.head?.map fun n => b.dom.isHtml n ["optgroup"]).getD false
      let b := if b.currentIs ["option"] && inGroup then b.pop else b
      done (if b.currentIs ["optgroup"] then b.pop else b)
    | "option" => done (if b.currentIs ["option"] then b.pop else b)
    | "select" => done (if b.inSelectScope ["select"] then closed else b)
    | "template" => done b.closeTemplate
    | _ => done b
  | .comment | .eof => done b

def inSelectInTable (b : Builder) (t : Token) : Step :=
  let names := ["caption", "table", "tbody", "tfoot", "thead", "tr", "td", "th"]
  match t with
  | .start name _ _ =>
    if names.contains name then redo (b.popThrough ["select"]).resetMode else b.inSelect t
  | .stop name =>
    if names.contains name then
      if b.inTableScope [name] then redo (b.popThrough ["select"]).resetMode else done b
    else b.inSelect t
  | _ => b.inSelect t

/-! ## Templates and text -/

def inTemplate (b : Builder) (t : Token) : Step :=
  let switch (m : Mode) : Step :=
    redo { b with templates := m :: b.templates.drop 1, mode := m }
  match t with
  | .char _ | .comment | .eof => b.inBody t
  | .stop name => if name = "template" then done b.closeTemplate else done b
  | .start name as _ =>
    if headNames.contains name then done (b.headStart name as)
    else match name with
      | "caption" | "colgroup" | "tbody" | "tfoot" | "thead" => switch .inTable
      | "col" => switch .inColumnGroup
      | "tr" => switch .inTableBody
      | "td" | "th" => switch .inRow
      | _ => switch .inBody

def inText (b : Builder) : Token → Step
  | .char c => done (b.insertChar c)
  | .eof => redo { b.pop with mode := b.resume, content := .data }
  | _ => done { b.pop with mode := b.resume, content := .data }

def inForeign (b : Builder) (t : Token) : Step :=
  match t with
  | .char c => done (b.insertChar (replaceNul c))
  | .start name as selfClosing =>
    let breaksOut := breakoutNames.contains name
      || (name = "font" && as.any fun a => ["color", "face", "size"].contains a.1)
    if breaksOut then redo b.leaveForeign
    else
      let ns := (b.dom.name b.current).ns
      let b := b.insertNamed ⟨ns, if ns = .svg then svgName name else name⟩ as
      done (if selfClosing then b.pop else b)
  | .stop name =>
    if name = "br" ∨ name = "p" then redo b.leaveForeign
    else match b.closeForeign name b.stack with
      | some b => done b
      | none => redo { b with }
  | .comment | .eof => done b

/-- The rules of a mode. -/
def byMode (b : Builder) (t : Token) : Step :=
  match b.mode with
  | .inBody => b.inBody t
  | .text => b.inText t
  | .inTable => b.inTable t
  | .inTableText => b.inTableText t
  | .inCaption => b.inCaption t
  | .inColumnGroup => b.inColumnGroup t
  | .inTableBody => b.inTableBody t
  | .inRow => b.inRow t
  | .inCell => b.inCell t
  | .inSelect => b.inSelect t
  | .inSelectInTable => b.inSelectInTable t
  | .inTemplate => b.inTemplate t

/-- An end tag that no foreign element takes is handled by the mode's rules. -/
def step (b : Builder) (t : Token) : Step :=
  if b.isForeign t then
    match t with
    | .stop name =>
      if name ≠ "br" ∧ name ≠ "p" ∧ (b.closeForeign name b.stack).isNone then b.byMode t
      else b.inForeign t
    | _ => b.inForeign t
  else b.byMode t

/-- Handle a token, again as often as the rules ask. -/
def token (b : Builder) (t : Token) : Nat → Builder
  | 0 => b
  | fuel + 1 =>
    let s := b.step t
    if s.again then s.builder.token t fuel else s.builder

/-- Handle a token; a line feed right behind some start tags is dropped. -/
def feed (b : Builder) (t : Token) : Builder :=
  let skip := b.skipLineFeed
  let b := { b with skipLineFeed := false }
  if skip ∧ t = .char '\n' then b else b.token t 32

/-- Read a text to its end. -/
def readAll (b : Builder) : Nat → List Char → Builder
  | 0, _ => b
  | fuel + 1, cs =>
    if cs.isEmpty && b.content = .data then b.feed .eof
    else
      let foreign := !b.stack.isEmpty && (b.dom.name b.current).ns ≠ .html
      let (ts, rest) := next b.content foreign cs
      let b := ts.foldl feed b
      if rest.isEmpty then b.feed .eof else b.readAll fuel rest

/-- A builder inside an empty root. -/
def start : Builder :=
  let (root, dom) := ({} : Dom).create (.element ⟨.html, "html"⟩ [])
  { dom, stack := [root] }

end Builder

/-- The trees of a piece of HTML. -/
def parse (s : String) : List Node :=
  let cs := prepare s
  let b := Builder.start.readAll (cs.length + 1) cs
  b.dom.toForest (b.dom.nodes.size + 1) (b.dom.record 0).children

end RestKit.Html
