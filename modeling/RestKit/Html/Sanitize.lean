import RestKit.Html.Rules
import RestKit.Net.Url
/-!
# Sanitised HTML

`sanitize` keeps of a piece of HTML the elements and attributes of a fixed list and writes the rest
as text: scripts and styles go with their content, other elements leave their content behind, links
keep known URL schemes only and are told not to open their opener.
-/
namespace RestKit.Html

def allowedTags : List String :=
  ["a", "abbr", "acronym", "area", "article", "aside", "b", "bdi", "bdo", "blockquote", "br",
    "caption", "center", "cite", "code", "col", "colgroup", "data", "dd", "del", "details", "dfn",
    "div", "dl", "dt", "em", "figcaption", "figure", "footer", "h1", "h2", "h3", "h4", "h5", "h6",
    "header", "hgroup", "hr", "i", "img", "ins", "kbd", "li", "map", "mark", "nav", "ol", "p",
    "pre", "q", "rp", "rt", "rtc", "ruby", "s", "samp", "small", "span", "strike", "strong", "sub",
    "summary", "sup", "table", "tbody", "td", "th", "thead", "time", "tr", "tt", "u", "ul", "var",
    "wbr"]

/-- Elements that go with all their content. -/
def contentTags : List String := ["script", "style"]

/-- Attributes allowed on one element, beside `lang` and `title`. -/
def tagAttributes : String → List String
  | "a" => ["href", "hreflang"]
  | "bdo" => ["dir"]
  | "blockquote" | "q" => ["cite"]
  | "col" | "colgroup" => ["align", "char", "charoff", "span"]
  | "del" | "ins" => ["cite", "datetime"]
  | "hr" => ["align", "size", "width"]
  | "img" => ["align", "alt", "height", "src", "width"]
  | "ol" => ["start"]
  | "table" => ["align", "char", "charoff", "summary"]
  | "tbody" | "tfoot" | "thead" | "tr" => ["align", "char", "charoff"]
  | "td" => ["align", "char", "charoff", "colspan", "headers", "rowspan"]
  | "th" => ["align", "char", "charoff", "colspan", "headers", "rowspan", "scope"]
  | _ => []

def urlSchemes : List String :=
  ["bitcoin", "ftp", "ftps", "geo", "http", "https", "im", "irc", "ircs", "magnet", "mailto", "mms",
    "mx", "news", "nntp", "openpgp4fpr", "sip", "sms", "smsto", "ssh", "tel", "url", "webcal",
    "wtai", "xmpp"]

/-- Whether an attribute stays on an element. -/
def keepsAttribute (tag : String) (a : String × String) : Bool :=
  let allowed := a.1 = "lang" || a.1 = "title" || (tagAttributes tag).contains a.1
  if !allowed then false
  else if a.1 = "href" || a.1 = "src" then
    match Net.urlForm a.2 with
    | .absolute scheme => urlSchemes.contains scheme
    | .relative => true
    | .invalid => false
  else true

/-- Names of SVG elements. -/
def svgTags : List String :=
  ["a", "animate", "animateMotion", "animateTransform", "circle", "clipPath", "defs", "desc",
    "discard", "ellipse", "feBlend", "feColorMatrix", "feComponentTransfer", "feComposite",
    "feConvolveMatrix", "feDiffuseLighting", "feDisplacementMap", "feDistantLight", "feDropShadow",
    "feFlood", "feFuncA", "feFuncB", "feFuncG", "feFuncR", "feGaussianBlur", "feImage", "feMerge",
    "feMergeNode", "feMorphology", "feOffset", "fePointLight", "feSpecularLighting", "feSpotLight",
    "feTile", "feTurbulence", "filter", "foreignObject", "g", "image", "line", "linearGradient",
    "marker", "mask", "metadata", "mpath", "path", "pattern", "polygon", "polyline",
    "radialGradient", "rect", "script", "set", "stop", "style", "svg", "switch", "symbol", "text",
    "textPath", "title", "tspan", "use", "view"]

/-- Names of MathML elements. -/
def mathTags : List String :=
  ["abs", "and", "annotation", "annotation-xml", "apply", "approx", "arccos", "arccosh", "arccot",
    "arccoth", "arccsc", "arccsch", "arcsec", "arcsech", "arcsin", "arcsinh", "arctan", "arctanh",
    "arg", "bind", "bvar", "card", "cartesianproduct", "cbytes", "ceiling", "cerror", "ci", "cn",
    "codomain", "complexes", "compose", "condition", "conjugate", "cos", "cosh", "cot", "coth",
    "cs", "csc", "csch", "csymbol", "curl", "declare", "degree", "determinant", "diff",
    "divergence", "divide", "domain", "domainofapplication", "emptyset", "encoding", "eq",
    "equivalent", "eulergamma", "exists", "exp", "exponentiale", "factorial", "factorof", "false",
    "floor", "fn", "forall", "function", "gcd", "geq", "grad", "gt", "ident", "image", "imaginary",
    "imaginaryi", "implies", "in", "infinity", "int", "integers", "intersect", "interval",
    "inverse", "lambda", "laplacian", "lcm", "leq", "limit", "list", "ln", "log", "logbase",
    "lowlimit", "lt", "maction", "maligngroup", "malignmark", "math", "matrix", "matrixrow", "max",
    "mean", "median", "menclose", "merror", "mfenced", "mfrac", "mfraction", "mglyph", "mi", "min",
    "minus", "mlabeledtr", "mlongdiv", "mmultiscripts", "mn", "mo", "mode", "moment", "momentabout",
    "mover", "mpadded", "mphantom", "mprescripts", "mroot", "mrow", "ms", "mscarries", "mscarry",
    "msgroup", "msline", "mspace", "msqrt", "msrow", "mstack", "mstyle", "msub", "msubsup", "msup",
    "mtable", "mtd", "mtext", "mtr", "munder", "munderover", "naturalnumbers", "neq", "none", "not",
    "notanumber", "notin", "notprsubset", "notsubset", "or", "otherwise", "outerproduct",
    "partialdiff", "pi", "piece", "piecewise", "plus", "power", "primes", "product", "prsubset",
    "quotient", "rationals", "real", "reals", "reln", "rem", "root", "scalarproduct", "sdev", "sec",
    "sech", "selector", "semantics", "sep", "setdiff", "share", "sin", "sinh", "span", "subset",
    "sum", "tan", "tanh", "tendsto", "times", "transpose", "true", "union", "uplimit", "variance",
    "vector", "vectorproduct", "xor"]

/-- Whether an element may stand in its parent as far as namespaces go. -/
def fitsParent (parent child : Name) : Bool :=
  match parent.ns, child.ns with
  | .html, .svg => child.text = "svg"
  | .html, .math => child.text = "math"
  | .math, .html | .math, .svg =>
    ["mi", "mo", "mn", "ms", "mtext", "annotation-xml"].contains parent.text
  | .svg, .html | .svg, .math => parent.text = "foreignObject"
  | .svg, .svg => svgTags.contains child.text
  | .math, .math => mathTags.contains child.text
  | .html, .html =>
    (!svgTags.contains child.text && !mathTags.contains child.text)
      || ["title", "style", "font", "a", "script", "span"].contains child.text

mutual
/-- What is kept of a node inside an element. -/
def keepNode (parent : Name) : Node → List Node
  | .text s => [.text s]
  | .element name as children =>
    if contentTags.contains name.text || !fitsParent parent name then []
    else if allowedTags.contains name.text then
      let as := as.filter (keepsAttribute name.text)
      let as := if name.text = "a" then as ++ [("rel", "noopener noreferrer")] else as
      [.element name as (keepNodes name children)]
    else keepNodes parent children
def keepNodes (parent : Name) : List Node → List Node
  | [] => []
  | n :: ns => keepNode parent n ++ keepNodes parent ns
end

/-- A character of a text, or of an attribute's value. -/
def escapeChar (inAttribute : Bool) (c : Char) : List Char :=
  if c = '&' then "&amp;".toList
  else if c.toNat = 0xA0 then "&nbsp;".toList
  else if c = '"' then (if inAttribute then "&quot;".toList else ['"'])
  else if c = '<' then (if inAttribute then ['<'] else "&lt;".toList)
  else if c = '>' then (if inAttribute then ['>'] else "&gt;".toList)
  else [c]

def escape (inAttribute : Bool) (s : String) : String :=
  String.ofList (s.toList.flatMap (escapeChar inAttribute))

/-- Elements without an end tag. -/
def voidTags : List String :=
  ["area", "base", "basefont", "bgsound", "br", "col", "embed", "frame", "hr", "img", "input",
    "keygen", "link", "meta", "param", "source", "track", "wbr"]

def attributeText (a : String × String) : String :=
  " " ++ a.1 ++ "=\"" ++ escape true a.2 ++ "\""

mutual
def Node.written : Node → String
  | .text s => escape false s
  | .element name as children =>
    let head := "<" ++ name.text ++ String.join (as.map attributeText) ++ ">"
    if name.ns = .html && voidTags.contains name.text then head
    else head ++ Node.forestText children ++ "</" ++ name.text ++ ">"
def Node.forestText : List Node → String
  | [] => ""
  | n :: ns => n.written ++ Node.forestText ns
end

/-- A piece of HTML with nothing in it but allowed elements and attributes. -/
def sanitize (s : String) : String :=
  Node.forestText (keepNodes ⟨.html, "html"⟩ (parse s))

end RestKit.Html
