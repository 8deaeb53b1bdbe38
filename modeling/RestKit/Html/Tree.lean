import RestKit.Html.Token
/-!
# Document trees under construction

A `Dom` is a table of nodes with links to parents and children, so that nodes can be moved while a
document is read. `Dom.toForest` gives the finished tree.
-/
namespace RestKit.Html

inductive Namespace where
  | html
  | svg
  | math
deriving DecidableEq, Repr

/-- An element's namespace and local name. -/
structure Name where
  ns : Namespace
  text : String
deriving DecidableEq, Repr

inductive NodeKind where
  | text (chars : List Char)
  | element (name : Name) (attributes : List (String × String))
  /-- The contents of a template, which are no children of it. -/
  | fragment
deriving DecidableEq, Repr

structure NodeRecord where
  kind : NodeKind
  parent : Option Nat := none
  children : List Nat := []
  /-- The fragment of a template element. -/
  content : Option Nat := none
deriving Repr

structure Dom where
  nodes : Array NodeRecord := #[]
deriving Repr

/-- Where a node is put: at the end of a parent, or before a child of it. -/
inductive Place where
  | endOf (parent : Nat)
  | before (parent child : Nat)
deriving DecidableEq, Repr

namespace Dom

def record (d : Dom) (n : Nat) : NodeRecord := (d.nodes[n]?).getD { kind := .fragment }

def update (d : Dom) (n : Nat) (f : NodeRecord → NodeRecord) : Dom :=
  { d with nodes := d.nodes.modify n f }

/-- A new node without a parent. -/
def create (d : Dom) (kind : NodeKind) : Nat × Dom :=
  (d.nodes.size, { d with nodes := d.nodes.push { kind } })

/-- The name of an element; other nodes have an empty one. -/
def name (d : Dom) (n : Nat) : Name :=
  match (d.record n).kind with
  | .element name _ => name
  | _ => ⟨.html, ""⟩

def attributes (d : Dom) (n : Nat) : List (String × String) :=
  match (d.record n).kind with
  | .element _ as => as
  | _ => []

def isHtml (d : Dom) (n : Nat) (names : List String) : Bool :=
  let name := d.name n
  name.ns = .html && names.contains name.text

/-- Take a node from its parent. -/
def detach (d : Dom) (n : Nat) : Dom :=
  match (d.record n).parent with
  | none => d
  | some p =>
    (d.update p fun r => { r with children := r.children.filter (· ≠ n) }).update n
      fun r => { r with parent := none }

/-- Put an item before another one in a list. -/
def insertBefore (x y : Nat) : List Nat → List Nat
  | [] => [x]
  | z :: zs => if z = y then x :: z :: zs else z :: insertBefore x y zs

/-- Put a node at a place. -/
def insert (d : Dom) (n : Nat) (place : Place) : Dom :=
  let d := d.detach n
  match place with
  | .endOf p =>
    (d.update p fun r => { r with children := r.children ++ [n] }).update n
      fun r => { r with parent := some p }
  | .before p c =>
    (d.update p fun r => { r with children := insertBefore n c r.children }).update n
      fun r => { r with parent := some p }

/-- The sibling before a place. -/
def before (d : Dom) : Place → Option Nat
  | .endOf p => (d.record p).children.getLast?
  | .before p c => ((d.record p).children.takeWhile (· ≠ c)).getLast?

/-- Put a character at a place; it joins the text before it. -/
def insertChar (d : Dom) (c : Char) (place : Place) : Dom :=
  let joined? := (d.before place).bind fun n =>
    match (d.record n).kind with
    | .text cs => some (n, cs)
    | _ => none
  match joined? with
  | some (n, cs) => d.update n fun r => { r with kind := .text (c :: cs) }
  | none =>
    let (n, d) := d.create (.text [c])
    d.insert n place

/-- Move all children of a node to the end of another one. -/
def moveChildren (d : Dom) (source target : Nat) : Dom :=
  (d.record source).children.foldl (fun d n => d.insert n (.endOf target)) d

end Dom

/-- A finished tree. -/
inductive Node where
  | text (s : String)
  | element (name : Name) (attributes : List (String × String)) (children : List Node)
deriving Repr

/-- The trees of some nodes; the fuel bounds the depth. -/
def Dom.toForest (d : Dom) : Nat → List Nat → List Node
  | 0, _ => []
  | fuel + 1, ns => ns.flatMap fun n =>
    match (d.record n).kind with
    | .text cs => [.text (String.ofList cs.reverse)]
    | .element name as => [.element name as (d.toForest fuel (d.record n).children)]
    | .fragment => []

end RestKit.Html
