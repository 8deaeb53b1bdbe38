import RestKit.Text.Blank
/-!
# Path templates

A template is a path with parameters: `:name` stands for the rest of a segment, and `*name`, at the
end, for the rest of the path. Where several templates match a path, a fixed character goes before
a parameter, and a parameter before the rest of the path, at the first place where they differ.
-/
namespace RestKit.Template

inductive Piece where
  | char (c : Char)
  | param (name : String)
  | rest (name : String)
deriving DecidableEq, Repr

def isMark (c : Char) : Bool := c = ':' || c = '*'

/-- Whether a name is one: not empty, and without marks. -/
def isName (name : List Char) : Bool := !name.isEmpty && !name.any isMark

theorem length_afterSegment (cs : List Char) : (cs.dropWhile (· ≠ '/')).length ≤ cs.length :=
  (List.dropWhile_suffix _).length_le

/-- The pieces of a path; `before` is the character in front. -/
def piecesFrom (before : Char) : List Char → Option (List Piece)
  | [] => some []
  | c :: cs =>
    if isMark c then
      let name := cs.takeWhile (· ≠ '/')
      if !isName name then none
      else if c = ':' then
        (piecesFrom c (cs.dropWhile (· ≠ '/'))).map (.param (String.ofList name) :: ·)
      else if before = '/' ∧ cs.length = name.length then some [.rest (String.ofList name)]
      else none
    else (piecesFrom c cs).map (.char c :: ·)
termination_by cs => cs.length
decreasing_by
  · exact Nat.lt_succ_of_le (length_afterSegment cs)
  · exact Nat.lt_succ_self _

/-- The pieces of a path; none if it is malformed. A path starts with a slash. -/
def parse? (path : String) : Option (List Piece) :=
  if Text.startsWith '/' path then piecesFrom ' ' path.toList else none

/-- The values of a template's parameters at a path that it matches. A parameter at the end of the
path is not empty. -/
def match? : List Piece → List Char → Option (List (String × List Char))
  | [], [] => some []
  | .char a :: ps, c :: cs => if a = c then match? ps cs else none
  | .param name :: ps, cs =>
    let value := cs.takeWhile (· ≠ '/')
    if cs.isEmpty then none
    else (match? ps (cs.dropWhile (· ≠ '/'))).map fun vs => (name, value) :: vs
  | .rest name :: _, cs => if cs.isEmpty then none else some [(name, cs)]
  | _, _ => none

/-- How early a piece is tried. -/
def Piece.rank : Piece → Nat
  | .char _ => 0
  | .param _ => 1
  | .rest _ => 2

/-- Whether two pieces match the same, whatever their parameters are called. -/
def Piece.alike : Piece → Piece → Bool
  | .char a, .char b => a = b
  | .param _, .param _ | .rest _, .rest _ => true
  | _, _ => false

/-- Whether the first of two templates that match a path goes before the second. -/
def precedes : List Piece → List Piece → Bool
  | p :: ps, q :: qs => if p.alike q then precedes ps qs else p.rank < q.rank
  | _, _ => false

/-- Whether the templates of two paths cannot stand beside each other: they differ at most in the
names of parameters, or behind pieces that are alike a rest is not alone. -/
def conflicts : List Piece → List Piece → Bool
  | [], [] => true
  | .char a :: ps, .char b :: qs => a = b && conflicts ps qs
  | .param _ :: ps, .param _ :: qs => conflicts ps qs
  | .param _ :: _, .rest _ :: _ | .rest _ :: _, .param _ :: _ | .rest _ :: _, .rest _ :: _ => true
  | _, _ => false

end RestKit.Template
