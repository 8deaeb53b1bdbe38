import RestKit.Text.Blank
/-!
# Request targets

A target is a path and perhaps a query; a fragment is dropped.
-/
namespace RestKit.Http

structure Uri where
  path : String
  query : Option String
deriving DecidableEq, Repr

namespace Uri

/-- The path up to the first question mark, and the query behind it. -/
def parse (s : String) : Uri :=
  let cs := s.toList.takeWhile (· ≠ '#')
  { path := String.ofList (cs.takeWhile (· ≠ '?'))
    query := match cs.dropWhile (· ≠ '?') with
      | [] => none
      | _ :: q => some (String.ofList q) }

def text (u : Uri) : String := u.path ++ (u.query.map fun q => "?" ++ q).getD ""

end Uri
end RestKit.Http
