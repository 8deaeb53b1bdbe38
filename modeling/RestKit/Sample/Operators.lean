import RestKit.Schema.Operator
/-!
# Sample operators

Operators that an application adds to the built-in ones.
-/
namespace RestKit.Sample
open RestKit.Schema

/-- Words joined by one space. -/
def collapseSpaces : TextOperator :=
  total "collapse_spaces" fun s => String.intercalate " " (Text.words s)

/-- Refuses a text with a digit. -/
def noDigits : TextOperator :=
  ⟨"no_digits", fun s =>
    if s.toList.any fun c => '0' ≤ c && c ≤ '9' then .error "must not contain digits" else .ok s⟩

/-- Refuses a text with an opening angle bracket. -/
def noAngle : TextOperator :=
  ⟨"no_angle", fun s => if s.toList.contains '<' then .error "must not contain '<'" else .ok s⟩

/-- An operator that adds an ending. -/
def appending (name suffix : String) : TextOperator := total name (· ++ suffix)

/-- The built-in operators and the sample ones. -/
def registry : Registry :=
  ⟨Registry.builtin.operators
    ++ [(.normalize, collapseSpaces), (.normalize, noDigits), (.sanitize, noAngle)]⟩

end RestKit.Sample
