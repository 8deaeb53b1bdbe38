import RestKit.Json.Basic
import RestKit.Net.Email
import RestKit.Net.Url
import RestKit.Schema.Kind
import RestKit.Text.Letter
import RestKit.Text.Uuid
/-!
# Validation rules

A `validate` tag is a list of rules, each a name and perhaps a parameter; rules behind `dive` apply
to the elements. `RuleSet.parse` reads a tag, `Rule.passes` decides a rule and `phrase` says what a
value lacks.
-/
namespace RestKit.Schema

inductive RuleName where
  | required | omitempty | min | max | len | eq | ne | gt | gte | lt | lte | oneof | email | url
  | uuid | alpha | alphanum | numeric | lowercase | uppercase | contains | excludes | startswith
  | endswith
deriving DecidableEq, Repr

namespace RuleName

def all : List RuleName :=
  [.required, .omitempty, .min, .max, .len, .eq, .ne, .gt, .gte, .lt, .lte, .oneof, .email, .url,
    .uuid, .alpha, .alphanum, .numeric, .lowercase, .uppercase, .contains, .excludes, .startswith,
    .endswith]

def name : RuleName → String
  | .required => "required"
  | .omitempty => "omitempty"
  | .min => "min"
  | .max => "max"
  | .len => "len"
  | .eq => "eq"
  | .ne => "ne"
  | .gt => "gt"
  | .gte => "gte"
  | .lt => "lt"
  | .lte => "lte"
  | .oneof => "oneof"
  | .email => "email"
  | .url => "url"
  | .uuid => "uuid"
  | .alpha => "alpha"
  | .alphanum => "alphanum"
  | .numeric => "numeric"
  | .lowercase => "lowercase"
  | .uppercase => "uppercase"
  | .contains => "contains"
  | .excludes => "excludes"
  | .startswith => "startswith"
  | .endswith => "endswith"

def parse? (s : String) : Option RuleName := all.find? fun r => r.name == s

def takesParameter : RuleName → Bool
  | .min | .max | .len | .eq | .ne | .gt | .gte | .lt | .lte | .oneof | .contains | .excludes
  | .startswith | .endswith => true
  | _ => false

/-- Rules whose parameter is a number (`is_numeric_rule`). -/
def isNumeric : RuleName → Bool
  | .min | .max | .len | .gt | .gte | .lt | .lte => true
  | _ => false

end RuleName

/-- A rule with its parameter (`Rule`). -/
structure Rule where
  name : RuleName
  param : Option String := none
deriving DecidableEq, Repr

/-- The parameter as a number; zero if it is none. -/
def Rule.number (r : Rule) : Double := (r.param.bind Numeral.double?).getD .zero

def Rule.text (r : Rule) : String := r.param.getD ""

/-- Rules for a value, and rules for its elements (`RuleSet`). -/
structure RuleSet where
  rules : List Rule := []
  dive : Option RuleSet := none
deriving Repr

/-- Why a tag is refused. -/
inductive TagError where
  | unknownRule (name : String)
  | missingParameter (name : String)
  | unexpectedParameter (name : String)
  | notNumeric (name param : String)
deriving DecidableEq, Repr

def TagError.message : TagError → String
  | .unknownRule name => "unknown rule '" ++ name ++ "'"
  | .missingParameter name => "rule '" ++ name ++ "' requires a parameter"
  | .unexpectedParameter name => "rule '" ++ name ++ "' takes no parameter"
  | .notNumeric name param =>
    "rule '" ++ name ++ "' needs a numeric parameter, got '" ++ param ++ "'"

/-- One rule of a tag. -/
def Rule.parse (token : String) : Except TagError Rule :=
  let (name, param) := match Text.splitOnce '=' token with
    | some (name, param) => (Text.trim name, some (Text.trim param))
    | none => (token, none)
  match RuleName.parse? name with
  | none => .error (.unknownRule name)
  | some r =>
    match param, r.takesParameter with
    | none, true => .error (.missingParameter name)
    | some _, false => .error (.unexpectedParameter name)
    | some p, true =>
      if r.isNumeric && (Numeral.double? p).isNone then .error (.notNumeric name p)
      else .ok ⟨r, some p⟩
    | none, false => .ok ⟨r, none⟩

/-- The rules of some tokens (`parse_tokens`). -/
def RuleSet.parseTokens : List String → Except TagError RuleSet
  | [] => .ok {}
  | token :: rest =>
    if token == "dive" then do return { dive := some (← RuleSet.parseTokens rest) }
    else do
      let r ← Rule.parse token
      let s ← RuleSet.parseTokens rest
      return { s with rules := r :: s.rules }

/-- The tokens of a tag: its parts between commas, trimmed, without the empty ones. -/
def tagTokens (tag : String) : List String :=
  ((Text.splitOn ',' tag).map Text.trim).filter fun t => !t.isEmpty

/-- The rules of a tag (`RuleSet::parse`). -/
def RuleSet.parse (tag : String) : Except TagError RuleSet := RuleSet.parseTokens (tagTokens tag)

def RuleSet.has (s : RuleSet) (name : RuleName) : Bool := s.rules.any (·.name == name)

/-! ## Deciding rules -/

/-- Null, or a string, list or object with nothing in it (`is_empty`). -/
def isEmptyValue : Json → Bool
  | .null => true
  | .string s => s.isEmpty
  | .array xs => xs.isEmpty
  | .object es => es.isEmpty
  | _ => false

/-- What size rules compare: the length of strings and collections, the value of numbers
(`measure`). -/
def measure : Json → Option Double
  | .string s => some (.ofInt s.length)
  | .array xs => some (.ofInt xs.length)
  | .object es => some (.ofInt es.length)
  | .number n => some n.toDouble
  | _ => none

/-- The text of a scalar (`scalar_text`). -/
def scalarText : Json → Option String
  | .string s => some s
  | .number n => some n.written
  | .bool b => some (toString b)
  | _ => none

/-- Whether a list of characters holds another one in a piece. -/
def holdsPiece (piece : List Char) : List Char → Bool
  | [] => piece.isEmpty
  | c :: cs => piece.isPrefixOf (c :: cs) || holdsPiece piece cs

/-- Whether a text holds another one. -/
def containsText (s t : String) : Bool := holdsPiece t.toList s.toList

def isNumericValue : Json → Bool
  | .number _ => true
  | .string s => (Numeral.double? s).isSome
  | _ => false

/-- Whether a value satisfies a rule (`passes`). -/
def Rule.passes (r : Rule) (value : Json) : Bool :=
  let onText (p : String → Bool) : Bool := (value.string?.map p).getD false
  let onSize (p : Double → Bool) : Bool := ((measure value).map p).getD false
  match r.name with
  | .min | .gte => onSize fun m => r.number.le m
  | .max | .lte => onSize fun m => m.le r.number
  | .gt => onSize fun m => r.number.lt m
  | .lt => onSize fun m => m.lt r.number
  | .len => onSize fun m => m.eq r.number
  | .eq => ((scalarText value).map (· == r.text)).getD false
  | .ne => ((scalarText value).map (· != r.text)).getD true
  | .oneof => ((scalarText value).map (Text.words r.text).contains).getD false
  | .email => onText Net.isEmail
  | .url => onText Net.isUrl
  | .uuid => onText Text.isUuid
  | .alpha => onText fun s => !s.isEmpty && s.toList.all Text.isAlphabetic
  | .alphanum => onText fun s => !s.isEmpty && s.toList.all Text.isAlphanumeric
  | .numeric => isNumericValue value
  | .lowercase => onText fun s => s == Text.lowercase s
  | .uppercase => onText fun s => s == Text.uppercase s
  | .contains => onText fun s => containsText s r.text
  | .excludes => ((value.string?).map fun s => !containsText s r.text).getD true
  | .startswith => onText fun s => r.text.toList.isPrefixOf s.toList
  | .endswith => onText fun s => r.text.toList.isSuffixOf s.toList
  | .required | .omitempty => true

/-! ## Messages -/

/-- What a value that fails a rule lacks. -/
def RuleName.phrase (r : RuleName) (kind : Kind) (p : String) : String :=
  let numeric := kind.isNumeric
  let unit := if kind.isCollection then "items" else "characters"
  match r with
  | .required => "This field is required"
  | .min => if numeric then "must be greater than " ++ p else "must have a minimum length of " ++ p
  | .max => if numeric then "must be less than " ++ p else "must have a maximum length of " ++ p
  | .len =>
    if numeric then "must be equal to " ++ p else "must be exactly " ++ p ++ " " ++ unit ++ " long"
  | .gte =>
    if numeric then "must be greater than or equal to " ++ p
    else "must have at least " ++ p ++ " " ++ unit
  | .lte =>
    if numeric then "must be less than or equal to " ++ p
    else "must have at most " ++ p ++ " " ++ unit
  | .gt =>
    if numeric then "must be greater than " ++ p else "must have more than " ++ p ++ " " ++ unit
  | .lt =>
    if numeric then "must be less than " ++ p else "must have fewer than " ++ p ++ " " ++ unit
  | .eq => "must be equal to " ++ p
  | .ne => "must not be equal to " ++ p
  | .oneof => "must be one of: " ++ String.intercalate ", " (Text.words p)
  | .email => "must be a valid email"
  | .url => "must be a valid URL"
  | .uuid => "must be a valid UUID"
  | .alpha => "must contain only letters"
  | .alphanum => "must contain only letters and numbers"
  | .numeric => "must be a valid number"
  | .lowercase => "must be lowercase"
  | .uppercase => "must be uppercase"
  | .contains => "must contain '" ++ p ++ "'"
  | .excludes => "must not contain '" ++ p ++ "'"
  | .startswith => "must start with '" ++ p ++ "'"
  | .endswith => "must end with '" ++ p ++ "'"
  | .omitempty => "failed on the 'omitempty' validation"

/-- The message of a rule given by name; an unknown one is named (`phrase`). -/
def phrase (rule : String) (kind : Kind) (param : Option String) : String :=
  match RuleName.parse? rule with
  | some r => r.phrase kind (param.getD "")
  | none => "failed on the '" ++ rule ++ "' validation"

/-- The message of the first rule that a value fails (`check_rules`). A missing value fails
`required` alone, and an empty one passes under `omitempty`. -/
def RuleSet.check (s : RuleSet) (kind : Kind) (value : Json) : Option String :=
  if s.has .required && isEmptyValue value then some (RuleName.required.phrase kind "")
  else if value.isNull || (s.has .omitempty && isEmptyValue value) then none
  else (s.rules.find? fun r => !r.passes value).map fun r => r.name.phrase kind r.text

end RestKit.Schema
