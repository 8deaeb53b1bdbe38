import RestKit.Param.Value
/-!
# Sample parsers

Parsers that an application gives a parameter in place of its type.
-/
namespace RestKit.Sample

/-- The parts between commas, as a list of texts. -/
def commaList (raw : String) : Except String ParamValue :=
  .ok (.json (.array ((Text.splitOn ',' raw).map .string)))

/-- Refuses every text. -/
def neverParses (raw : String) : Except String ParamValue := .error ("cannot parse '" ++ raw ++ "'")

end RestKit.Sample
