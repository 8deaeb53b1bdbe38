import RestKit.Query.Operator
/-!
# Keywords

The thirteen keywords, the key of pattern options and the keys with a dollar sign in front are
three disjoint kinds of key, and a keyword names one operator.
-/
namespace RestKit.Query

/-- `Operator.parse?` inverts `Operator.name`. -/
theorem parse?_eq_some {k : String} {op : Operator} :
    Operator.parse? k = some op ↔ op.name = k := by
  constructor
  · intro h
    simpa using List.find?_some h
  · rintro rfl
    cases op <;> decide

theorem isDollar_name (op : Operator) : isDollar op.name = false := by cases op <;> decide

theorem isDollar_of_parse? {k : String} {op : Operator} (h : Operator.parse? k = some op) :
    isDollar k = false := by
  rw [← parse?_eq_some.1 h]
  exact isDollar_name op

theorem parse?_optionsKey : Operator.parse? optionsKey = none := by decide

theorem isDollar_optionsKey : isDollar optionsKey = false := by decide

theorem ne_empty_of_parse? {k : String} {op : Operator} (h : Operator.parse? k = some op) :
    k ≠ "" := by
  rw [← parse?_eq_some.1 h]
  cases op <;> decide

theorem isOperatorKey_iff {k : String} :
    isOperatorKey k = true ↔ (∃ op, Operator.parse? k = some op) ∨ k = optionsKey := by
  simp [isOperatorKey, Option.isSome_iff_exists]

end RestKit.Query
