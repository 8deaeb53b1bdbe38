import RestKit.Proofs.Double.Order
import RestKit.Proofs.Schema.Fault
/-!
# What values without a fault satisfy

A value that has no fault passes each of its rules, if it is not null and may not be empty
(`passes_of_not_fault`). A bound that is a small integer bounds the length of strings and lists and
the value of integers (`atLeast_iff`, `atMost_iff`).
-/
namespace RestKit.Schema

variable {fam : Family} {kind e : Kind} {s d : RuleSet} {v : Json} {r : Rule} {k n : Int}

theorem passes_of_check (h : s.check kind v = none) (hnull : v.isNull = false)
    (hoptional : s.has .omitempty = false) (hr : r ∈ s.rules) : r.passes v = true := by
  unfold RuleSet.check at h
  rw [hnull, hoptional, Bool.false_and, Bool.or_false] at h
  split at h
  · cases h
  · rw [if_neg Bool.false_ne_true, Option.map_eq_none_iff, List.find?_eq_none] at h
    simpa using h r hr

/-- A value without a fault passes its rules. -/
theorem passes_of_not_fault (h : ¬ Fault fam kind (some s) v) (hnull : v.isNull = false)
    (hoptional : s.has .omitempty = false) (hr : r ∈ s.rules) : r.passes v = true :=
  passes_of_check ((not_fault_iff.1 h).1) hnull hoptional hr

/-- The elements of a list without a fault have none behind `dive`. -/
theorem not_fault_of_mem {xs : List Json} {x : Json} (h : ¬ Fault fam kind (some s) (.array xs))
    (hdive : s.dive = some d) (hkind : kind.element? = some e) (hx : x ∈ xs) :
    ¬ Fault fam e (some d) x :=
  fun hfault => h (.element hdive hkind hx hfault)

/-! ## Bounds -/

/-- A rule that bounds from below asks for that much. -/
theorem atLeast_iff (hname : r.name = .min ∨ r.name = .gte) (hnumber : r.number = .ofInt k)
    (hk : k.natAbs < 2 ^ 53) (hmeasure : measure v = some (.ofInt n)) :
    r.passes v = true ↔ k ≤ n := by
  rw [← Double.le_ofInt_iff hk]
  rcases hname with hname | hname <;> simp [Rule.passes, hname, hmeasure, hnumber]

/-- A rule that bounds from above asks for no more. -/
theorem atMost_iff (hname : r.name = .max ∨ r.name = .lte) (hnumber : r.number = .ofInt k)
    (hk : k.natAbs < 2 ^ 53) (hmeasure : measure v = some (.ofInt n)) :
    r.passes v = true ↔ n ≤ k := by
  rw [← Double.ofInt_le_iff hk]
  rcases hname with hname | hname <;> simp [Rule.passes, hname, hmeasure, hnumber]

theorem alphanum_iff {t : String} (hname : r.name = .alphanum) :
    r.passes (.string t) = true ↔ t ≠ "" ∧ ∀ c ∈ t.toList, Text.isAlphanumeric c = true := by
  simp [Rule.passes, hname, Json.string?]

end RestKit.Schema
