import RestKit.Proofs.Double.Nearest
import RestKit.Proofs.Text.Numeral
import RestKit.Schema.Rule
/-!
# Integer bounds

A size rule whose parameter is an integer takes the doubles nearest to the value and to the bound
and compares these (`decides_nearest`). Rounding keeps the order of integers but makes some of them
equal, so that the rules are exact for a value and a bound just if the two are the same or have
different nearest doubles (`bounds_exact_iff`). From `2 ^ 53` on, an integer may be refused for
being what the rule asks for (`greater_value_refused`).
-/
namespace RestKit.Schema

open Double (nearest)

variable {rule : RuleName} {r : Rule} {s : RuleSet} {kind : Kind} {v : Json} {bound : String}
  {x : Double} {n p : Int} {a b : Prop}

/-! ## What size rules ask -/

/-- What a size rule with the bound `p` asks of an integer. -/
def RuleName.Asks (rule : RuleName) (p n : Int) : Prop :=
  match rule with
  | .min | .gte => p ≤ n
  | .max | .lte => n ≤ p
  | .gt => p < n
  | .lt => n < p
  | .len => n = p
  | _ => True

/-- A size rule compares the value of what it measures with the value of its parameter. -/
theorem passes_iff_asks (hsize : r.name.isNumeric = true) (hmeasure : measure v = some x)
    (hx : x.HasValue n) (hnumber : r.number.HasValue p) :
    r.passes v = true ↔ r.name.Asks p n := by
  cases hname : r.name with
  | min | gte => simp [Rule.passes, RuleName.Asks, hname, hmeasure, hnumber.le_iff hx]
  | max | lte => simp [Rule.passes, RuleName.Asks, hname, hmeasure, hx.le_iff hnumber]
  | gt => simp [Rule.passes, RuleName.Asks, hname, hmeasure, hnumber.lt_iff hx]
  | lt => simp [Rule.passes, RuleName.Asks, hname, hmeasure, hx.lt_iff hnumber]
  | len => simp [Rule.passes, RuleName.Asks, hname, hmeasure, hx.eq_iff hnumber]
  | _ => simp [RuleName.isNumeric, hname] at hsize

/-- An integer passes a set of rules if it passes each of them. -/
theorem check_int : s.check kind (.int n) = none ↔ ∀ r ∈ s.rules, r.passes (.int n) = true := by
  have hempty : isEmptyValue (.int n) = false := rfl
  have hnull : (Json.int n).isNull = false := rfl
  simp [RuleSet.check, hempty, hnull]

/-- A set of rules with one more. -/
def RuleSet.withRule (s : RuleSet) (r : Rule) : RuleSet := { s with rules := r :: s.rules }

theorem check_withRule : (s.withRule r).check kind (.int n) = none ↔
    r.passes (.int n) = true ∧ s.check kind (.int n) = none := by
  rw [check_int, check_int, RuleSet.withRule, List.forall_mem_cons]

/-! ## Tags of one rule -/

theorem parse?_name (rule : RuleName) : RuleName.parse? rule.name = some rule := by
  cases rule <;> decide

theorem plain_name (rule : RuleName) :
    ∀ c ∈ rule.name.toList, c ≠ '=' ∧ c ≠ ',' ∧ Text.isBlank c = false := by
  have hall : (rule.name.toList.all fun c => c != '=' && c != ',' && !Text.isBlank c) = true := by
    cases rule <;> rfl
  intro c hc
  simpa [and_assoc] using List.all_eq_true.1 hall c hc

theorem takesParameter_of_isNumeric (hsize : rule.isNumeric = true) :
    rule.takesParameter = true := by
  cases rule <;> simp_all [RuleName.isNumeric, RuleName.takesParameter]

/-- An integer as a parameter has the value of its nearest double. -/
theorem exists_double?
    (hbound : Numeral.intWithin? Numeral.int64Min Numeral.nat64Max bound = some p) :
    ∃ x, Numeral.double? bound = some x ∧ x.HasValue (nearest p) := by
  obtain ⟨hlow, hhigh, negative, cs, m, hsigned, hm, hp⟩ :=
    Numeral.exists_signed_of_intWithin? hbound
  have hsize : m < 2 ^ 64 := by
    simp only [Numeral.int64Min, Numeral.nat64Max] at hlow hhigh
    split at hp <;> omega
  have hlength : (Nat.toDigits 10 m).length ≤ 20 :=
    (Nat.length_toDigits_le_iff (by decide) (by decide)).2 (by omega)
  have hlog : m.log2 ≤ 63 := Double.log2_le_of_lt hsize
  refine ⟨_, Numeral.double?_of_signed hsigned hm, ?_⟩
  rw [Numeral.decimal_zero (by omega)]
  exact Double.hasValue_round_nearest (by omega) hp

/-- A text without blanks and commas is the one token of its tag. -/
theorem tagTokens_of_plain {token : String} (hne : token ≠ "")
    (hplain : ∀ c ∈ token.toList, Text.isBlank c = false ∧ c ≠ ',') :
    tagTokens token = [token] := by
  have hcomma : ',' ∉ token.toList := fun hc => (hplain ',' hc).2 rfl
  have htrim : Text.trim token = token := Text.trim_eq_self fun c hc => (hplain c hc).1
  simp [tagTokens, Text.splitOn_of_notMem hcomma, htrim, hne]

/-- A name and a parameter without blanks around it are read as a rule. -/
theorem parse_token {token : String} (hsize : rule.isNumeric = true)
    (hlist : token.toList = rule.name.toList ++ '=' :: bound.toList)
    (htrim : Text.trim bound = bound) (hnumber : Numeral.double? bound = some x) :
    Rule.parse token = .ok ⟨rule, some bound⟩ := by
  have hsplit : Text.splitOnce '=' token = some (rule.name, bound) :=
    Text.splitOnce_eq_some hlist fun hc => (plain_name rule '=' hc).1 rfl
  have hname : Text.trim rule.name = rule.name :=
    Text.trim_eq_self fun c hc => (plain_name rule c hc).2.2
  have htakes : rule.takesParameter = true := takesParameter_of_isNumeric hsize
  simp [Rule.parse, hsplit, hname, htrim, parse?_name, htakes, hnumber]

/-- The tag of a size rule and an integer has this rule alone. -/
theorem parse_bound (hsize : rule.isNumeric = true)
    (hbound : Numeral.intWithin? Numeral.int64Min Numeral.nat64Max bound = some p) :
    RuleSet.parse (rule.name ++ "=" ++ bound) =
      .ok (RuleSet.withRule {} ⟨rule, some bound⟩) := by
  obtain ⟨-, -, negative, cs, m, hsigned, hm, -⟩ := Numeral.exists_signed_of_intWithin? hbound
  obtain ⟨x, hx, -⟩ := exists_double? hbound
  have hdigits : ∀ c ∈ bound.toList, Text.isBlank c = false ∧ c ≠ ',' := fun c hc =>
    Numeral.plain_of_signed hsigned hm hc
  generalize htoken : rule.name ++ "=" ++ bound = token
  have hlist : token.toList = rule.name.toList ++ '=' :: bound.toList := by
    simp [← htoken]
  have hplain : ∀ c ∈ token.toList, Text.isBlank c = false ∧ c ≠ ',' := by
    intro c hc
    rw [hlist, List.mem_append, List.mem_cons] at hc
    rcases hc with hc | rfl | hc
    · obtain ⟨-, hcomma, hblank⟩ := plain_name rule c hc
      exact ⟨hblank, hcomma⟩
    · decide
    · exact hdigits c hc
  have hequals : '=' ∈ token.toList := by simp [hlist]
  have hne : token ≠ "" := by
    rintro rfl
    exact absurd hequals (by decide)
  have hdive : (token == "dive") = false := by
    rw [beq_eq_false_iff_ne]
    rintro rfl
    exact absurd hequals (by decide)
  have hrule : Rule.parse token = .ok ⟨rule, some bound⟩ :=
    parse_token hsize hlist (Text.trim_eq_self fun c hc => (hdigits c hc).1) hx
  rw [RuleSet.parse, tagTokens_of_plain hne hplain, RuleSet.parseTokens, hdive, hrule]
  rfl

/-! ## Decisions -/

/-- The tag `rule=bound` is accepted, and the rule that it has lets an integer pass just if `a`
holds, whatever other rules stand beside it and whatever the kind of the field is. -/
def Decides (rule : RuleName) (bound : String) (n : Int) (a : Prop) : Prop :=
  ∃ r, RuleSet.parse (rule.name ++ "=" ++ bound) = .ok (RuleSet.withRule {} r) ∧
    ∀ (s : RuleSet) (kind : Kind), (s.withRule r).check kind (.int n) = none ↔
      a ∧ s.check kind (.int n) = none

theorem Decides.of_iff (h : Decides rule bound n a) (hab : a ↔ b) : Decides rule bound n b := by
  obtain ⟨r, hparse, hcheck⟩ := h
  exact ⟨r, hparse, fun s kind => (hcheck s kind).trans (and_congr_left' hab)⟩

/-- A tag of one rule decides by this rule. -/
theorem Decides.check_iff (h : Decides rule bound n a)
    (hparse : RuleSet.parse (rule.name ++ "=" ++ bound) = .ok s) (kind : Kind) :
    s.check kind (.int n) = none ↔ a := by
  obtain ⟨r, hr, hcheck⟩ := h
  cases hparse.symm.trans hr
  rw [hcheck]
  exact and_iff_left rfl

theorem Decides.unique (ha : Decides rule bound n a) (hb : Decides rule bound n b) : a ↔ b := by
  obtain ⟨r, hparse, hcheck⟩ := ha
  have hone : (RuleSet.withRule {} r).check .int (.int n) = none ↔ a :=
    Decides.check_iff ⟨r, hparse, hcheck⟩ hparse .int
  exact hone.symm.trans (hb.check_iff hparse .int)

theorem natAbs_lt (hlow : Numeral.int64Min ≤ n) (hhigh : n ≤ Numeral.nat64Max) :
    n.natAbs < 2 ^ 64 := by
  simp only [Numeral.int64Min, Numeral.nat64Max] at hlow hhigh
  omega

/-- **What a bound decides.** An integer passes if its nearest double is as the rule asks for the
nearest double of the bound. -/
theorem decides_nearest (hsize : rule.isNumeric = true)
    (hbound : Numeral.intWithin? Numeral.int64Min Numeral.nat64Max bound = some p)
    (hn : n.natAbs < 2 ^ 64) : Decides rule bound n (rule.Asks (nearest p) (nearest n)) := by
  obtain ⟨x, hx, hvalue⟩ := exists_double? hbound
  have hnumber : Rule.number ⟨rule, some bound⟩ = x := by
    rw [Rule.number, Option.bind_some, hx, Option.getD_some]
  have hlog : n.natAbs.log2 ≤ 63 := Double.log2_le_of_lt hn
  have hpasses : Rule.passes ⟨rule, some bound⟩ (.int n) = true ↔
      rule.Asks (nearest p) (nearest n) :=
    passes_iff_asks hsize rfl (Double.hasValue_ofInt_nearest (by omega)) (hnumber ▸ hvalue)
  refine ⟨_, parse_bound hsize hbound, fun s kind => ?_⟩
  rw [check_withRule, hpasses]

/-- Rounding changes what a rule asks only between different integers with one nearest double. -/
theorem asks_nearest_iff (h : n = p ∨ nearest n ≠ nearest p) :
    rule.Asks (nearest p) (nearest n) ↔ rule.Asks p n := by
  rcases h with rfl | hne
  · cases rule <;> simp [RuleName.Asks]
  · have hbelow := Double.nearest_lt_iff hne
    have habove := Double.nearest_lt_iff hne.symm
    cases rule <;> simp only [RuleName.Asks] <;> omega

/-- **Integer bounds.** The size rules decide on the nearest doubles. They are exact for an integer
and a bound just if the two are the same or have different nearest doubles; so they are when one of
them is below `2 ^ 53`, or when they are more than 2048 apart. -/
theorem bounds_exact_iff
    (hbound : Numeral.intWithin? Numeral.int64Min Numeral.nat64Max bound = some p)
    (hlow : Numeral.int64Min ≤ n) (hhigh : n ≤ Numeral.nat64Max) :
    (∀ rule : RuleName, rule.isNumeric = true →
        Decides rule bound n (rule.Asks (nearest p) (nearest n))) ∧
      ((∀ rule : RuleName, rule.isNumeric = true → Decides rule bound n (rule.Asks p n)) ↔
        n = p ∨ nearest n ≠ nearest p) ∧
      (n.natAbs < 2 ^ 53 ∨ p.natAbs < 2 ^ 53 ∨ 2048 < (n - p).natAbs →
        ∀ rule : RuleName, rule.isNumeric = true → Decides rule bound n (rule.Asks p n)) := by
  obtain ⟨hplow, hphigh, -⟩ := Numeral.exists_signed_of_intWithin? hbound
  have hn : n.natAbs < 2 ^ 64 := natAbs_lt hlow hhigh
  have hp : p.natAbs < 2 ^ 64 := natAbs_lt hplow hphigh
  have hdecides : ∀ rule : RuleName, rule.isNumeric = true →
      Decides rule bound n (rule.Asks (nearest p) (nearest n)) :=
    fun rule hsize => decides_nearest hsize hbound hn
  have hexact : n = p ∨ nearest n ≠ nearest p → ∀ rule : RuleName, rule.isNumeric = true →
      Decides rule bound n (rule.Asks p n) :=
    fun h rule hsize => (hdecides rule hsize).of_iff (asks_nearest_iff h)
  refine ⟨hdecides, ⟨fun h => ?_, hexact⟩, fun h => hexact ?_⟩
  · by_cases heq : nearest n = nearest p
    · -- The rule on equality takes the two as equal.
      have hlen : nearest n = nearest p ↔ n = p := (hdecides .len rfl).unique (h .len rfl)
      exact .inl (hlen.1 heq)
    · exact .inr heq
  · by_cases heq : n = p
    · exact .inl heq
    · right
      rcases h with h | h | h
      · exact Double.nearest_ne_of_small h heq
      · exact (Double.nearest_ne_of_small h (Ne.symm heq)).symm
      · exact Double.nearest_ne_of_far hn hp h

/-- Two integers 2048 apart that are taken as equal. -/
theorem bounds_exact_iff_apart :
    let bound := "+9223372036854780928"
    let n : Int := 9223372036854778880
    Numeral.intWithin? Numeral.int64Min Numeral.nat64Max bound = some (n + 2048) ∧
      (Numeral.int64Min ≤ n ∧ n ≤ Numeral.nat64Max) ∧ Decides .len bound n True ∧
      ¬ ∀ rule : RuleName, rule.isNumeric = true →
        Decides rule bound n (rule.Asks (n + 2048) n) := by
  intro bound n
  have hbound : Numeral.intWithin? Numeral.int64Min Numeral.nat64Max bound = some (n + 2048) := by
    decide +kernel
  have hlow : Numeral.int64Min ≤ n := by decide
  have hhigh : n ≤ Numeral.nat64Max := by decide
  have hnearest : nearest n = nearest (n + 2048) := by decide +kernel
  obtain ⟨hdecides, hexact, -⟩ := bounds_exact_iff hbound hlow hhigh
  refine ⟨hbound, ⟨hlow, hhigh⟩, (hdecides .len rfl).of_iff (iff_true_intro hnearest), ?_⟩
  rw [hexact]
  rintro (heq | hne)
  · exact absurd heq (by decide)
  · exact hne hnearest

/-- An integer above its bound is refused, and told to be greater than the bound. -/
theorem greater_value_refused :
    let n : Int := 9007199254740993
    ∃ s, RuleSet.parse "gt=9007199254740992" = .ok s ∧
      s.check .int (.int n) = some "must be greater than 9007199254740992" ∧
      ¬ Decides .gt "9007199254740992" n (RuleName.gt.Asks 9007199254740992 n) := by
  intro n
  have hparse : RuleSet.parse "gt=9007199254740992" =
      .ok { rules := [⟨.gt, some "9007199254740992"⟩] } := rfl
  have hcheck : RuleSet.check { rules := [⟨.gt, some "9007199254740992"⟩] } .int (.int n) =
      some "must be greater than 9007199254740992" := by
    decide +kernel
  refine ⟨_, hparse, hcheck, fun hdecides => ?_⟩
  have habove : RuleName.gt.Asks 9007199254740992 n :=
    show (9007199254740992 : Int) < 9007199254740993 by decide
  have hnone := (hdecides.check_iff hparse .int).2 habove
  rw [hcheck] at hnone
  cases hnone

end RestKit.Schema
