import Mathlib.Tactic.Positivity
import Mathlib.Tactic.Ring
import RestKit.Double.Basic
/-!
# Doubles of integers in order

The double of an integer has the value of the nearest number of 53 bits (`hasValue_round`). An
integer below `2 ^ 53` is a double exactly (`hasValue_ofInt`). A greater one may be rounded, but not
to below `2 ^ 53` (`beyond_ofInt`), so the double of any integer compares with that of a small one
as the integers do (`le_ofInt_iff`, `ofInt_le_iff`).
-/
namespace RestKit.Double

variable {s : Bool} {num k : Nat} {m n : Int} {x y : Double}

/-! ## Rounding an integer -/

/-- The unit of the last of 53 bits of a number; one, if it has no more bits. -/
def lastUnit (num : Nat) : Nat := 2 ^ (num.log2 - 52)

/-- The nearest number with no more than 53 bits in front of zeros; of two such, the one in an even
number of units. -/
def nearestNat (num : Nat) : Nat := divNearest num (lastUnit num) * lastUnit num

theorem halfSignificand_eq : halfSignificand = 2 ^ 52 := by decide

theorem log2_bounds (h : 0 < num) : 2 ^ num.log2 ≤ num ∧ num < 2 ^ (num.log2 + 1) :=
  ⟨Nat.log2_self_le (Nat.pos_iff_ne_zero.1 h), Nat.lt_log2_self⟩

theorem log2_le_of_lt (h : num < 2 ^ (k + 1)) : num.log2 ≤ k := by
  rcases Nat.eq_zero_or_pos num with rfl | hpos
  · exact Nat.zero_le k
  · exact Nat.lt_succ_iff.1 ((Nat.log2_lt (Nat.pos_iff_ne_zero.1 hpos)).2 h)

/-- An integer of 53 bits or less is taken in units of a fraction. -/
theorem inUnits_of_le (h : num.log2 ≤ 52) :
    inUnits num 1 ((num.log2 : Int) - 52) = (num * 2 ^ (52 - num.log2), 1) := by
  unfold inUnits
  rcases Nat.eq_or_lt_of_le h with heq | hlt
  · have hzero : (num.log2 : Int) - 52 = 0 := by omega
    rw [hzero, heq]
    simp
  · have hneg : ¬ 0 ≤ (num.log2 : Int) - 52 := by omega
    have htoNat : (-((num.log2 : Int) - 52)).toNat = 52 - num.log2 := by omega
    rw [if_neg hneg, htoNat]
    rfl

theorem inUnits_of_lt (h : 52 < num.log2) :
    inUnits num 1 ((num.log2 : Int) - 52) = (num, lastUnit num) := by
  have hpos : 0 ≤ (num.log2 : Int) - 52 := by omega
  have htoNat : ((num.log2 : Int) - 52).toNat = num.log2 - 52 := by omega
  rw [inUnits, if_pos hpos, htoNat, Nat.one_mul]
  rfl

/-- A greater integer has 53 bits before the point, in units of the last of them. -/
theorem le_div_lastUnit (hpos : 0 < num) (h : 52 ≤ num.log2) : 2 ^ 52 ≤ num / lastUnit num := by
  rw [lastUnit, Nat.le_div_iff_mul_le (by positivity), ← Nat.pow_add, Nat.add_sub_cancel' h]
  exact (log2_bounds hpos).1

/-- In units of its last bit an integer has 53 bits. -/
theorem exponentFor_one (h : 0 < num) :
    exponentFor num 1 = max ((num.log2 : Int) - 52) (-1074) := by
  obtain ⟨hlow, -⟩ := log2_bounds h
  have hlog : ((Nat.log2 1 : Nat) : Int) = 0 := by decide
  unfold exponentFor
  rw [hlog, Int.sub_zero]
  dsimp only
  rcases Nat.lt_or_ge 52 num.log2 with hlt | hle
  · rw [inUnits_of_lt hlt]
    have hquotient : halfSignificand ≤ num / lastUnit num := by
      rw [halfSignificand_eq]
      exact le_div_lastUnit h hlt.le
    simp only [Nat.not_lt.2 hquotient, if_false]
    rfl
  · rw [inUnits_of_le hle]
    have hquotient : halfSignificand ≤ num * 2 ^ (52 - num.log2) := by
      rw [halfSignificand_eq, ← Nat.add_sub_cancel' hle, Nat.pow_add,
        Nat.add_sub_cancel_left]
      exact Nat.mul_le_mul_right _ hlow
    simp only [Nat.div_one, Nat.not_lt.2 hquotient, if_false]
    rfl

theorem divNearest_one (q : Nat) : divNearest q 1 = q := by
  unfold divNearest
  simp [Nat.mod_one]

theorem le_divNearest (q d : Nat) : q / d ≤ divNearest q d := by
  unfold divNearest
  dsimp only
  split
  · exact Nat.le_refl _
  · split
    · split
      · exact Nat.le_refl _
      · exact Nat.le_succ _
    · exact Nat.le_succ _

/-- A small integer is not rounded. -/
theorem round_small (hpos : 0 < num) (h : num < 2 ^ 53) :
    round s num 1 = .finite s (num * 2 ^ (52 - num.log2)) ((num.log2 : Int) - 52) := by
  obtain ⟨-, hhigh⟩ := log2_bounds hpos
  have hlog : num.log2 ≤ 52 := log2_le_of_lt h
  have hexponent : exponentFor num 1 = (num.log2 : Int) - 52 := by
    rw [exponentFor_one hpos]
    omega
  have hsignificand : num * 2 ^ (52 - num.log2) ≠ 2 * halfSignificand := by
    have hlt : num * 2 ^ (52 - num.log2) < 2 ^ (num.log2 + 1) * 2 ^ (52 - num.log2) :=
      Nat.mul_lt_mul_of_pos_right hhigh (by positivity)
    rw [← Nat.pow_add] at hlt
    have hsum : num.log2 + 1 + (52 - num.log2) = 53 := by omega
    rw [hsum] at hlt
    rw [halfSignificand_eq]
    omega
  have hexpmax : ¬ maxExponent < (num.log2 : Int) - 52 := by
    unfold maxExponent
    omega
  unfold round
  rw [if_neg (Nat.pos_iff_ne_zero.1 hpos), hexponent]
  dsimp only
  rw [inUnits_of_le hlog]
  dsimp only
  rw [divNearest_one, if_neg hsignificand]
  dsimp only
  rw [if_neg hexpmax]

/-- A number of 53 bits or less is its own nearest. -/
theorem nearestNat_of_log2 (h : num.log2 ≤ 52) : nearestNat num = num := by
  have hunit : lastUnit num = 1 := by rw [lastUnit, Nat.sub_eq_zero_of_le h, Nat.pow_zero]
  rw [nearestNat, hunit, divNearest_one, Nat.mul_one]

/-- Rounding does not go below a power of two. -/
theorem le_nearestNat (h : 2 ^ k ≤ num) : 2 ^ k ≤ nearestNat num := by
  have hpos : 0 < num := (Nat.two_pow_pos k).trans_le h
  have hk : k ≤ num.log2 := (Nat.le_log2 (Nat.pos_iff_ne_zero.1 hpos)).2 h
  rcases Nat.le_total num.log2 52 with hle | hge
  · rwa [nearestNat_of_log2 hle]
  · have hquotient : 2 ^ 52 ≤ divNearest num (lastUnit num) :=
      (le_div_lastUnit hpos hge).trans (le_divNearest _ _)
    calc 2 ^ k ≤ 2 ^ num.log2 := Nat.pow_le_pow_right (by decide) hk
      _ = 2 ^ 52 * lastUnit num := by rw [lastUnit, ← Nat.pow_add, Nat.add_sub_cancel' hge]
      _ ≤ nearestNat num := Nat.mul_le_mul_right _ hquotient

/-- A greater integer is rounded to the nearest, unless this is beyond the format. -/
theorem round_large (h : 52 < num.log2) :
    (round s num 1 = .infinity s ∧ 1023 ≤ num.log2) ∨
      ∃ q e : Nat, round s num 1 = .finite s q e ∧ q * 2 ^ e = nearestNat num := by
  have hne : num ≠ 0 := by
    rintro rfl
    exact absurd h (by decide)
  have hexponent : exponentFor num 1 = ((num.log2 - 52 : Nat) : Int) := by
    rw [exponentFor_one (Nat.pos_iff_ne_zero.2 hne)]
    omega
  have hcast : ((num.log2 - 52 : Nat) : Int) = (num.log2 : Int) - 52 := by omega
  have hmax : maxExponent = 971 := rfl
  unfold round
  rw [if_neg hne, hexponent, hcast]
  dsimp only
  rw [inUnits_of_lt h, ← hcast]
  dsimp only
  split
  · -- The quotient is rounded up to a bit more.
    rename_i hcarry
    dsimp only
    split
    · exact .inl ⟨rfl, by omega⟩
    · refine .inr ⟨halfSignificand, num.log2 - 52 + 1, rfl, ?_⟩
      rw [nearestNat, hcarry, lastUnit, Nat.pow_succ]
      ring
  · dsimp only
    split
    · exact .inl ⟨rfl, by omega⟩
    · exact .inr ⟨_, num.log2 - 52, rfl, rfl⟩

/-! ## The value of an integer's double -/

/-- The value of a double is an integer. -/
def HasValue (x : Double) (n : Int) : Prop := ∃ d : Nat, 0 < d ∧ x.fraction? = some (n * d, d)

/-- A significand in units of a fraction, as a fraction. -/
theorem fraction_units {q : Nat} :
    fraction? (.finite s (q * 2 ^ k) (-(k : Int))) =
      some ((if s then -(q : Int) else q) * (2 ^ k : Nat), 2 ^ k) := by
  have hmagnitude : magnitude (q * 2 ^ k) (-(k : Int)) = (q * 2 ^ k, 2 ^ k) := by
    unfold magnitude
    cases k with
    | zero => simp
    | succ k =>
      have hneg : ¬ 0 ≤ -((k + 1 : Nat) : Int) := by omega
      have htoNat : (-(-((k + 1 : Nat) : Int))).toNat = k + 1 := by omega
      rw [if_neg hneg, htoNat]
      rfl
  rw [fraction?, hmagnitude]
  cases s <;> simp

/-- A significand in whole units, as a fraction. -/
theorem fraction_whole {q e : Nat} :
    fraction? (.finite s q e) =
      some (if s then -((q * 2 ^ e : Nat) : Int) else (q * 2 ^ e : Nat), 1) := by
  have hmagnitude : magnitude q (e : Int) = (q * 2 ^ e, 1) := by
    rw [magnitude, if_pos (Int.natCast_nonneg e), Int.toNat_natCast]
    rfl
  rw [fraction?, hmagnitude]

/-- The double of an integer has the value of the nearest number of 53 bits. -/
theorem hasValue_round (h : num.log2 < 1023) :
    (round s num 1).HasValue (if s then -(nearestNat num : Int) else nearestNat num) := by
  rcases Nat.eq_zero_or_pos num with rfl | hpos
  · have hzero : round s 0 1 = .finite s (0 * 2 ^ 1074) (-((1074 : Nat) : Int)) := by
      rw [Nat.zero_mul]
      rfl
    have hnearest : nearestNat 0 = 0 := rfl
    exact ⟨2 ^ 1074, by positivity, by rw [hzero, fraction_units, hnearest]⟩
  · rcases Nat.lt_or_ge 52 num.log2 with hlarge | hsmall
    · rcases round_large (s := s) hlarge with ⟨-, hinfinite⟩ | ⟨q, e, hround, hvalue⟩
      · omega
      · refine ⟨1, Nat.one_pos, ?_⟩
        rw [hround, fraction_whole, hvalue, Nat.cast_one, mul_one]
    · have hexponent : (num.log2 : Int) - 52 = -((52 - num.log2 : Nat) : Int) := by omega
      have hbits : num < 2 ^ 53 :=
        (log2_bounds hpos).2.trans_le (Nat.pow_le_pow_right (by decide) (by omega))
      refine ⟨2 ^ (52 - num.log2), by positivity, ?_⟩
      rw [round_small hpos hbits, hexponent, fraction_units, nearestNat_of_log2 hsmall]

/-- An integer with its sign taken off and put on again. -/
theorem signed_natAbs (n : Int) : (if n < 0 then -(n.natAbs : Int) else n.natAbs) = n := by
  split <;> omega

/-- An integer below `2 ^ 53` is a double exactly. -/
theorem hasValue_ofInt (h : n.natAbs < 2 ^ 53) : (ofInt n).HasValue n := by
  have hlog : n.natAbs.log2 ≤ 52 := log2_le_of_lt h
  have hround := hasValue_round (s := n < 0) (show n.natAbs.log2 < 1023 by omega)
  rw [nearestNat_of_log2 hlog] at hround
  simpa only [ofInt, decide_eq_true_eq, signed_natAbs] using hround

/-- The double of a greater integer is not below `2 ^ 53`, or not above `-2 ^ 53`. -/
theorem beyond_ofInt (h : 2 ^ 53 ≤ n.natAbs) :
    ofInt n = .infinity (n < 0) ∨ ∃ a : Int, (ofInt n).fraction? = some (a, 1) ∧
      (0 ≤ n → 2 ^ 53 ≤ a) ∧ (n < 0 → a ≤ -2 ^ 53) := by
  have hpos : 0 < n.natAbs := by omega
  have hlog : 53 ≤ n.natAbs.log2 := (Nat.le_log2 (Nat.pos_iff_ne_zero.1 hpos)).2 h
  rcases round_large (s := n < 0) (show 52 < n.natAbs.log2 by omega) with
    ⟨hinfinite, -⟩ | ⟨q, e, hround, hvalue⟩
  · exact .inl hinfinite
  · have hsize : (2 ^ 53 : Int) ≤ (nearestNat n.natAbs : Int) := by
      exact_mod_cast le_nearestNat h
    refine .inr ⟨if n < 0 then -(nearestNat n.natAbs : Int) else nearestNat n.natAbs, ?_, ?_, ?_⟩
    · rw [ofInt, hround, fraction_whole, hvalue]
      simp only [decide_eq_true_eq]
    · intro hge
      rwa [if_neg (Int.not_lt.2 hge)]
    · intro hneg
      rw [if_pos hneg]
      omega

/-! ## Order -/

theorem lt_of_fraction {a b : Int} {c d : Nat} (hx : x.fraction? = some (a, c))
    (hy : y.fraction? = some (b, d)) : x.lt y = true ↔ a * d < b * c := by
  cases x with
  | finite s q e =>
    cases y with
    | finite t r f =>
      unfold lt
      simp [hx, hy]
    | _ => cases hy
  | _ => cases hx

/-- Doubles are in the order of their values. -/
theorem HasValue.lt_iff (hx : x.HasValue m) (hy : y.HasValue n) : x.lt y = true ↔ m < n := by
  obtain ⟨c, hc, hx⟩ := hx
  obtain ⟨d, hd, hy⟩ := hy
  have hcd : (0 : Int) < (c : Int) * d := by exact_mod_cast Nat.mul_pos hc hd
  have hleft : m * c * d = m * (c * d) := by ring
  have hright : n * d * c = n * (c * d) := by ring
  rw [lt_of_fraction hx hy, hleft, hright]
  exact Int.mul_lt_mul_right hcd

theorem lt_infinity {a : Int × Nat} (hx : x.fraction? = some a) :
    x.lt (.infinity s) = !s ∧ lt (.infinity s) x = s := by
  cases x with
  | finite => exact ⟨rfl, rfl⟩
  | _ => cases hx

/-- The doubles of two integers, one of them small, are in the order of the integers. -/
theorem ofInt_lt_iff (h : m.natAbs < 2 ^ 53) :
    ((ofInt m).lt (ofInt n) = true ↔ m < n) ∧ ((ofInt n).lt (ofInt m) = true ↔ n < m) := by
  rcases Nat.lt_or_ge n.natAbs (2 ^ 53) with hsmall | hlarge
  · exact ⟨(hasValue_ofInt h).lt_iff (hasValue_ofInt hsmall),
      (hasValue_ofInt hsmall).lt_iff (hasValue_ofInt h)⟩
  · rcases beyond_ofInt hlarge with hinfinite | ⟨a, ha, hpos, hneg⟩
    · obtain ⟨d, -, hm⟩ := hasValue_ofInt h
      rw [hinfinite, (lt_infinity hm).1, (lt_infinity hm).2]
      by_cases hsign : n < 0 <;> simp [hsign] <;> omega
    · have hvalue : (ofInt n).HasValue a := ⟨1, Nat.one_pos, by rw [ha, Nat.cast_one, mul_one]⟩
      rw [(hasValue_ofInt h).lt_iff hvalue, hvalue.lt_iff (hasValue_ofInt h)]
      by_cases hsign : n < 0
      · have := hneg hsign
        omega
      · have := hpos (by omega)
        omega

theorem ofInt_ne_nan (n : Int) : ofInt n ≠ .nan := by
  intro h
  rcases Nat.lt_or_ge n.natAbs (2 ^ 53) with hsmall | hlarge
  · obtain ⟨d, -, hn⟩ := hasValue_ofInt hsmall
    simp [h, fraction?] at hn
  · rcases beyond_ofInt hlarge with hinfinite | ⟨a, ha, -⟩
    · simp [h] at hinfinite
    · simp [h, fraction?] at ha

theorem eq_iff (hx : x ≠ .nan) (hy : y ≠ .nan) :
    x.eq y = true ↔ ¬ x.lt y = true ∧ ¬ y.lt x = true := by
  unfold eq
  cases x <;> cases y <;> simp_all

theorem le_iff (hx : x ≠ .nan) (hy : y ≠ .nan) :
    x.le y = true ↔ x.lt y = true ∨ (¬ x.lt y = true ∧ ¬ y.lt x = true) := by
  rw [le, Bool.or_eq_true, eq_iff hx hy]

theorem HasValue.ne_nan (hx : x.HasValue n) : x ≠ .nan := by
  rintro rfl
  obtain ⟨d, -, hfraction⟩ := hx
  cases hfraction

theorem HasValue.eq_iff (hx : x.HasValue m) (hy : y.HasValue n) : x.eq y = true ↔ m = n := by
  rw [Double.eq_iff hx.ne_nan hy.ne_nan, hx.lt_iff hy, hy.lt_iff hx]
  omega

theorem HasValue.le_iff (hx : x.HasValue m) (hy : y.HasValue n) : x.le y = true ↔ m ≤ n := by
  rw [Double.le_iff hx.ne_nan hy.ne_nan, hx.lt_iff hy, hy.lt_iff hx]
  omega

theorem le_ofInt_iff (h : m.natAbs < 2 ^ 53) : (ofInt m).le (ofInt n) = true ↔ m ≤ n := by
  obtain ⟨hless, hmore⟩ := ofInt_lt_iff (n := n) h
  rw [le_iff (ofInt_ne_nan m) (ofInt_ne_nan n), hless, hmore]
  omega

theorem ofInt_le_iff (h : m.natAbs < 2 ^ 53) : (ofInt n).le (ofInt m) = true ↔ n ≤ m := by
  obtain ⟨hless, hmore⟩ := ofInt_lt_iff (n := n) h
  rw [le_iff (ofInt_ne_nan n) (ofInt_ne_nan m), hless, hmore]
  omega

end RestKit.Double
