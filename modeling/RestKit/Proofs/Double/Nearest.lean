import RestKit.Proofs.Double.Order
/-!
# The nearest double of an integer

`nearest n` is the value of the double nearest to `n`. It is no more than half a unit of its last
place away (`dist_nearest`), it is `n` itself below `2 ^ 53` (`nearest_of_small`), and it keeps the
order of integers but for those that it makes equal (`nearest_lt_iff`). So two integers up to
`2 ^ 64` have different nearest doubles if one of them is below `2 ^ 53` or if they are more than
2048 apart (`nearest_ne_of_small`, `nearest_ne_of_far`).
-/
namespace RestKit.Double

variable {s : Bool} {a b d k num : Nat} {m n : Int}

/-! ## Rounded quotients -/

theorem divNearest_le (a d : Nat) : divNearest a d ≤ a / d + 1 := by
  unfold divNearest
  dsimp only
  split
  · exact Nat.le_succ _
  · split
    · split
      · exact Nat.le_succ _
      · exact Nat.le_refl _
    · exact Nat.le_refl _

/-- A rounded quotient is off by half of the divisor or less. -/
theorem dist_divNearest (hd : 0 < d) :
    2 * a ≤ 2 * (divNearest a d * d) + d ∧ 2 * (divNearest a d * d) ≤ 2 * a + d := by
  have hdivide : a / d * d + a % d = a := by
    rw [Nat.mul_comm]
    exact Nat.div_add_mod a d
  have hrest : a % d < d := Nat.mod_lt a hd
  have hnext : (a / d + 1) * d = a / d * d + d := Nat.succ_mul _ _
  unfold divNearest
  dsimp only
  split
  · omega
  · split
    · split <;> omega
    · omega

theorem divNearest_mono (h : a ≤ b) : divNearest a d ≤ divNearest b d := by
  rcases Nat.eq_or_lt_of_le (Nat.div_le_div_right h : a / d ≤ b / d) with heq | hlt
  · -- In one unit, the remainders decide.
    have hrest : a % d ≤ b % d := by
      have ha := Nat.div_add_mod a d
      have hb := Nat.div_add_mod b d
      rw [heq] at ha
      omega
    unfold divNearest
    dsimp only
    rw [heq]
    split_ifs <;> omega
  · calc divNearest a d ≤ a / d + 1 := divNearest_le a d
      _ ≤ b / d := hlt
      _ ≤ divNearest b d := le_divNearest b d

/-! ## Numbers -/

theorem lastUnit_pos (num : Nat) : 0 < lastUnit num := Nat.two_pow_pos _

/-- Rounding does not go beyond a power of two. -/
theorem nearestNat_le (h : num < 2 ^ k) : nearestNat num ≤ 2 ^ k := by
  rcases Nat.le_total num.log2 52 with hle | hge
  · rw [nearestNat_of_log2 hle]
    exact h.le
  · have hpos : 0 < num := Nat.pos_iff_ne_zero.2 fun hzero => by simp [hzero] at hge
    have hk : num.log2 + 1 ≤ k := (Nat.log2_lt (Nat.pos_iff_ne_zero.1 hpos)).2 h
    have hwhole : 2 ^ 53 * lastUnit num = 2 ^ (num.log2 + 1) := by
      rw [lastUnit, ← Nat.pow_add]
      congr 1
      omega
    have hquotient : num / lastUnit num < 2 ^ 53 := by
      rw [Nat.div_lt_iff_lt_mul (lastUnit_pos num), hwhole]
      exact (log2_bounds hpos).2
    calc nearestNat num ≤ 2 ^ 53 * lastUnit num :=
          Nat.mul_le_mul_right _ ((divNearest_le _ _).trans hquotient)
      _ = 2 ^ (num.log2 + 1) := hwhole
      _ ≤ 2 ^ k := Nat.pow_le_pow_right (by decide) hk

theorem nearestNat_mono (h : a ≤ b) : nearestNat a ≤ nearestNat b := by
  rcases Nat.eq_zero_or_pos a with rfl | ha
  · exact Nat.zero_le _
  · have hb : 0 < b := ha.trans_le h
    have hlow : 2 ^ b.log2 ≤ b := (log2_bounds hb).1
    rcases Nat.lt_or_ge a (2 ^ b.log2) with hlt | hge
    · -- A power of two stands between the two numbers, and rounding crosses none.
      exact (nearestNat_le hlt).trans (le_nearestNat hlow)
    · have hlog : a.log2 = b.log2 :=
        le_antisymm ((Nat.le_log2 hb.ne').2 ((log2_bounds ha).1.trans h))
          ((Nat.le_log2 ha.ne').2 hge)
      have hunit : lastUnit a = lastUnit b := by rw [lastUnit, lastUnit, hlog]
      rw [nearestNat, nearestNat, hunit]
      exact Nat.mul_le_mul_right _ (divNearest_mono h)

/-! ## Integers -/

/-- The value of the double nearest to an integer. -/
def nearest (n : Int) : Int := if n < 0 then -(nearestNat n.natAbs : Int) else nearestNat n.natAbs

/-- A number with a sign is rounded to the nearest of its integer. -/
theorem hasValue_round_nearest (h : num.log2 < 1023)
    (hn : n = if s then -(num : Int) else num) : (round s num 1).HasValue (nearest n) := by
  have hsigned : nearest n = if s then -(nearestNat num : Int) else nearestNat num := by
    have hzero : nearestNat 0 = 0 := rfl
    subst hn
    unfold nearest
    cases s with
    | false => simp
    | true => rcases Nat.eq_zero_or_pos num with rfl | hpos <;> simp [*]
  rw [hsigned]
  exact hasValue_round h

theorem hasValue_ofInt_nearest (h : n.natAbs.log2 < 1023) : (ofInt n).HasValue (nearest n) := by
  refine hasValue_round_nearest h ?_
  simp only [decide_eq_true_eq, signed_natAbs]

theorem natAbs_nearest (n : Int) : (nearest n).natAbs = nearestNat n.natAbs := by
  unfold nearest
  split <;> omega

theorem nearest_mono (h : m ≤ n) : nearest m ≤ nearest n := by
  unfold nearest
  rcases Int.lt_or_le m 0 with hm | hm
  · rcases Int.lt_or_le n 0 with hn | hn
    · have := nearestNat_mono (show n.natAbs ≤ m.natAbs by omega)
      rw [if_pos hm, if_pos hn]
      omega
    · rw [if_pos hm, if_neg (Int.not_lt.2 hn)]
      omega
  · have := nearestNat_mono (show m.natAbs ≤ n.natAbs by omega)
    rw [if_neg (Int.not_lt.2 hm), if_neg (Int.not_lt.2 (hm.trans h))]
    omega

/-- Rounding keeps the order of integers that it does not make equal. -/
theorem nearest_lt_iff (h : nearest m ≠ nearest n) : nearest m < nearest n ↔ m < n := by
  constructor
  · intro hlt
    by_contra hge
    have := nearest_mono (Int.not_lt.1 hge)
    omega
  · intro hlt
    have := nearest_mono hlt.le
    omega

/-- An integer is off its nearest double by half a unit of its last place or less. -/
theorem dist_nearest (n : Int) : 2 * (n - nearest n).natAbs ≤ lastUnit n.natAbs := by
  obtain ⟨hlow, hhigh⟩ := dist_divNearest (a := n.natAbs) (lastUnit_pos n.natAbs)
  change _ ≤ 2 * nearestNat n.natAbs + _ at hlow
  change 2 * nearestNat n.natAbs ≤ _ at hhigh
  unfold nearest
  split <;> omega

theorem nearest_of_small (h : n.natAbs < 2 ^ 53) : nearest n = n := by
  rw [nearest, nearestNat_of_log2 (log2_le_of_lt h), signed_natAbs]

/-- No other integer has the nearest double of a small one. -/
theorem nearest_ne_of_small (h : m.natAbs < 2 ^ 53) (hne : m ≠ n) : nearest m ≠ nearest n := by
  rw [nearest_of_small h]
  rcases Nat.lt_or_ge n.natAbs (2 ^ 53) with hsmall | hlarge
  · rwa [nearest_of_small hsmall]
  · have hsize : 2 ^ 53 ≤ (nearest n).natAbs := by
      rw [natAbs_nearest]
      exact le_nearestNat hlarge
    rintro rfl
    omega

/-- Integers of 64 bits that are rounded to one double are no more than 2048 apart. -/
theorem nearest_ne_of_far (hm : m.natAbs < 2 ^ 64) (hn : n.natAbs < 2 ^ 64)
    (h : 2048 < (m - n).natAbs) : nearest m ≠ nearest n := by
  have hunit : ∀ p : Int, p.natAbs < 2 ^ 64 → lastUnit p.natAbs ≤ 2 ^ 11 := fun p hp =>
    Nat.pow_le_pow_right (by decide) (Nat.sub_le_sub_right (log2_le_of_lt hp) 52)
  have hleft := (dist_nearest m).trans (hunit m hm)
  have hright := (dist_nearest n).trans (hunit n hn)
  omega

end RestKit.Double
