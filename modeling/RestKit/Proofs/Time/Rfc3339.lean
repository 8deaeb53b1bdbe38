import RestKit.Proofs.Text.Numeral
import RestKit.Proofs.Time.Calendar
import RestKit.Time.Rfc3339
/-!
# Dates, written and read

The UTC text of an instant is read as the instant, cut to the millisecond, as long as its year has
four digits (`parse?_utcText`). What is read as a date has a dash behind four digits
(`digits_of_parse?`), so that an integer is not read as one.
-/
namespace RestKit.Time

variable {width n : Nat} {cs rest : List Char}

/-! ## Numbers of fixed width -/

theorem toList_padded : (padded width n).toList =
    List.replicate (width - (Nat.toDigits 10 n).length) '0' ++ Nat.toDigits 10 n :=
  String.toList_ofList

theorem length_padded (hwidth : 0 < width) (h : n < Nat.pow 10 width) :
    (padded width n).toList.length = width := by
  have hle := (Nat.length_toDigits_le_iff (by decide) hwidth).2 h
  rw [toList_padded, List.length_append, List.length_replicate]
  omega

theorem isDigit_padded : ∀ c ∈ (padded width n).toList, c.isDigit = true := by
  intro c hc
  rw [toList_padded, List.mem_append] at hc
  rcases hc with hc | hc
  · rw [List.eq_of_mem_replicate hc]
    rfl
  · exact Numeral.isDigit_of_mem_toDigits c hc

theorem ofDigitChars_padded : Nat.ofDigitChars 10 (padded width n).toList 0 = n := by
  rw [toList_padded, Nat.ofDigitChars_append, Nat.ofDigitChars_replicate_zero, Nat.mul_zero,
    Nat.ofDigitChars_ten_toDigits]

/-- A number that fits its width is read from its text. -/
theorem fixedDigits_padded (hwidth : 0 < width) (h : n < Nat.pow 10 width) (rest : List Char) :
    fixedDigits width ((padded width n).toList ++ rest) = some (n, rest) := by
  have hlength := length_padded hwidth h
  have htake : ((padded width n).toList ++ rest).take width = (padded width n).toList :=
    List.take_left' hlength
  have hdrop : ((padded width n).toList ++ rest).drop width = rest := List.drop_left' hlength
  unfold fixedDigits
  dsimp only
  rw [htake, hdrop, if_pos ⟨hlength, List.all_eq_true.2 isDigit_padded⟩, Numeral.foldl_digits,
    ofDigitChars_padded]

theorem digits_of_fixedDigits (h : fixedDigits width cs = some (n, rest)) :
    ∃ ds, cs = ds ++ rest ∧ ds.length = width ∧ ∀ c ∈ ds, c.isDigit = true := by
  unfold fixedDigits at h
  dsimp only at h
  split at h
  · rename_i hdigits
    cases h
    exact ⟨cs.take width, (List.take_append_drop ..).symm, hdigits.1, List.all_eq_true.1 hdigits.2⟩
  · cases h

/-- Three digits behind the point are milliseconds. -/
theorem fraction_padded (h : n < 1000) {c : Char} (hc : c.isDigit = false) (rest : List Char) :
    fraction ((padded 3 n).toList ++ c :: rest) = some (n * 1000000, c :: rest) := by
  have hlength := length_padded (show 0 < 3 by decide) h
  have htake : ((padded 3 n).toList ++ c :: rest).takeWhile Char.isDigit =
      (padded 3 n).toList := by
    rw [List.takeWhile_append_of_pos isDigit_padded, List.takeWhile_cons_of_neg (by simp [hc]),
      List.append_nil]
  have hdrop : ((padded 3 n).toList ++ c :: rest).dropWhile Char.isDigit = c :: rest := by
    rw [List.dropWhile_append_of_pos isDigit_padded, List.dropWhile_cons_of_neg (by simp [hc])]
  have hkept : (padded 3 n).toList.take 9 = (padded 3 n).toList :=
    List.take_of_length_le (by omega)
  have hne : (padded 3 n).toList.isEmpty = false := by
    rw [List.isEmpty_eq_false_iff, ← List.length_pos_iff]
    omega
  unfold fraction
  dsimp only
  rw [htake, hdrop, hkept, hne, Numeral.foldl_digits, ofDigitChars_padded, hlength]
  rfl

/-! ## Dates -/

theorem expect_cons (c : Char) (rest : List Char) : expect c (c :: rest) = some rest := if_pos rfl

theorem cons_of_expect {c : Char} (h : expect c cs = some rest) : cs = c :: rest := by
  cases cs with
  | nil => cases h
  | cons d cs =>
    change (if c = d then some cs else none) = some rest at h
    split at h
    · rename_i hc
      cases h
      rw [hc]
    · cases h

/-- A date with a time of day to the millisecond, in UTC. -/
def utcTextOf (d : Date) (hour minute second millis : Nat) : String :=
  d.text ++ "T" ++ padded 2 hour ++ ":" ++ padded 2 minute ++ ":" ++ padded 2 second ++ "." ++
    padded 3 millis ++ "Z"

variable {d : Date} {hour minute second millis : Nat} {t : Instant}

theorem toList_utcTextOf (hlow : 0 ≤ d.year) (hhigh : d.year ≤ 9999) :
    (utcTextOf d hour minute second millis).toList =
      (padded 4 d.year.toNat).toList ++ '-' :: ((padded 2 d.month).toList ++
        '-' :: ((padded 2 d.day).toList ++ 'T' :: ((padded 2 hour).toList ++
        ':' :: ((padded 2 minute).toList ++ ':' :: ((padded 2 second).toList ++
        '.' :: ((padded 3 millis).toList ++ ['Z'])))))) := by
  have hdash : "-".toList = ['-'] := rfl
  have hT : "T".toList = ['T'] := rfl
  have hcolon : ":".toList = [':'] := rfl
  have hpoint : ".".toList = ['.'] := rfl
  have hZ : "Z".toList = ['Z'] := rfl
  simp only [utcTextOf, Date.text, yearText, if_pos (And.intro hlow hhigh), String.toList_append,
    hdash, hT, hcolon, hpoint, hZ, List.append_assoc, List.cons_append, List.nil_append]

/-- A date whose year has four digits is read from its text, with the time of day. -/
theorem parse?_utcTextOf (hd : d.isValid = true) (hlow : 0 ≤ d.year) (hhigh : d.year ≤ 9999)
    (hhour : hour < 24) (hminute : minute < 60) (hsecond : second < 60) (hmillis : millis < 1000) :
    parse? (utcTextOf d hour minute second millis) =
      some (⟨d.toDays * 86400 + (hour * 3600 + minute * 60 + second : Nat), millis * 1000000⟩,
        0) := by
  have hbounds := hd
  simp only [Date.isValid, Bool.and_eq_true, decide_eq_true_eq] at hbounds
  have hday : d.day ≤ 31 := hbounds.2.trans (daysInMonth_le _ _)
  have hyear : d.year.toNat < Nat.pow 10 4 := by
    have hpow : Nat.pow 10 4 = 10000 := rfl
    omega
  have htwo {n : Nat} (h : n < 60) : n < Nat.pow 10 2 := Nat.lt_trans h (by decide)
  -- One field is read after the other, each up to the character behind it.
  unfold parse?
  rw [toList_utcTextOf hlow hhigh, fixedDigits_padded (by decide) hyear]
  dsimp only [Option.bind_eq_bind, Option.bind_some]
  rw [expect_cons, Option.bind_some, fixedDigits_padded (by decide) (htwo (by omega)),
    Option.bind_some, expect_cons, Option.bind_some,
    fixedDigits_padded (by decide) (htwo (by omega)), Option.bind_some]
  dsimp only
  rw [if_pos (.inl rfl), fixedDigits_padded (by decide) (htwo (by omega)), Option.bind_some,
    expect_cons, Option.bind_some, fixedDigits_padded (by decide) (htwo hminute),
    Option.bind_some, expect_cons, Option.bind_some,
    fixedDigits_padded (by decide) (htwo hsecond), Option.bind_some]
  change ((fraction ((padded 3 millis).toList ++ ['Z'])).bind _) = _
  rw [fraction_padded hmillis (by decide), Option.bind_some]
  have hZ : offset ['Z'] = some (0, []) := rfl
  have hdate : (⟨(d.year.toNat : Int), d.month, d.day⟩ : Date) = d := by
    rw [Int.toNat_of_nonneg hlow]
  dsimp only
  rw [hZ, Option.bind_some, hdate, hd, if_neg (show second ≠ 60 by omega), if_neg (by simp; omega)]
  simp only [Int.sub_zero]

/-- The UTC text of an instant is that of its day and of the time that the seconds of the day
give. -/
theorem exists_utcTextOf (hnanos : t.nanos < 1000000000) :
    ∃ hour minute second, hour < 24 ∧ minute < 60 ∧ second < 60 ∧
      t.seconds % 86400 = (hour * 3600 + minute * 60 + second : Nat) ∧
      t.utcText = utcTextOf (Date.ofDays (t.seconds / 86400)) hour minute second
        (t.nanos / 1000000) := by
  have hclock : t.clock.1 < 24 ∧ t.clock.2.1 < 60 ∧ t.clock.2.2 < 60 ∧
      t.seconds % 86400 = (t.clock.1 * 3600 + t.clock.2.1 * 60 + t.clock.2.2 : Nat) := by
    simp only [Instant.clock]
    omega
  obtain ⟨hhour, hminute, hsecond, hday⟩ := hclock
  refine ⟨_, _, _, hhour, hminute, hsecond, hday, ?_⟩
  rw [Instant.utcText, Nat.mod_eq_of_lt hnanos]
  rfl

/-- The UTC text of an instant is read as the instant, cut to the millisecond. -/
theorem parse?_utcText (hnanos : t.nanos < 1000000000)
    (hlow : 0 ≤ (Date.ofDays (t.seconds / 86400)).year)
    (hhigh : (Date.ofDays (t.seconds / 86400)).year ≤ 9999) :
    parse? t.utcText = some (⟨t.seconds, t.nanos / 1000000 * 1000000⟩, 0) := by
  obtain ⟨hour, minute, second, hhour, hminute, hsecond, hday, htext⟩ := exists_utcTextOf hnanos
  obtain ⟨hdays, hvalid⟩ := toDays_ofDays (t.seconds / 86400)
  rw [htext, parse?_utcTextOf hvalid hlow hhigh hhour hminute hsecond (by omega), hdays, ← hday,
    Int.mul_comm, Int.mul_ediv_add_emod]

/-- What is read as a date starts with exactly four digits. -/
theorem digits_of_parse? {s : String} {r : Instant × Int} (h : parse? s = some r) :
    (s.toList.takeWhile Char.isDigit).length = 4 := by
  obtain ⟨⟨year, rest⟩, hyear, h⟩ := Option.bind_eq_some_iff.1 h
  obtain ⟨rest', hdash, -⟩ := Option.bind_eq_some_iff.1 h
  obtain ⟨ds, hlist, hlength, hds⟩ := digits_of_fixedDigits hyear
  rw [hlist, cons_of_expect hdash, List.takeWhile_append_of_pos hds,
    List.takeWhile_cons_of_neg (by decide), List.append_nil, hlength]

end RestKit.Time
