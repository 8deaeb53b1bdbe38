import RestKit.Proofs.Query.Translation
import RestKit.Proofs.Time.Rfc3339
/-!
# Dates as operands

A date field reads an epoch from a number or from its decimal text, in seconds or in milliseconds
(`Spells`), and stores the UTC text of the instant (`date_operand_meaning`). The magnitude tells
seconds from milliseconds; a text is tried as a date first, and no decimal text is one.
-/
namespace RestKit.Query

open Time

variable {c : Collection} {field : String} {s n : Int} {v : Json}

/-! ## Spellings -/

/-- The ways to write an integer as an operand: the number, or its decimal text among blanks. -/
inductive Spells (n : Int) : Json → Prop where
  | number : Spells n (.int n)
  | text (before behind : String) (hbefore : Text.isBlankText before = true)
    (hbehind : Text.isBlankText behind = true) :
    Spells n (.string (before ++ toString n ++ behind))

/-- An integer of more than four digits is not read as a date. -/
theorem parse?_toString (hn : 10000 ≤ n.natAbs) {before : String}
    (hbefore : Text.isBlankText before = true) (behind : String) :
    parse? (before ++ toString n ++ behind) = none := by
  rw [Option.eq_none_iff_forall_ne_some]
  intro r hread
  have hfour := digits_of_parse? hread
  rw [String.toList_append, String.toList_append, Numeral.toList_toString] at hfour
  cases hchars : before.toList with
  | cons ch chs =>
    -- A blank in front is no digit.
    have hch := List.all_eq_true.1 hbefore ch (hchars ▸ List.mem_cons_self)
    have hdigit : ¬ch.isDigit = true := fun hdigit => by
      rw [Numeral.isBlank_of_isDigit hdigit] at hch
      cases hch
    rw [hchars, List.cons_append, List.cons_append, List.takeWhile_cons_of_neg hdigit] at hfour
    cases hfour
  | nil =>
    rw [hchars, List.nil_append] at hfour
    split at hfour
    · rename_i hpos
      -- The digits are more than four.
      rw [List.takeWhile_append_of_pos Numeral.isDigit_of_mem_toDigits, List.length_append] at hfour
      have hlength := mt (Nat.length_toDigits_le_iff (by decide) (show 0 < 4 by decide)).1
        (show ¬ n.toNat < 10 ^ 4 by omega)
      omega
    · -- The sign in front is no digit.
      cases hfour

theorem instantOf_spells (hspells : Spells n v) (hn : 10000 ≤ n.natAbs)
    (hlow : Numeral.int64Min ≤ n) (hhigh : n ≤ Numeral.int64Max) :
    instantOf v = instantOfEpoch n := by
  cases hspells with
  | number =>
    have hint : (Json.number (.int n)).int64? = some n := if_pos ⟨hlow, hhigh⟩
    rw [Json.int, instantOf, hint, Option.bind_some]
  | text before behind hbefore hbehind =>
    rw [instantOf, instantOfText, parse?_toString hn hbefore,
      Numeral.int64?_trim_toString hbefore hbehind hlow hhigh]
    rfl

/-! ## Epochs -/

/-- The years around 1970 in which the operands lie are within the range of dates. -/
theorem inRange_of_natAbs (hs : s.natAbs < 100000000000) (nanos : Nat) :
    Instant.inRange ⟨s, nanos⟩ = true := by
  have hyear := year_near (s / 86400)
  unfold Instant.inRange minYear maxYear
  dsimp only
  rw [Bool.and_eq_true, decide_eq_true_eq, decide_eq_true_eq]
  omega

theorem instantOfEpoch_seconds (hs : s.natAbs < 100000000000) :
    instantOfEpoch s = some ⟨s, 0⟩ := by
  rw [instantOfEpoch, if_neg (show ¬ millisThreshold ≤ s.natAbs from Nat.not_le.2 hs),
    Instant.ofSeconds?]
  exact if_pos (inRange_of_natAbs hs 0)

theorem instantOfEpoch_millis (hlow : 100000000 ≤ s.natAbs) (hs : s.natAbs < 100000000000) :
    instantOfEpoch (1000 * s) = some ⟨s, 0⟩ := by
  have hmillis : millisThreshold ≤ (1000 * s).natAbs := by
    unfold millisThreshold
    omega
  have hinstant : (⟨1000 * s / 1000, (1000 * s % 1000).toNat * 1000000⟩ : Instant) = ⟨s, 0⟩ := by
    rw [Int.mul_ediv_cancel_left _ (by decide), Int.mul_emod_right]
    rfl
  rw [instantOfEpoch, if_pos hmillis, Instant.ofMillis?, hinstant]
  exact if_pos (inRange_of_natAbs hs 0)

/-- However an epoch is written, the same instant is read. -/
theorem instantOf_epoch (hspells : Spells s v ∨ Spells (1000 * s) v)
    (hlow : 100000000 ≤ s.natAbs) (hhigh : s.natAbs < 100000000000) :
    instantOf v = some ⟨s, 0⟩ := by
  have hmin : Numeral.int64Min = -9223372036854775808 := rfl
  have hmax : Numeral.int64Max = 9223372036854775807 := rfl
  rcases hspells with hspells | hspells
  · rw [instantOf_spells hspells (by omega) (by omega) (by omega), instantOfEpoch_seconds hhigh]
  · rw [instantOf_spells hspells (by omega) (by omega) (by omega),
      instantOfEpoch_millis hlow hhigh]

/-! ## Stored dates -/

/-- A date as it is stored. -/
def storedDate (text : String) : Json := .object [("$date", .string text)]

theorem coerceOperand_date (hdate : c.typeOf field = .date) {t : Instant}
    (ht : instantOf v = some t) : coerceOperand c field v = .ok (storedDate t.utcText) :=
  coerceOperand_eq_ok.2 (.inr (.inr (.inl ⟨hdate, coerceDate_eq_ok.2 ⟨t, ht, rfl⟩⟩)))

/-- A stored text that is read as an instant again is stored as it is. -/
theorem coerceOperand_utcText (hdate : c.typeOf field = .date) {t : Instant} {offset : Int}
    (hread : parse? t.utcText = some (t, offset)) :
    coerceOperand c field (.string t.utcText) = .ok (storedDate t.utcText) := by
  refine coerceOperand_date hdate ?_
  rw [instantOf, instantOfText, hread]

/-- Seconds and milliseconds, numbers and texts of one epoch are stored as one date, that of the
calendar with the time of the day, and its text is stored as itself. -/
theorem date_operand_meaning (hdate : c.typeOf field = .date) (hlow : 100000000 ≤ s.natAbs)
    (hhigh : s.natAbs < 100000000000) :
    ∃ (d : Date) (hour minute second : Nat),
      (IsDay (s / 86400) d ∧ hour < 24 ∧ minute < 60 ∧ second < 60 ∧
        s % 86400 = (hour * 3600 + minute * 60 + second : Nat)) ∧
      (∀ v, Spells s v ∨ Spells (1000 * s) v →
        coerceOperand c field v = .ok (storedDate (utcTextOf d hour minute second 0))) ∧
      (0 ≤ d.year → d.year ≤ 9999 →
        coerceOperand c field (.string (utcTextOf d hour minute second 0)) =
          .ok (storedDate (utcTextOf d hour minute second 0))) := by
  obtain ⟨t, hinstant, hseconds, hnanos⟩ : ∃ t : Instant,
      (∀ v, Spells s v ∨ Spells (1000 * s) v → instantOf v = some t) ∧
        t.seconds = s ∧ t.nanos = 0 :=
    ⟨⟨s, 0⟩, fun _ hspells => instantOf_epoch hspells hlow hhigh, rfl, rfl⟩
  have hsmall : t.nanos < 1000000000 := by omega
  obtain ⟨hour, minute, second, hhour, hminute, hsecond, hday, htext⟩ := exists_utcTextOf hsmall
  have hread := parse?_utcText hsmall
  have hwhole : (⟨t.seconds, t.nanos / 1000000 * 1000000⟩ : Instant) = t := by
    rw [hnanos]
    exact congrArg _ hnanos.symm
  rw [hnanos, Nat.zero_div] at htext
  rw [hwhole] at hread
  rw [hseconds] at hday htext hread
  refine ⟨Date.ofDays (s / 86400), hour, minute, second,
    ⟨isDay_iff.2 rfl, hhour, hminute, hsecond, hday⟩, ?_, ?_⟩
  · intro v hspells
    rw [coerceOperand_date hdate (hinstant v hspells), htext]
  · intro hfrom hto
    rw [← htext]
    exact coerceOperand_utcText hdate (hread hfrom hto)

theorem date_operand_meaning_seconds :
    let c : Collection := { fields := [("createdAt", .date)] }
    (c.typeOf "createdAt" = .date ∧ 100000000 ≤ Int.natAbs 1700000000 ∧
      Int.natAbs 1700000000 < 100000000000) ∧
    ∀ v, Spells 1700000000 v ∨ Spells (1000 * 1700000000) v →
      coerceOperand c "createdAt" v = .ok (storedDate "2023-11-14T22:13:20.000Z") := by
  refine ⟨⟨rfl, by decide, by decide⟩, ?_⟩
  obtain ⟨d, hour, minute, second, ⟨hd, hhour, hminute, hsecond, hday⟩, hstored, -⟩ :=
    @date_operand_meaning { fields := [("createdAt", .date)] } "createdAt" 1700000000 rfl
      (by decide) (by decide)
  obtain rfl : d = ⟨2023, 11, 14⟩ := isDay_iff.1 hd
  obtain ⟨rfl, rfl, rfl⟩ : hour = 22 ∧ minute = 13 ∧ second = 20 := by omega
  have htext : utcTextOf ⟨2023, 11, 14⟩ 22 13 20 0 = "2023-11-14T22:13:20.000Z" := by
    decide +kernel
  rwa [htext] at hstored

end RestKit.Query
