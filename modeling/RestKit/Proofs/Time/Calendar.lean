import Mathlib.Algebra.Order.Group.Unbundled.Int
import Mathlib.Tactic.IntervalCases
import RestKit.Time.Calendar
/-!
# The calendar, day by day

Counting days and naming dates are inverse to one another (`toDays_ofDays`, `ofDays_toDays`), and
the names are those of a calendar that is walked day by day from 1970-01-01, forwards and backwards
(`isDay_iff`).

Years start in March here, as in the definitions, so that `yearStart y` counts the days before
the year `y`, leap days of earlier years included.
-/
namespace RestKit.Time

/-! ## Years -/

/-- The days before a year that starts in March. -/
def yearStart (y : Int) : Int := y * 365 + y / 4 - y / 100 + y / 400

/-- The days of an era without those that leap years have more. -/
def shortened (doe : Int) : Int := doe - doe / 1460 + doe / 36524 - doe / 146096

theorem shortened_succ {doe : Int} (h : 0 ≤ doe) (hera : doe + 1 < 146097) :
    shortened doe ≤ shortened (doe + 1) := by
  unfold shortened
  omega

theorem shortened_mono {a b : Int} (h : 0 ≤ a) (hab : a ≤ b) (hera : b < 146097) :
    shortened a ≤ shortened b := by
  induction b, hab using Int.leInduction with
  | base => exact le_refl _
  | succ b hab ih => exact (ih (by omega)).trans (shortened_succ (by omega) hera)

/-- The first and the last day of each year of an era, without leap days. -/
theorem shortened_year (y : Int) (h : 0 ≤ y) (hera : y < 400) :
    365 * y ≤ shortened (yearStart y) ∧ shortened (yearStart (y + 1) - 1) < 365 * (y + 1) := by
  have htable : ∀ y : Fin 400, 365 * (y : Int) ≤ shortened (yearStart y) ∧
      shortened (yearStart (y + 1) - 1) < 365 * ((y : Int) + 1) := by decide +kernel
  lift y to Nat using h
  exact htable ⟨y, by omega⟩

theorem isLeapYear_iff {y : Int} :
    isLeapYear y = true ↔ y % 4 = 0 ∧ (y % 100 ≠ 0 ∨ y % 400 = 0) := by
  simp [isLeapYear]

/-- The days of a year that starts in March: one more if there is a leap day at its end. -/
def yearLength (y : Int) : Nat := if isLeapYear (y + 1) then 366 else 365

theorem yearLength_bounds (y : Int) : 365 ≤ yearLength y ∧ yearLength y ≤ 366 := by
  unfold yearLength
  split <;> decide

theorem yearStart_succ (y : Int) : yearStart (y + 1) = yearStart y + yearLength y := by
  unfold yearStart yearLength
  split
  · rename_i h
    have := isLeapYear_iff.1 h
    omega
  · rename_i h
    have := mt isLeapYear_iff.2 h
    omega

theorem yearStart_mono {a b : Int} (h : a ≤ b) : yearStart a ≤ yearStart b := by
  induction b, h using Int.leInduction with
  | base => exact le_refl _
  | succ b h ih =>
    have := yearStart_succ b
    omega

theorem yearStart_era (era yoe : Int) :
    yearStart (era * 400 + yoe) = era * 146097 + yearStart yoe := by
  unfold yearStart
  omega

/-- The year of an era in which a day of the era lies. -/
def yearOfEra (doe : Int) : Int := shortened doe / 365

theorem yearOfEra_of_between {doe y : Int} (hy : 0 ≤ y) (hy' : y < 400) (hstart : yearStart y ≤ doe)
    (hend : doe < yearStart (y + 1)) : yearOfEra doe = y := by
  have hlow : 0 ≤ yearStart y := yearStart_mono hy
  have hhigh : yearStart (y + 1) ≤ 146097 := yearStart_mono (show y + 1 ≤ 400 by omega)
  obtain ⟨hfirst, hlast⟩ := shortened_year y hy hy'
  have hfrom := shortened_mono hlow hstart (by omega)
  have hto := shortened_mono (by omega) (show doe ≤ yearStart (y + 1) - 1 by omega) (by omega)
  unfold yearOfEra
  omega

theorem yearOfEra_between {doe : Int} (h : 0 ≤ doe) (hera : doe < 146097) :
    0 ≤ yearOfEra doe ∧ yearOfEra doe < 400 ∧ yearStart (yearOfEra doe) ≤ doe ∧
      doe < yearStart (yearOfEra doe + 1) := by
  have hrange : 0 ≤ yearOfEra doe ∧ yearOfEra doe < 400 := by
    unfold yearOfEra shortened
    omega
  have hyear : 365 * yearOfEra doe ≤ shortened doe ∧
      shortened doe < 365 * (yearOfEra doe + 1) := by
    unfold yearOfEra
    omega
  generalize yearOfEra doe = y at hrange hyear
  refine ⟨hrange.1, hrange.2, ?_, ?_⟩
  · -- A day of an earlier year is not behind that year's last day.
    by_contra hbefore
    have hpos : 0 < y := by
      rcases Int.lt_or_eq_of_le hrange.1 with hpos | rfl
      · exact hpos
      · exact absurd h hbefore
    have hlast := (shortened_year (y - 1) (by omega) (by omega)).2
    rw [Int.sub_add_cancel] at hlast
    have hhigh : yearStart y ≤ 146097 := yearStart_mono (show y ≤ 400 by omega)
    have hmono := shortened_mono h (show doe ≤ yearStart y - 1 by omega) (by omega)
    omega
  · -- A day of a later year is not before that year's first day.
    by_contra hbehind
    have hnext : y + 1 < 400 := by
      rcases Int.lt_or_eq_of_le (show y + 1 ≤ 400 by omega) with hlt | heq
      · exact hlt
      · rw [heq] at hbehind
        exact absurd hera hbehind
    have hfirst := (shortened_year (y + 1) (by omega) hnext).1
    have hmono := shortened_mono (yearStart_mono (show 0 ≤ y + 1 by omega))
      (show yearStart (y + 1) ≤ doe by omega) hera
    omega

/-! ## Months -/

/-- The date of a day in a month, months and years counted from March on. -/
def ofMarch (y : Int) (m day : Nat) : Date where
  year := if m < 10 then y else y + 1
  month := if m < 10 then m + 3 else m - 9
  day := day

/-- The days before the end of a month, in a year that starts in March. -/
def monthEnd (y : Int) (m : Nat) : Nat :=
  if m < 11 then daysBeforeMonth (m + 1) else yearLength y

/-- A day lies in a month of a year that starts in March. -/
structure InMonth (y : Int) (m day : Nat) : Prop where
  month : m ≤ 11
  first : 1 ≤ day
  last : daysBeforeMonth m + day ≤ monthEnd y m

variable {y n : Int} {m day : Nat} {d : Date}

theorem month_ofMarch (hm : m ≤ 11) :
    1 ≤ (ofMarch y m day).month ∧ (ofMarch y m day).month ≤ 12 := by
  simp only [ofMarch]
  split <;> omega

theorem daysInMonth_ofMarch (y : Int) (day : Nat) (hm : m ≤ 11) :
    daysBeforeMonth m + daysInMonth (ofMarch y m day).year (ofMarch y m day).month =
      monthEnd y m := by
  interval_cases m <;> simp [ofMarch, daysInMonth, monthEnd, daysBeforeMonth, yearLength]
  split <;> rfl

theorem isValid_ofMarch (hm : m ≤ 11) : (ofMarch y m day).isValid = true ↔ InMonth y m day := by
  have hlength := daysInMonth_ofMarch y day hm
  have hday : (ofMarch y m day).day = day := rfl
  simp only [Date.isValid, Bool.and_eq_true, decide_eq_true_eq, month_ofMarch hm, hday, true_and]
  constructor
  · rintro ⟨hfirst, hlast⟩
    exact ⟨hm, hfirst, by omega⟩
  · rintro ⟨-, hfirst, hlast⟩
    exact ⟨hfirst, by omega⟩

theorem exists_ofMarch (h : d.isValid = true) : ∃ y m, m ≤ 11 ∧ d = ofMarch y m d.day := by
  obtain ⟨year, month, day⟩ := d
  simp only [Date.isValid, Bool.and_eq_true, decide_eq_true_eq] at h
  by_cases hmonth : month ≤ 2
  · refine ⟨year - 1, month + 9, by omega, ?_⟩
    simp only [ofMarch, Date.mk.injEq, and_true]
    split <;> omega
  · refine ⟨year, month - 3, by omega, ?_⟩
    simp only [ofMarch, Date.mk.injEq, and_true]
    split <;> omega

theorem toDays_ofMarch (hm : m ≤ 11) :
    (ofMarch y m day).toDays = yearStart y + daysBeforeMonth m + day - 1 - 719468 := by
  have hyear : (if (ofMarch y m day).month ≤ 2 then (ofMarch y m day).year - 1
      else (ofMarch y m day).year) = y := by
    simp only [ofMarch]
    split <;> split <;> omega
  have hmonth : (if (ofMarch y m day).month ≤ 2 then (ofMarch y m day).month + 9
      else (ofMarch y m day).month - 3) = m := by
    simp only [ofMarch]
    split <;> split <;> omega
  unfold Date.toDays
  dsimp only
  rw [hyear, hmonth]
  simp only [ofMarch, yearStart]
  omega

theorem InMonth.lt_year (h : InMonth y m day) :
    yearStart y + daysBeforeMonth m + day - 1 < yearStart (y + 1) := by
  obtain ⟨hm, -, hlast⟩ := h
  have hlength := yearLength_bounds y
  rw [yearStart_succ]
  unfold monthEnd at hlast
  unfold daysBeforeMonth at *
  split at hlast <;> omega

theorem InMonth.lt_next (h : InMonth y m day) :
    daysBeforeMonth m + day ≤ daysBeforeMonth (m + 1) := by
  obtain ⟨hm, -, hlast⟩ := h
  have hlength := yearLength_bounds y
  unfold monthEnd at hlast
  unfold daysBeforeMonth at *
  split at hlast <;> omega

/-- Every day lies in a month of a year. -/
theorem exists_inMonth (n : Int) :
    ∃ y m day, InMonth y m day ∧ n = yearStart y + daysBeforeMonth m + day - 1 := by
  obtain ⟨-, -, hstart, hend⟩ :=
    yearOfEra_between (Int.emod_nonneg n (by decide)) (Int.emod_lt_of_pos n (by decide))
  generalize yearOfEra (n % 146097) = yoe at hstart hend
  have hfrom := yearStart_era (n / 146097) yoe
  have hto := yearStart_era (n / 146097) (yoe + 1)
  rw [← Int.add_assoc, yearStart_succ] at hto
  generalize n / 146097 * 400 + yoe = y at hfrom hto
  obtain ⟨doy, hdoy⟩ := Int.le.dest (show yearStart y ≤ n by omega)
  have hyear : doy < yearLength y := by omega
  have hlength := yearLength_bounds y
  refine ⟨y, (5 * doy + 2) / 153, doy - daysBeforeMonth ((5 * doy + 2) / 153) + 1,
    ⟨by omega, by omega, ?_⟩, ?_⟩
  · unfold monthEnd daysBeforeMonth
    split <;> omega
  · unfold daysBeforeMonth
    omega

theorem ofDays_ofMarch (h : InMonth y m day) :
    Date.ofDays (yearStart y + daysBeforeMonth m + day - 1 - 719468) = ofMarch y m day := by
  have hyear := h.lt_year
  have hmonth := h.lt_next
  obtain ⟨hm, hfirst, -⟩ := h
  obtain ⟨doy, hdoy⟩ : ∃ doy : Int, doy = daysBeforeMonth m + day - 1 := ⟨_, rfl⟩
  have hy : y / 400 * 400 + y % 400 = y := by omega
  have hera := yearStart_era (y / 400) (y % 400)
  have hnext := yearStart_era (y / 400) (y % 400 + 1)
  rw [← Int.add_assoc] at hnext
  rw [hy] at hera hnext
  have hlow : 0 ≤ yearStart (y % 400) := yearStart_mono (Int.emod_nonneg y (by decide))
  have hhigh : yearStart (y % 400 + 1) ≤ 146097 :=
    yearStart_mono (show y % 400 + 1 ≤ 400 by omega)
  -- The day count is cut into its era, the year of the era, and the day of the year.
  have hdiv : (yearStart y + daysBeforeMonth m + day - 1 - 719468 + 719468) / 146097 = y / 400 := by
    omega
  have hmod : (yearStart y + daysBeforeMonth m + day - 1 - 719468 + 719468) % 146097 =
      yearStart (y % 400) + doy := by
    omega
  have hyoe : yearOfEra (yearStart (y % 400) + doy) = y % 400 :=
    yearOfEra_of_between (by omega) (by omega) (by omega) (by omega)
  have hrest : yearStart (y % 400) + doy -
      (365 * (y % 400) + y % 400 / 4 - y % 400 / 100) = doy := by
    unfold yearStart
    omega
  have hshifted : (5 * doy + 2) / 153 = m := by
    unfold daysBeforeMonth at *
    omega
  unfold yearOfEra shortened at hyoe
  unfold Date.ofDays
  dsimp only
  rw [hdiv, hmod, hyoe, hrest, hshifted]
  unfold daysBeforeMonth at hdoy
  by_cases hm10 : m < 10
  · simp only [ofMarch, if_pos hm10, if_pos (show (m : Int) < 10 by omega), Date.mk.injEq]
    exact ⟨by split <;> omega, by omega, by omega⟩
  · simp only [ofMarch, if_neg hm10, if_neg (show ¬(m : Int) < 10 by omega), Date.mk.injEq]
    exact ⟨by split <;> omega, by omega, by omega⟩

/-! ## Days and dates -/

/-- Counting the days of a date and naming them again gives the date. -/
theorem ofDays_toDays (h : d.isValid = true) : Date.ofDays d.toDays = d := by
  obtain ⟨y, m, hm, hd⟩ := exists_ofMarch h
  rw [hd, toDays_ofMarch hm, ofDays_ofMarch ((isValid_ofMarch hm).1 (hd ▸ h))]

/-- Every number of days is that of one date, and the date is in the calendar. -/
theorem toDays_ofDays (n : Int) : (Date.ofDays n).toDays = n ∧ (Date.ofDays n).isValid = true := by
  obtain ⟨y, m, day, hday, hn⟩ := exists_inMonth (n + 719468)
  obtain rfl : n = yearStart y + daysBeforeMonth m + day - 1 - 719468 := by omega
  rw [ofDays_ofMarch hday, toDays_ofMarch hday.month]
  exact ⟨rfl, (isValid_ofMarch hday.month).2 hday⟩

/-- The day after: the next day of the month, else the first of the next month or year. -/
def Date.tomorrow (d : Date) : Date :=
  if d.day < daysInMonth d.year d.month then ⟨d.year, d.month, d.day + 1⟩
  else if d.month < 12 then ⟨d.year, d.month + 1, 1⟩
  else ⟨d.year + 1, 1, 1⟩

theorem daysInMonth_le (y : Int) (m : Nat) : daysInMonth y m ≤ 31 := by
  unfold daysInMonth
  split
  · split <;> decide
  · split <;> decide

theorem inMonth_one (y : Int) (hm : m ≤ 11) : InMonth y m 1 := by
  have hlength := yearLength_bounds y
  refine ⟨hm, le_refl 1, ?_⟩
  unfold monthEnd daysBeforeMonth
  split <;> omega

theorem tomorrow_ofMarch (h : InMonth y m day) :
    (ofMarch y m day).tomorrow =
      if daysBeforeMonth m + day < monthEnd y m then ofMarch y m (day + 1)
      else if m < 11 then ofMarch y (m + 1) 1 else ofMarch (y + 1) 0 1 := by
  have hlength := daysInMonth_ofMarch y day h.month
  have hiff : day < daysInMonth (ofMarch y m day).year (ofMarch y m day).month ↔
      daysBeforeMonth m + day < monthEnd y m := by omega
  have hmonth := h.month
  have hday : (ofMarch y m day).day = day := rfl
  simp only [Date.tomorrow, hday, hiff]
  congr 1
  clear * - hmonth
  interval_cases m <;> rfl

/-- The date of the next day is the day after in the calendar. -/
theorem ofDays_succ (n : Int) : Date.ofDays (n + 1) = (Date.ofDays n).tomorrow := by
  obtain ⟨y, m, day, h, hn⟩ := exists_inMonth (n + 719468)
  obtain rfl : n = yearStart y + daysBeforeMonth m + day - 1 - 719468 := by omega
  rw [ofDays_ofMarch h, tomorrow_ofMarch h]
  have hmonth := h.month
  have hlast := h.last
  split
  · rename_i hlt
    rw [← ofDays_ofMarch ⟨hmonth, by omega, hlt⟩]
    congr 1
    push_cast
    omega
  · rename_i hend
    unfold monthEnd at hlast hend
    split
    · rename_i hm
      rw [← ofDays_ofMarch (inMonth_one y (show m + 1 ≤ 11 from hm))]
      congr 1
      rw [if_pos hm] at hlast hend
      push_cast
      omega
    · rename_i hm
      rw [← ofDays_ofMarch (inMonth_one (y + 1) (by omega)), yearStart_succ]
      congr 1
      rw [if_neg hm] at hlast hend
      have hnone : daysBeforeMonth 0 = 0 := rfl
      omega

/-- A bound on the year of a day, from the 365 days that each year has at least. -/
theorem year_near (n : Int) :
    (Date.ofDays n).year * 365 ≤ n.natAbs + 1000000 ∧
      -(n.natAbs + 1000000 : Int) ≤ (Date.ofDays n).year * 365 := by
  obtain ⟨hdays, hvalid⟩ := toDays_ofDays n
  generalize Date.ofDays n = d at hdays hvalid ⊢
  simp only [Date.isValid, Bool.and_eq_true, decide_eq_true_eq] at hvalid
  have hday : d.day ≤ 31 := hvalid.2.trans (daysInMonth_le _ _)
  unfold Date.toDays daysBeforeMonth at hdays
  dsimp only at hdays
  split at hdays <;> omega

/-! ## The calendar as it is walked -/

/-- The dates of the days around 1970-01-01, which is day 0: each day is followed by the day after
in the calendar. -/
inductive IsDay : Int → Date → Prop where
  | epoch : IsDay 0 ⟨1970, 1, 1⟩
  | next {n : Int} {d : Date} : IsDay n d → IsDay (n + 1) d.tomorrow
  | back {n : Int} {d : Date} : IsDay (n + 1) d.tomorrow → d.isValid = true → IsDay n d

theorem Date.tomorrow_injective {d e : Date} (hd : d.isValid = true) (he : e.isValid = true)
    (h : d.tomorrow = e.tomorrow) : d = e := by
  have hnext := congrArg Date.toDays h
  rw [← ofDays_toDays hd, ← ofDays_toDays he, ← ofDays_succ, ← ofDays_succ, (toDays_ofDays _).1,
    (toDays_ofDays _).1] at hnext
  rw [← ofDays_toDays hd, ← ofDays_toDays he, (Int.add_left_inj 1).1 hnext]

/-- The date of a number of days is the one to which the calendar leads, however far the day is
before or after 1970-01-01. -/
theorem isDay_iff : IsDay n d ↔ d = Date.ofDays n := by
  constructor
  · intro h
    induction h with
    | epoch => rfl
    | next _ ih => rw [ih, ofDays_succ]
    | back _ hvalid ih =>
      rw [ofDays_succ] at ih
      exact Date.tomorrow_injective hvalid (toDays_ofDays _).2 ih
  · rintro rfl
    induction n with
    | zero => exact .epoch
    | succ n ih => exact ofDays_succ n ▸ ih.next
    | pred n ih =>
      refine .back ?_ (toDays_ofDays _).2
      rwa [← ofDays_succ, Int.sub_add_cancel]

end RestKit.Time
