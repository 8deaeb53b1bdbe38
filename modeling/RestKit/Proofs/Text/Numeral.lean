import Mathlib.Data.List.TakeWhile
import RestKit.Proofs.Text.Ascii
import RestKit.Proofs.Text.Blank
import RestKit.Text.Numeral
/-!
# Numerals, written and read

An integer in decimal is read as itself, also from between blanks (`int64?_trim_toString`). The
readers go through digits as `Nat.ofDigitChars` does. What is read as an integer has digits and
perhaps a sign in front (`exists_signed_of_intWithin?`), and is read as a double with the same
digits (`double?_of_signed`).
-/
namespace RestKit.Numeral

variable {n : Int} {cs : List Char}

theorem foldl_digits (cs : List Char) (acc : Nat) :
    cs.foldl (fun acc c => acc * 10 + (c.toNat - 48)) acc = Nat.ofDigitChars 10 cs acc := by
  rw [Nat.ofDigitChars_eq_foldl]
  simp only [Nat.mul_comm]
  rfl

/-- Digits are read as their value. -/
theorem digits?_eq_some (hne : cs ≠ []) (hcs : ∀ c ∈ cs, c.isDigit = true) :
    digits? cs = some (Nat.ofDigitChars 10 cs 0) := by
  have hfold (acc : Nat) : cs.foldl (fun acc c =>
      acc.bind fun n => if c.isDigit then some (n * 10 + (c.toNat - 48)) else none) (some acc) =
        some (Nat.ofDigitChars 10 cs acc) := by
    rw [← foldl_digits]
    clear hne
    induction cs generalizing acc with
    | nil => rfl
    | cons c cs ih =>
      obtain ⟨hc, hcs⟩ := List.forall_mem_cons.1 hcs
      simp only [List.foldl_cons, Option.bind_some, hc, if_true, ih hcs]
  rw [digits?, if_neg (by simpa using hne), hfold]

theorem isDigit_of_mem_toDigits {n : Nat} : ∀ c ∈ Nat.toDigits 10 n, c.isDigit = true :=
  fun _ hc => Nat.isDigit_of_mem_toDigits (by decide) (by decide) hc

theorem digits?_toDigits (n : Nat) : digits? (Nat.toDigits 10 n) = some n := by
  rw [digits?_eq_some Nat.toDigits_ne_nil isDigit_of_mem_toDigits, Nat.ofDigitChars_ten_toDigits]

/-- An integer in decimal: its digits, behind a minus sign if it is negative. -/
theorem toList_toString (n : Int) : (toString n).toList =
    if 0 ≤ n then Nat.toDigits 10 n.toNat else '-' :: Nat.toDigits 10 (-n).toNat := by
  rw [Int.toString_eq_repr, Int.repr_eq_if]
  split
  · rw [Nat.repr_eq_ofList_toDigits, String.toList_ofList]
  · have hminus : "-".toList = ['-'] := rfl
    rw [String.toList_append, hminus, Nat.repr_eq_ofList_toDigits, String.toList_ofList,
      List.singleton_append]

theorem mem_toString {c : Char} (hc : c ∈ (toString n).toList) : c.isDigit = true ∨ c = '-' := by
  rw [toList_toString] at hc
  split at hc
  · exact .inl (isDigit_of_mem_toDigits c hc)
  · rcases List.mem_cons.1 hc with hc | hc
    · exact .inr hc
    · exact .inl (isDigit_of_mem_toDigits c hc)

/-- An integer within the bounds is read from its decimal text. -/
theorem intWithin?_toString {low high : Int} (hlow : low ≤ n) (hhigh : n ≤ high) :
    intWithin? low high (toString n) = some n := by
  unfold intWithin?
  rw [toList_toString]
  rcases Int.lt_or_le n 0 with hn | hn
  · have hread := digits?_toDigits (-n).toNat
    rw [if_neg (by omega)]
    simp [hread, Int.max_eq_left (show 0 ≤ -n by omega), hlow, hhigh]
  · obtain ⟨c, cs, hcs⟩ := List.exists_cons_of_ne_nil
      (Nat.toDigits_ne_nil : Nat.toDigits 10 n.toNat ≠ [])
    have hc := isDigit_of_mem_toDigits c (hcs ▸ List.mem_cons_self)
    have hread := digits?_toDigits n.toNat
    rw [hcs] at hread
    rw [if_pos hn, hcs]
    -- A digit is no sign, so that the digits are read as they stand.
    split
    · rename_i hsign
      cases hsign
      cases hc
    · rename_i hsign
      cases hsign
      cases hc
    · simp [hread, Int.max_eq_left hn, hlow, hhigh]

theorem isBlank_of_isDigit {c : Char} (h : c.isDigit = true) : Text.isBlank c = false := by
  simp only [Char.isDigit, Bool.and_eq_true, decide_eq_true_eq] at h
  have hrange : 48 ≤ c.toNat ∧ c.toNat ≤ 57 := h
  simp only [Text.isBlank, Bool.or_eq_false_iff, Bool.and_eq_false_iff, decide_eq_false_iff_not]
  omega

theorem isBlank_of_mem_toString {c : Char} (hc : c ∈ (toString n).toList) :
    Text.isBlank c = false := by
  rcases mem_toString hc with hdigit | rfl
  · exact isBlank_of_isDigit hdigit
  · rfl

/-- Blanks around the decimal text of an integer do not matter. -/
theorem int64?_trim_toString {before behind : String} (hbefore : Text.isBlankText before = true)
    (hbehind : Text.isBlankText behind = true) (hlow : int64Min ≤ n) (hhigh : n ≤ int64Max) :
    int64? (Text.trim (before ++ toString n ++ behind)) = some n := by
  rw [Text.trim_padded hbefore hbehind, Text.trim_eq_self fun _ hc => isBlank_of_mem_toString hc,
    int64?, intWithin?_toString hlow hhigh]

/-! ## Integers read as doubles -/

/-- Digits with an optional sign in front. -/
inductive Signed : Bool → List Char → List Char → Prop where
  | bare (cs : List Char) : Signed false cs cs
  | plus (cs : List Char) : Signed false cs ('+' :: cs)
  | minus (cs : List Char) : Signed true cs ('-' :: cs)

variable {m : Nat} {negative : Bool} {t : String}

/-- What is read as digits are digits. -/
theorem isDigit_of_digits? (h : digits? cs = some m) : cs ≠ [] ∧ ∀ c ∈ cs, c.isDigit = true := by
  rw [digits?] at h
  split at h
  · cases h
  · rename_i hne
    refine ⟨by simpa using hne, ?_⟩
    clear hne
    generalize (0 : Nat) = acc at h
    induction cs generalizing acc with
    | nil => exact List.forall_mem_nil _
    | cons c cs ih =>
      rw [List.foldl_cons, Option.bind_some] at h
      by_cases hc : c.isDigit = true
      · rw [if_pos hc] at h
        exact List.forall_mem_cons.2 ⟨hc, ih _ h⟩
      · rw [if_neg hc] at h
        -- Nothing is read behind a character that is no digit.
        have hnone : ∀ cs : List Char, cs.foldl (fun acc c => acc.bind fun n =>
            if c.isDigit then some (n * 10 + (c.toNat - 48)) else none) none = none := by
          intro cs
          induction cs with
          | nil => rfl
          | cons c cs ih => exact ih
        rw [hnone] at h
        cases h

/-- An integer is read from digits and perhaps a sign. -/
theorem exists_signed_of_intWithin? {low high : Int} (h : intWithin? low high t = some n) :
    low ≤ n ∧ n ≤ high ∧ ∃ (negative : Bool) (cs : List Char) (m : Nat),
      Signed negative cs t.toList ∧ digits? cs = some m ∧
        n = if negative then -(m : Int) else m := by
  simp only [intWithin?, Option.filter_eq_some_iff, decide_eq_true_eq] at h
  obtain ⟨hread, hlow, hhigh⟩ := h
  refine ⟨hlow, hhigh, ?_⟩
  split at hread
  · rename_i cs heq
    obtain ⟨m, hm, rfl⟩ := Option.map_eq_some_iff.1 hread
    exact ⟨false, cs, m, heq ▸ .plus cs, hm, rfl⟩
  · rename_i cs heq
    obtain ⟨a, ha, rfl⟩ := Option.map_eq_some_iff.1 hread
    obtain ⟨m, hm, hcast⟩ := Option.bind_eq_some_iff.1 ha
    cases hcast
    exact ⟨true, cs, m, heq ▸ .minus cs, hm, rfl⟩
  · obtain ⟨m, hm, rfl⟩ := Option.map_eq_some_iff.1 hread
    exact ⟨false, _, m, .bare _, hm, rfl⟩

/-- No blank and no comma stands in what is read as an integer. -/
theorem plain_of_signed (h : Signed negative cs t.toList) (hm : digits? cs = some m) {c : Char}
    (hc : c ∈ t.toList) : Text.isBlank c = false ∧ c ≠ ',' := by
  have hdigits : ∀ c ∈ cs, Text.isBlank c = false ∧ c ≠ ',' := fun c hc => by
    have hdigit := (isDigit_of_digits? hm).2 c hc
    refine ⟨isBlank_of_isDigit hdigit, ?_⟩
    rintro rfl
    cases hdigit
  generalize t.toList = chars at h hc
  cases h with
  | bare => exact hdigits c hc
  | plus =>
    rcases List.mem_cons.1 hc with rfl | hc
    · decide
    · exact hdigits c hc
  | minus =>
    rcases List.mem_cons.1 hc with rfl | hc
    · decide
    · exact hdigits c hc

theorem isUpper_of_isDigit {c : Char} (h : c.isDigit = true) : c.isUpper = false := by
  simp only [Char.isDigit, Bool.and_eq_true, decide_eq_true_eq] at h
  have hrange : 48 ≤ c.val.toNat ∧ c.val.toNat ≤ 57 := h
  rw [Bool.eq_false_iff]
  intro hupper
  have hletter := Text.isUpper_iff.1 hupper
  omega

/-- Digits are no word, and a decimal without fraction and exponent. -/
theorem unsignedDouble?_of_digits? (h : digits? cs = some m) :
    unsignedDouble? negative cs = some (decimal negative m 0) := by
  obtain ⟨hne, hdigits⟩ := isDigit_of_digits? h
  have hmantissa : mantissa cs = (cs, [], []) := by
    rw [mantissa, List.takeWhile_eq_self_iff.2 hdigits, List.dropWhile_eq_nil_iff.2 hdigits]
  have hlower : cs.map Char.toLower = cs :=
    (List.map_congr_left fun c hc =>
      Text.toLower_of_not_upper (isUpper_of_isDigit (hdigits c hc))).trans (List.map_id cs)
  have hword : ∀ w : String, w.toList.all Char.isDigit = false → cs ≠ w.toList := by
    rintro w hletter rfl
    rw [List.all_eq_true.2 hdigits] at hletter
    cases hletter
  have hinf : ¬(cs = "inf".toList ∨ cs = "infinity".toList) :=
    not_or.2 ⟨hword _ rfl, hword _ rfl⟩
  have hnan : cs ≠ "nan".toList := hword _ rfl
  rw [unsignedDouble?]
  dsimp only
  rw [hlower, if_neg hinf, if_neg hnan, hmantissa]
  dsimp only
  rw [List.append_nil, h]
  cases cs with
  | nil => exact absurd rfl hne
  | cons c cs => rfl

/-- What is read as an integer is read as a double from the same digits. -/
theorem double?_of_signed (h : Signed negative cs t.toList) (hm : digits? cs = some m) :
    double? t = some (decimal negative m 0) := by
  rw [← unsignedDouble?_of_digits? hm, double?]
  generalize t.toList = chars at h
  cases h with
  | bare =>
    -- A digit is no sign, so that the digits are read as they stand.
    have hsign := (isDigit_of_digits? hm).2
    split
    · exact absurd (hsign '+' List.mem_cons_self) (by decide)
    · exact absurd (hsign '-' List.mem_cons_self) (by decide)
    · rfl
  | plus => rfl
  | minus => rfl

/-- A whole decimal of no more than 400 digits is rounded. -/
theorem decimal_zero (h : (Nat.toDigits 10 m).length ≤ 400) :
    decimal negative m 0 = Double.round negative m 1 := by
  rw [decimal]
  dsimp only
  split
  · rename_i hzero
    rw [hzero]
    rfl
  · rw [Int.add_zero, if_neg (by omega), if_neg (by omega), if_pos (Int.le_refl 0), Int.toNat_zero]
    exact congrArg (Double.round negative · 1) (Nat.mul_one m)

end RestKit.Numeral
