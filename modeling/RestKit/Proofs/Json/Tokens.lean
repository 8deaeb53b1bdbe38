import Mathlib.Data.List.TakeWhile
import RestKit.Json.Reader
import RestKit.Json.Writer
import RestKit.Proofs.Except
import RestKit.Proofs.Text.Utf8
/-!
# Strings and integers, written and read

A reader that stands at the text of a string or of an integer gives its value and stops behind it.
The readers go byte by byte, while the writer puts down whole characters: a string is taken apart in
its escaped characters (`Piece`), each of which is read at once, and an integer in its digits.
`Ends` says what may follow a number.
-/
namespace RestKit.Json

open Cursor

/-! ## Cursors -/

section

variable {α : Type} {c c' : Cursor} {b : UInt8} {r rest : List UInt8}

/-- A reader has given a value and stopped in front of the rest. -/
def Gives (result : Except Fault (α × Cursor)) (a : α) (rest : List UInt8) : Prop :=
  ∃ c', result = .ok (a, c') ∧ c'.rest = rest

/-- A reader without a value has stopped in front of the rest. -/
def Stops (result : Except Fault Cursor) (rest : List UInt8) : Prop :=
  ∃ c', result = .ok c' ∧ c'.rest = rest

theorem rest_advance (h : c.rest = b :: r) : c.advance.rest = r := by
  rw [advance, h]
  dsimp only
  split <;> rfl

theorem rest_advanceBy (n : Nat) (c : Cursor) : (advanceBy n c).rest = c.rest.drop n := by
  induction n generalizing c with
  | zero => rfl
  | succ n ih =>
    rw [advanceBy, ih]
    cases hrest : c.rest with
    | nil => rw [advance, hrest]; simp [hrest]
    | cons b r => rw [rest_advance hrest, List.drop_succ_cons]

theorem peek_eq (h : c.rest = b :: r) : c.peek = some b := by rw [peek, h, List.head?_cons]

theorem skipBlanks_eq (h : c.peek = some b) (hb : isBlank b = false) : c.skipBlanks = c := by
  obtain ⟨r, hrest⟩ := List.head?_eq_some_iff.1 h
  rw [skipBlanks, hrest, List.takeWhile_cons_of_neg (by simp [hb])]
  rfl

end

/-! ## Strings -/

section

variable {c : Cursor} {ch : Char} {bytes rest : List UInt8} {s : String}

/-- A byte that stands for itself inside a string. -/
def IsPlain (b : UInt8) : Prop := 32 ≤ b.toNat ∧ b ≠ 34 ∧ b ≠ 92

/-- The bytes of a character inside a string: its own, or those of an escape. -/
inductive Piece (ch : Char) : List UInt8 → Prop where
  | plain (h : ∀ b ∈ String.utf8EncodeChar ch, IsPlain b) : Piece ch (String.utf8EncodeChar ch)
  | short (e : UInt8) (he : [34, 92, 47, 98, 102, 110, 114, 116].contains e = true)
    (h : ∀ c rest, c.rest = e :: rest → escape c = .ok (ch, c.advance)) : Piece ch [92, e]
  | unit (a b : UInt8) (h : ∀ c rest, c.rest = 48 :: 48 :: a :: b :: rest →
      hexUnit c = .ok (ch.toNat, advanceBy 4 c)) (hch : ch.toNat < 32) :
    Piece ch [92, 117, 48, 48, a, b]

/-- The bytes of a character that is written inside a string. -/
def escaped (ch : Char) : List UInt8 := (escapeChar ch).flatMap String.utf8EncodeChar

theorem isPlain_of_mem_encodeChar (h32 : 32 ≤ ch.toNat) (hquote : ch ≠ '"')
    (hslash : ch ≠ '\\') : ∀ b ∈ String.utf8EncodeChar ch, IsPlain b := by
  intro b hb
  by_cases hascii : ch.toNat < 128
  · have hne {k : Char} (h : ch ≠ k) : ch.toNat ≠ k.toNat := fun heq => h (Char.toNat_inj.1 heq)
    rw [Utf8.encodeChar_ascii hascii, List.mem_singleton] at hb
    rw [hb, IsPlain, Ne, ← UInt8.toNat_inj, Ne, ← UInt8.toNat_inj,
      Utf8.toNat_ofNat_byte (by omega)]
    exact ⟨h32, hne hquote, hne hslash⟩
  · have hbig := Utf8.le_of_mem_encodeChar (Nat.le_of_not_lt hascii) b hb
    refine ⟨by omega, ?_, ?_⟩ <;>
    · rintro rfl
      exact absurd hbig (by decide)

/-- The digits of the number of a control character are read as this number. -/
theorem hexUnit_control (hch : ch.toNat < 32) (c : Cursor) (rest : List UInt8)
    (h : c.rest = 48 :: 48 :: UInt8.ofNat (hexDigit (ch.toNat / 16)).toNat ::
      UInt8.ofNat (hexDigit (ch.toNat % 16)).toNat :: rest) :
    hexUnit c = .ok (ch.toNat, advanceBy 4 c) := by
  have hdigit : ∀ n : Fin 16, hexValue? (UInt8.ofNat (hexDigit n).toNat) = some n.val := by
    decide +kernel
  have hhigh := hdigit ⟨ch.toNat / 16, by omega⟩
  have hlow := hdigit ⟨ch.toNat % 16, by omega⟩
  have hzero : hexValue? 48 = some 0 := rfl
  unfold hexUnit
  simp only [h, hzero, hhigh, hlow]
  congr 2
  omega

theorem piece_escaped (ch : Char) : Piece ch (escaped ch) := by
  unfold escaped escapeChar
  split_ifs with hquote hslash hn hr ht hb hf hcontrol
  · subst hquote
    exact .short 34 rfl fun c rest h => by rw [escape, peek_eq h]; rfl
  · subst hslash
    exact .short 92 rfl fun c rest h => by rw [escape, peek_eq h]; rfl
  · subst hn
    exact .short 110 rfl fun c rest h => by rw [escape, peek_eq h]; rfl
  · subst hr
    exact .short 114 rfl fun c rest h => by rw [escape, peek_eq h]; rfl
  · subst ht
    exact .short 116 rfl fun c rest h => by rw [escape, peek_eq h]; rfl
  · have hch : ch = Char.ofNat 8 := by rw [← hb, Char.ofNat_toNat]
    subst hch
    exact .short 98 rfl fun c rest h => by rw [escape, peek_eq h]; rfl
  · have hch : ch = Char.ofNat 12 := by rw [← hf, Char.ofNat_toNat]
    subst hch
    exact .short 102 rfl fun c rest h => by rw [escape, peek_eq h]; rfl
  · have hdigit : ∀ n : Fin 16, (hexDigit n).toNat < 128 := by decide +kernel
    have hhigh := hdigit ⟨ch.toNat / 16, by omega⟩
    have hlow := hdigit ⟨ch.toNat % 16, by omega⟩
    simp only [List.flatMap_cons, List.flatMap_nil, List.append_nil, Utf8.encodeChar_ascii hhigh,
      Utf8.encodeChar_ascii hlow]
    exact .unit _ _ (hexUnit_control hcontrol) hcontrol
  · rw [List.flatMap_cons, List.flatMap_nil, List.append_nil]
    exact .plain (isPlain_of_mem_encodeChar (Nat.le_of_not_lt hcontrol) hquote hslash)

/-- The bytes of a text inside a string, escapes included. -/
def escapedText (cs : List Char) : List UInt8 := cs.flatMap escaped

theorem encode_quoted (s : String) :
    Utf8.encode (quoted s) = 34 :: (escapedText s.toList ++ [34]) := by
  rw [quoted, Utf8.encode_ofList, List.flatMap_cons, List.flatMap_append, List.flatMap_assoc]
  rfl

section

variable {text out : List UInt8} {k : Nat}

/-- Plain bytes are taken one by one. -/
theorem stringBytes_plain (hplain : ∀ b ∈ bytes, IsPlain b)
    (hnext : ∀ c n, c.rest = text → k < n → Gives (stringBytes n c) out rest) :
    ∀ c n, c.rest = bytes ++ text → bytes.length + k < n →
      Gives (stringBytes n c) (bytes ++ out) rest := by
  induction bytes with
  | nil => simpa using hnext
  | cons b bytes ih =>
    intro c n hc hn
    obtain ⟨⟨h32, h34, h92⟩, hplain⟩ := List.forall_mem_cons.1 hplain
    rw [List.length_cons] at hn
    obtain ⟨m, rfl⟩ : ∃ m, n = m + 1 := ⟨n - 1, by omega⟩
    obtain ⟨c', hread, hc'⟩ := ih hplain c.advance m (rest_advance hc) (by omega)
    refine ⟨c', ?_, hc'⟩
    rw [stringBytes, peek_eq hc]
    dsimp only
    rw [if_neg h34, if_neg h92, if_neg (by simpa [UInt8.lt_iff_toNat_lt] using h32), hread]
    rfl

/-- A character is taken as a whole. -/
theorem stringBytes_piece (hpiece : Piece ch bytes)
    (hnext : ∀ c n, c.rest = text → k < n → Gives (stringBytes n c) out rest)
    (c : Cursor) (n : Nat) (hc : c.rest = bytes ++ text) (hn : bytes.length + k < n) :
    Gives (stringBytes n c) (String.utf8EncodeChar ch ++ out) rest := by
  -- What follows a backslash is one step.
  have hescape {e c₂ : Cursor} {m : Nat} (he : escape e = .ok (ch, c₂)) (hrest : c₂.rest = text)
      (hm : k < m) (hbackslash : c.peek = some 92) (hadvance : c.advance = e) :
      Gives (stringBytes (m + 1) c) (String.utf8EncodeChar ch ++ out) rest := by
    obtain ⟨c', hread, hc'⟩ := hnext c₂ m hrest hm
    refine ⟨c', ?_, hc'⟩
    rw [stringBytes, hbackslash]
    dsimp only
    rw [if_neg (by decide), if_pos rfl, hadvance, he, ok_bind]
    dsimp only
    rw [hread]
    rfl
  obtain ⟨m, rfl⟩ : ∃ m, n = m + 1 := ⟨n - 1, by omega⟩
  cases hpiece with
  | plain hplain => exact stringBytes_plain hplain hnext c _ hc hn
  | short e he h =>
    have hadvance := rest_advance hc
    exact hescape (h _ _ hadvance) (rest_advance hadvance) (by simp at hn; omega) (peek_eq hc) rfl
  | unit a b h hch =>
    have hadvance := rest_advance hc
    have hdigits := rest_advance hadvance
    have he : escape c.advance = .ok (ch, advanceBy 4 c.advance.advance) := by
      rw [escape, peek_eq hadvance]
      change unicodeEscape c.advance.advance = _
      rw [unicodeEscape, h _ _ hdigits, ok_bind]
      dsimp only
      rw [if_neg (by omega), if_pos (by omega), Char.ofNat_toNat]
    have htext : (advanceBy 4 c.advance.advance).rest = text := by
      rw [rest_advanceBy, hdigits]
      rfl
    exact hescape he htext (by simp at hn; omega) (peek_eq hc) rfl

/-- A string is read as the bytes of its text. -/
theorem stringBytes_escapedText (cs : List Char) (c : Cursor) (n : Nat)
    (hc : c.rest = escapedText cs ++ 34 :: rest) (hn : (escapedText cs).length < n) :
    Gives (stringBytes n c) (cs.flatMap String.utf8EncodeChar) rest := by
  induction cs generalizing c n with
  | nil =>
    obtain ⟨m, rfl⟩ : ∃ m, n = m + 1 := ⟨n - 1, by omega⟩
    refine ⟨c.advance, ?_, rest_advance hc⟩
    rw [stringBytes, peek_eq hc]
    rfl
  | cons ch cs ih =>
    have hstep := stringBytes_piece (piece_escaped ch) ih c n
    rw [escapedText, List.flatMap_cons] at hc hn
    rw [List.append_assoc] at hc
    rw [List.length_append] at hn
    exact hstep hc hn

end

/-- A string behind its opening quote is read as its text. -/
theorem stringRest_escapedText {s : String} (c : Cursor)
    (hc : c.rest = escapedText s.toList ++ 34 :: rest) : Gives (stringRest c) s rest := by
  obtain ⟨c', hread, hc'⟩ := stringBytes_escapedText s.toList c (c.rest.length + 1) hc
    (by rw [hc, List.length_append]; omega)
  refine ⟨c', ?_, hc'⟩
  rw [stringRest, hread, ok_bind]
  dsimp only
  rw [← Utf8.encode_ofList, String.ofList_toList, Utf8.decode_encode]

section

variable {text : List UInt8} {k : Nat}

theorem skipString_plain (hplain : ∀ b ∈ bytes, IsPlain b)
    (hnext : ∀ c n, c.rest = text → k < n → Stops (skipString n c) rest) :
    ∀ c n, c.rest = bytes ++ text → bytes.length + k < n → Stops (skipString n c) rest := by
  induction bytes with
  | nil => simpa using hnext
  | cons b bytes ih =>
    intro c n hc hn
    obtain ⟨⟨h32, h34, h92⟩, hplain⟩ := List.forall_mem_cons.1 hplain
    rw [List.length_cons] at hn
    obtain ⟨m, rfl⟩ : ∃ m, n = m + 1 := ⟨n - 1, by omega⟩
    obtain ⟨c', hread, hc'⟩ := ih hplain c.advance m (rest_advance hc) (by omega)
    refine ⟨c', ?_, hc'⟩
    rw [skipString, peek_eq hc]
    dsimp only
    rw [if_neg h34, if_neg h92, if_neg (by simpa [UInt8.lt_iff_toNat_lt] using h32), hread]

theorem skipString_piece (hpiece : Piece ch bytes)
    (hnext : ∀ c n, c.rest = text → k < n → Stops (skipString n c) rest)
    (c : Cursor) (n : Nat) (hc : c.rest = bytes ++ text) (hn : bytes.length + k < n) :
    Stops (skipString n c) rest := by
  obtain ⟨m, rfl⟩ : ∃ m, n = m + 1 := ⟨n - 1, by omega⟩
  cases hpiece with
  | plain hplain => exact skipString_plain hplain hnext c _ hc hn
  | short e he h =>
    have hadvance := rest_advance hc
    have hne : e ≠ 117 := by
      rintro rfl
      cases he
    obtain ⟨c', hread, hc'⟩ := hnext _ m (rest_advance hadvance) (by simp at hn; omega)
    refine ⟨c', ?_, hc'⟩
    rw [skipString, peek_eq hc]
    dsimp only
    rw [if_neg (by decide), if_pos rfl, peek_eq hadvance]
    dsimp only
    rw [if_neg hne, if_pos he, hread]
  | unit a b h hch =>
    have hadvance := rest_advance hc
    have hdigits := rest_advance hadvance
    have htext : (advanceBy 4 c.advance.advance).rest = text := by
      rw [rest_advanceBy, hdigits]
      rfl
    obtain ⟨c', hread, hc'⟩ := hnext _ m htext (by simp at hn; omega)
    refine ⟨c', ?_, hc'⟩
    rw [skipString, peek_eq hc]
    dsimp only
    rw [if_neg (by decide), if_pos rfl, peek_eq hadvance]
    dsimp only
    rw [if_pos rfl, h _ _ hdigits, ok_bind]
    exact hread

/-- A string is passed over up to its closing quote. -/
theorem skipString_escapedText (cs : List Char) (c : Cursor) (n : Nat)
    (hc : c.rest = escapedText cs ++ 34 :: rest) (hn : (escapedText cs).length < n) :
    Stops (skipString n c) rest := by
  induction cs generalizing c n with
  | nil =>
    obtain ⟨m, rfl⟩ : ∃ m, n = m + 1 := ⟨n - 1, by omega⟩
    refine ⟨c.advance, ?_, rest_advance hc⟩
    rw [skipString, peek_eq hc]
    rfl
  | cons ch cs ih =>
    have hstep := skipString_piece (piece_escaped ch) ih c n
    rw [escapedText, List.flatMap_cons] at hc hn
    rw [List.append_assoc] at hc
    rw [List.length_append] at hn
    exact hstep hc hn

end

end

/-! ## Integers -/

section

variable {c : Cursor} {n : Nat} {b : UInt8} {ds rest : List UInt8}

/-- Nothing follows that belongs to a number. -/
def Ends (rest : List UInt8) : Prop :=
  ∀ b ∈ rest.head?, isDigit b = false ∧ b ≠ 46 ∧ b ≠ 101 ∧ b ≠ 69

/-- The digits of a number, as bytes. -/
def digits (n : Nat) : List UInt8 := (Nat.toDigits 10 n).map fun ch => UInt8.ofNat ch.toNat

theorem isDigit_of_mem_toDigits {ch : Char} (h : ch ∈ Nat.toDigits 10 n) :
    48 ≤ ch.toNat ∧ ch.toNat ≤ 57 := by
  have hdigit := Nat.isDigit_of_mem_toDigits (by decide) (by decide) h
  simp only [Char.isDigit, Bool.and_eq_true, decide_eq_true_eq] at hdigit
  exact hdigit

theorem encode_toString : Utf8.encode (toString n) = digits n := by
  rw [Nat.toString_eq_ofList_toDigits, Utf8.encode_ascii, digits]
  intro ch hch
  have := isDigit_of_mem_toDigits hch
  omega

theorem isDigit_of_mem_digits (h : b ∈ digits n) : isDigit b = true := by
  obtain ⟨ch, hch, rfl⟩ := List.mem_map.1 h
  have := isDigit_of_mem_toDigits hch
  rw [isDigit, Bool.and_eq_true, decide_eq_true_eq, decide_eq_true_eq, UInt8.le_iff_toNat_le,
    UInt8.le_iff_toNat_le, Utf8.toNat_ofNat_byte (by omega)]
  exact this

/-- Only zero starts with a zero. -/
theorem head_toDigits (h : n ≠ 0) : (Nat.toDigits 10 n).head? ≠ some '0' := by
  induction n using Nat.strongRecOn with
  | ind n ih =>
    by_cases hlt : n < 10
    · rw [Nat.toDigits_of_lt_base hlt]
      have hall : ∀ n : Fin 10, n.val ≠ 0 → [n.val.digitChar].head? ≠ some '0' := by decide
      exact hall ⟨n, hlt⟩ h
    · rw [Nat.toDigits_of_base_le (by decide) (Nat.le_of_not_lt hlt),
        List.head?_append_of_ne_nil _ Nat.toDigits_ne_nil]
      exact ih (n / 10) (by omega) (by omega)

theorem digits_of_zero (h : digits n = 48 :: ds) : ds = [] := by
  obtain ⟨ch, chs, htext, hch, rfl⟩ := List.map_eq_cons_iff.1 h
  have hn : n = 0 := by
    by_contra hn
    have hmem : ch ∈ Nat.toDigits 10 n := htext ▸ List.mem_cons_self
    have hrange := isDigit_of_mem_toDigits hmem
    rw [← UInt8.toNat_inj, Utf8.toNat_ofNat_byte (by omega)] at hch
    have hzero : ch = '0' := Char.toNat_inj.1 hch
    exact head_toDigits hn (by rw [htext, hzero, List.head?_cons])
  rw [hn, Nat.toDigits_zero] at htext
  cases htext
  rfl

/-- Digits are taken as long as the number fits. -/
theorem absorb_map {chs : List Char} {k : Nat}
    (hdigits : ∀ ch ∈ chs, 48 ≤ ch.toNat ∧ ch.toNat ≤ 57)
    (h : Nat.ofDigitChars 10 chs k < 18446744073709551616) :
    absorb k (chs.map fun ch => UInt8.ofNat ch.toNat) =
      (Nat.ofDigitChars 10 chs k, chs.length) := by
  induction chs generalizing k with
  | nil => rfl
  | cons ch chs ih =>
    obtain ⟨hch, hchs⟩ := List.forall_mem_cons.1 hdigits
    have hnext : k * 10 + digitValue (UInt8.ofNat ch.toNat) = 10 * k + (ch.toNat - '0'.toNat) := by
      rw [digitValue, Utf8.toNat_ofNat_byte (by omega), Nat.mul_comm]
      rfl
    rw [Nat.ofDigitChars_cons] at h ⊢
    have hle : 10 * k + (ch.toNat - '0'.toNat) ≤
        Nat.ofDigitChars 10 chs (10 * k + (ch.toNat - '0'.toNat)) := by
      rw [Nat.ofDigitChars_eq_ofDigitChars_zero]
      exact (Nat.le_mul_of_pos_left _ (Nat.pow_pos (by decide))).trans (Nat.le_add_right ..)
    rw [List.map_cons, absorb]
    dsimp only
    rw [hnext, if_pos (by omega), ih hchs h, List.length_cons]

theorem absorb_digits (h : n < 18446744073709551616) :
    absorb 0 (digits n) = (n, (digits n).length) := by
  rw [digits, absorb_map (fun ch hch => isDigit_of_mem_toDigits hch), Nat.ofDigitChars_ten_toDigits,
    List.length_map]
  rwa [Nat.ofDigitChars_ten_toDigits]

theorem digitRun_digits (hc : c.rest = digits n ++ rest) (hrest : Ends rest) :
    digitRun c = (digits n, advanceBy (digits n).length c) ∧
      (advanceBy (digits n).length c).rest = rest := by
  have htake : c.rest.takeWhile isDigit = digits n := by
    rw [hc, List.takeWhile_append_of_pos fun b hb => isDigit_of_mem_digits hb]
    cases rest with
    | nil => rw [List.takeWhile_nil, List.append_nil]
    | cons b r =>
      rw [List.takeWhile_cons_of_neg (by simp [(hrest b rfl).1]), List.append_nil]
  rw [digitRun, htake]
  exact ⟨rfl, by rw [rest_advanceBy, hc, List.drop_left]⟩

theorem exists_digits (n : Nat) : ∃ b ds, digits n = b :: ds ∧ isDigit b = true ∧
    ¬ (b = 48 ∧ 1 < (digits n).length) := by
  obtain ⟨b, ds, h⟩ := List.exists_cons_of_ne_nil
    (by simp [digits] : digits n ≠ [])
  refine ⟨b, ds, h, isDigit_of_mem_digits (h ▸ List.mem_cons_self), ?_⟩
  rintro ⟨rfl, hlength⟩
  rw [h, digits_of_zero h] at hlength
  exact absurd hlength (by decide)

/-- A number is read as its value, as long as that fits into 64 bits. -/
theorem numeral_digits (positive : Bool) (hn : n < 18446744073709551616)
    (hc : c.rest = digits n ++ rest) (hrest : Ends rest) :
    Gives (numeral positive c) (integerOf positive n) rest := by
  obtain ⟨b, ds, hds, hb, hzero⟩ := exists_digits n
  obtain ⟨hrun, hstop⟩ := digitRun_digits hc hrest
  have hpeek : (advanceBy (digits n).length c).peek = rest.head? := by rw [peek, hstop]
  refine ⟨_, ?_, hstop⟩
  rw [numeral, peek_eq (by rw [hc, hds]; rfl)]
  simp only [hb, Bool.not_true, Bool.false_eq_true, if_false]
  rw [hrun, if_neg hzero, absorb_digits hn]
  dsimp only
  rw [Nat.sub_self, hpeek]
  split
  · rename_i h
    exact absurd rfl (hrest _ h).2.1
  · rename_i h
    exact absurd rfl (hrest _ h).2.2.1
  · rename_i h
    exact absurd rfl (hrest _ h).2.2.2
  · rfl

theorem skipNumber_digits (hc : c.rest = digits n ++ rest) (hrest : Ends rest) :
    Stops (skipNumber c) rest := by
  obtain ⟨b, ds, hds, hb, hzero⟩ := exists_digits n
  obtain ⟨hrun, hstop⟩ := digitRun_digits hc hrest
  have hpeek : (advanceBy (digits n).length c).peek = rest.head? := by rw [peek, hstop]
  have hfraction : rest.head? ≠ some 46 := fun h => (hrest _ h).2.1 rfl
  have hexponent : ¬ (rest.head? = some 101 ∨ rest.head? = some 69) := by
    rintro (h | h)
    · exact (hrest _ h).2.2.1 rfl
    · exact (hrest _ h).2.2.2 rfl
  refine ⟨_, ?_, hstop⟩
  rw [skipNumber, peek_eq (by rw [hc, hds]; rfl)]
  simp only [hb, Bool.not_true, Bool.false_eq_true, if_false]
  rw [hrun, if_neg hzero]
  dsimp only
  rw [hpeek, if_neg hfraction, ok_bind, hpeek, if_neg hexponent]

theorem encode_int (n : Int) : Utf8.encode (toString n) =
    if 0 ≤ n then digits n.toNat else 45 :: digits (-n).toNat := by
  rw [Int.toString_eq_repr, Int.repr_eq_if]
  split
  · exact encode_toString
  · have hdigits : Utf8.encode (-n).toNat.repr = digits (-n).toNat := encode_toString
    have hminus : Utf8.encode "-" = [45] := by decide +kernel
    rw [Utf8.encode_append, hdigits, hminus]
    rfl

end

end RestKit.Json
