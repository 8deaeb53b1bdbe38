import RestKit.Text.Utf8
import Mathlib.Data.List.Basic
/-!
# Decoding loses no byte, encoding no character

The symbols of a byte list hold its bytes: each character stands for the bytes that encode it. So a
text that was decoded is encoded as the bytes that it came from (`encode_of_decode`), and the bytes
of a text are decoded to it (`decode_encode`).
-/
namespace RestKit.Utf8

/-! ## Encoding -/

theorem toList_loop (bs : ByteArray) (i : Nat) (r : List UInt8) :
    ByteArray.toList.loop bs i r = r.reverse ++ bs.data.toList.drop i := by
  fun_induction ByteArray.toList.loop bs i r with
  | case1 i r h ih =>
    have hi : i < bs.data.toList.length := by simpa using h
    have hget : bs.get! i = bs.data.toList[i] := getElem!_pos bs.data i hi
    rw [ih, List.drop_eq_getElem_cons hi]
    simp [hget]
  | case2 i r h =>
    rw [List.drop_eq_nil_of_le (by simpa using Nat.le_of_not_lt h), List.append_nil]

/-- The bytes of a text are those of its characters. -/
theorem encode_ofList (cs : List Char) :
    encode (String.ofList cs) = cs.flatMap String.utf8EncodeChar := by
  rw [encode, String.toUTF8, String.toByteArray_ofList, List.utf8Encode, ByteArray.toList,
    toList_loop, List.reverse_nil, List.nil_append, List.drop_zero, List.toList_data_toByteArray]

theorem encode_append (s t : String) : encode (s ++ t) = encode s ++ encode t := by
  rw [← String.ofList_toList (s := s), ← String.ofList_toList (s := t),
    ← String.ofList_append, encode_ofList, encode_ofList, encode_ofList, List.flatMap_append]

/-! ## Characters

The encoding divides a code point into the groups of bits that the decoder has put together. -/

theorem toNat_ofNat {v : Nat} (h : v < 0xD800 ∨ 0xDFFF < v ∧ v < 0x110000) :
    (Char.ofNat v).val.toNat = v := by
  have hv : v.isValidChar := by rcases h with h | h <;> [left; right] <;> omega
  rw [Char.ofNat, dif_pos hv]
  rfl

theorem encodeChar_one {a : UInt8} (ha : a < 0x80) :
    String.utf8EncodeChar (Char.ofNat a.toNat) = [a] := by
  have ha' : a.toNat < 128 := ha
  rw [String.utf8EncodeChar, toNat_ofNat (by omega), if_pos (by omega), UInt8.ofNat_toNat]

/-- A number below 256 that is a byte's value gives the byte. -/
theorem ofNat_eq {n : Nat} {b : UInt8} (h : n = b.toNat) : UInt8.ofNat n = b := by
  rw [h, UInt8.ofNat_toNat]

theorem encodeChar_two {a b : UInt8} (ha : 0xC2 ≤ a.toNat ∧ a.toNat ≤ 0xDF)
    (hb : 0x80 ≤ b.toNat ∧ b.toNat ≤ 0xBF) :
    String.utf8EncodeChar (Char.ofNat (a.toNat % 32 * 64 + low b)) = [a, b] := by
  unfold low
  rw [String.utf8EncodeChar, toNat_ofNat (by omega), if_neg (by omega), if_pos (by omega),
    ofNat_eq (b := a) (by omega), ofNat_eq (b := b) (by omega)]

theorem encodeChar_three {a b c : UInt8} (ha : 0xE0 ≤ a.toNat ∧ a.toNat ≤ 0xEF)
    (h0 : a.toNat = 0xE0 → 0xA0 ≤ b.toNat) (hD : a.toNat = 0xED → b.toNat ≤ 0x9F)
    (hb : 0x80 ≤ b.toNat ∧ b.toNat ≤ 0xBF) (hc : 0x80 ≤ c.toNat ∧ c.toNat ≤ 0xBF) :
    String.utf8EncodeChar (Char.ofNat (a.toNat % 16 * 4096 + low b * 64 + low c)) = [a, b, c] := by
  unfold low
  rw [String.utf8EncodeChar, toNat_ofNat (by omega), if_neg (by omega), if_neg (by omega),
    if_pos (by omega), ofNat_eq (b := a) (by omega), ofNat_eq (b := b) (by omega),
    ofNat_eq (b := c) (by omega)]

theorem encodeChar_four {a b c d : UInt8} (ha : 0xF0 ≤ a.toNat ∧ a.toNat ≤ 0xF4)
    (h0 : a.toNat = 0xF0 → 0x90 ≤ b.toNat) (h4 : a.toNat = 0xF4 → b.toNat ≤ 0x8F)
    (hb : 0x80 ≤ b.toNat ∧ b.toNat ≤ 0xBF) (hc : 0x80 ≤ c.toNat ∧ c.toNat ≤ 0xBF)
    (hd : 0x80 ≤ d.toNat ∧ d.toNat ≤ 0xBF) :
    String.utf8EncodeChar
        (Char.ofNat (a.toNat % 8 * 262144 + low b * 4096 + low c * 64 + low d)) =
      [a, b, c, d] := by
  unfold low
  rw [String.utf8EncodeChar, toNat_ofNat (by omega), if_neg (by omega), if_neg (by omega),
    if_neg (by omega), ofNat_eq (b := a) (by omega), ofNat_eq (b := b) (by omega),
    ofNat_eq (b := c) (by omega), ofNat_eq (b := d) (by omega)]

/-! ## Symbols -/

/-- What a first byte allows: the second bytes, by the length of the sequence. -/
theorem lead_eq_some {a lo hi : UInt8} {n : Nat} (h : lead? a = some (lo, hi, n)) :
    (n = 2 ∧ 0xC2 ≤ a.toNat ∧ a.toNat ≤ 0xDF ∧ lo.toNat = 0x80 ∧ hi.toNat = 0xBF) ∨
    (n = 3 ∧ 0xE0 ≤ a.toNat ∧ a.toNat ≤ 0xEF ∧ 0x80 ≤ lo.toNat ∧ hi.toNat ≤ 0xBF ∧
      (a.toNat = 0xE0 → lo.toNat = 0xA0) ∧ (a.toNat = 0xED → hi.toNat = 0x9F)) ∨
    (n = 4 ∧ 0xF0 ≤ a.toNat ∧ a.toNat ≤ 0xF4 ∧ 0x80 ≤ lo.toNat ∧ hi.toNat ≤ 0xBF ∧
      (a.toNat = 0xF0 → lo.toNat = 0x90) ∧ (a.toNat = 0xF4 → hi.toNat = 0x8F)) := by
  simp only [lead?, Bool.and_eq_true, decide_eq_true_eq, UInt8.le_iff_toNat_le,
    ← UInt8.toNat_inj, UInt8.reduceToNat] at h
  split_ifs at h <;> cases h <;> simp <;> omega

theorem between {lo b hi : UInt8} (h : ¬(!(lo ≤ b && b ≤ hi)) = true) :
    lo.toNat ≤ b.toNat ∧ b.toNat ≤ hi.toNat := by
  simpa [UInt8.le_iff_toNat_le] using h

theorem continuation {b : UInt8} (h : ¬(!isContinuation b) = true) :
    0x80 ≤ b.toNat ∧ b.toNat ≤ 0xBF := between h

/-- The bytes that a symbol stands for. -/
def Symbol.bytes : Symbol → List UInt8
  | .char c => String.utf8EncodeChar c
  | .stray bytes => bytes

/-- The symbols of a byte list hold its bytes. -/
theorem bytes_symbols (bytes : List UInt8) : (symbols bytes).flatMap Symbol.bytes = bytes := by
  fun_induction symbols bytes with
  | case1 => rfl
  | case2 a r ha ih => rw [List.flatMap_cons, ih, Symbol.bytes, encodeChar_one ha]; rfl
  | case6 a _ lo hi b r hb hlead ih =>
    have hb := between hb
    have ha := lead_eq_some hlead
    rw [List.flatMap_cons, ih, Symbol.bytes, encodeChar_two (by omega) (by omega)]
    rfl
  | case9 a _ lo hi b hb c r hc hlead _ ih =>
    have hb := between hb
    have hc := continuation hc
    have ha := lead_eq_some hlead
    rw [List.flatMap_cons, ih, Symbol.bytes, encodeChar_three (by omega) (by omega) (by omega)
      (by omega) (by omega)]
    rfl
  | case12 a _ lo hi n hlead b hb h2 c hc h3 d r hd ih =>
    have hb := between hb
    have hc := continuation hc
    have hd := continuation hd
    have ha := lead_eq_some hlead
    rw [List.flatMap_cons, ih, Symbol.bytes, encodeChar_four (by omega) (by omega) (by omega)
      (by omega) (by omega) (by omega)]
    rfl
  | _ => simp_all [Symbol.bytes]

/-- A text that was decoded has the bytes that it was decoded from. -/
theorem encode_of_decode {bytes : List UInt8} {s : String} (h : decode? bytes = some s) :
    encode s = bytes := by
  obtain ⟨cs, hcs, rfl⟩ := Option.map_eq_some_iff.1 h
  have hall : ∀ (syms : List Symbol) (cs : List Char), syms.mapM Symbol.char? = some cs →
      cs.flatMap String.utf8EncodeChar = syms.flatMap Symbol.bytes := by
    intro syms
    induction syms with
    | nil => rintro cs h; cases h; rfl
    | cons y ys ih =>
      intro cs h
      cases y with
      | stray _ => simp [Symbol.char?] at h
      | char c =>
        simp only [List.mapM_cons, Symbol.char?, Option.bind_eq_bind, Option.bind_some,
          Option.bind_eq_some_iff] at h
        obtain ⟨rest, hrest, hcs⟩ := h
        cases hcs
        rw [List.flatMap_cons, List.flatMap_cons, ih rest hrest, Symbol.bytes]
  rw [encode_ofList, hall _ _ hcs, bytes_symbols]

/-! ## Encoded texts

Bytes that start with those of a character have this character as their first symbol, since the
first byte tells how many belong to it. -/

theorem symbols_one {a : UInt8} (ha : a.toNat < 0x80) (r : List UInt8) :
    symbols (a :: r) = .char (Char.ofNat a.toNat) :: symbols r := by
  rw [symbols.eq_2, if_pos (by simpa [UInt8.lt_iff_toNat_lt] using ha)]

theorem lead_two {a : UInt8} (ha : 0xC2 ≤ a.toNat ∧ a.toNat ≤ 0xDF) :
    lead? a = some (0x80, 0xBF, 2) := by
  simp only [lead?, Bool.and_eq_true, decide_eq_true_eq, UInt8.le_iff_toNat_le,
    UInt8.reduceToNat]
  exact if_pos ha

theorem lead_three {a : UInt8} (ha : 0xE0 ≤ a.toNat ∧ a.toNat ≤ 0xEF) :
    lead? a = some
      (if a.toNat = 0xE0 then 0xA0 else 0x80, if a.toNat = 0xED then 0x9F else 0xBF, 3) := by
  simp only [lead?, Bool.and_eq_true, decide_eq_true_eq, UInt8.le_iff_toNat_le,
    ← UInt8.toNat_inj, UInt8.reduceToNat]
  split_ifs <;> first | rfl | omega

theorem lead_four {a : UInt8} (ha : 0xF0 ≤ a.toNat ∧ a.toNat ≤ 0xF4) :
    lead? a = some
      (if a.toNat = 0xF0 then 0x90 else 0x80, if a.toNat = 0xF4 then 0x8F else 0xBF, 4) := by
  simp only [lead?, Bool.and_eq_true, decide_eq_true_eq, UInt8.le_iff_toNat_le,
    ← UInt8.toNat_inj, UInt8.reduceToNat]
  split_ifs <;> first | rfl | omega

theorem symbols_two {a b : UInt8} (ha : 0xC2 ≤ a.toNat ∧ a.toNat ≤ 0xDF)
    (hb : 0x80 ≤ b.toNat ∧ b.toNat ≤ 0xBF) (r : List UInt8) :
    symbols (a :: b :: r) =
      .char (Char.ofNat (a.toNat % 32 * 64 + low b)) :: symbols r := by
  have hle : ¬ a < 0x80 := by rw [UInt8.lt_iff_toNat_lt]; simp; omega
  rw [symbols.eq_2, if_neg hle, lead_two ha]
  simp [UInt8.le_iff_toNat_le, hb]

theorem symbols_three {a b c : UInt8} (ha : 0xE0 ≤ a.toNat ∧ a.toNat ≤ 0xEF)
    (h0 : a.toNat = 0xE0 → 0xA0 ≤ b.toNat) (hD : a.toNat = 0xED → b.toNat ≤ 0x9F)
    (hb : 0x80 ≤ b.toNat ∧ b.toNat ≤ 0xBF) (hc : 0x80 ≤ c.toNat ∧ c.toNat ≤ 0xBF)
    (r : List UInt8) :
    symbols (a :: b :: c :: r) =
      .char (Char.ofNat (a.toNat % 16 * 4096 + low b * 64 + low c)) :: symbols r := by
  have hle : ¬ a < 0x80 := by rw [UInt8.lt_iff_toNat_lt]; simp; omega
  rw [symbols.eq_2, if_neg hle, lead_three ha]
  have hlo : (if a.toNat = 0xE0 then 0xA0 else 0x80 : UInt8) ≤ b := by
    split_ifs <;> simp [UInt8.le_iff_toNat_le] <;> omega
  have hhi : b ≤ (if a.toNat = 0xED then 0x9F else 0xBF : UInt8) := by
    split_ifs <;> simp [UInt8.le_iff_toNat_le] <;> omega
  simp [hlo, hhi, isContinuation, UInt8.le_iff_toNat_le, hc]

theorem symbols_four {a b c d : UInt8} (ha : 0xF0 ≤ a.toNat ∧ a.toNat ≤ 0xF4)
    (h0 : a.toNat = 0xF0 → 0x90 ≤ b.toNat) (h4 : a.toNat = 0xF4 → b.toNat ≤ 0x8F)
    (hb : 0x80 ≤ b.toNat ∧ b.toNat ≤ 0xBF) (hc : 0x80 ≤ c.toNat ∧ c.toNat ≤ 0xBF)
    (hd : 0x80 ≤ d.toNat ∧ d.toNat ≤ 0xBF) (r : List UInt8) :
    symbols (a :: b :: c :: d :: r) =
      .char (Char.ofNat (a.toNat % 8 * 262144 + low b * 4096 + low c * 64 + low d))
        :: symbols r := by
  have hle : ¬ a < 0x80 := by rw [UInt8.lt_iff_toNat_lt]; simp; omega
  rw [symbols.eq_2, if_neg hle, lead_four ha]
  have hlo : (if a.toNat = 0xF0 then 0x90 else 0x80 : UInt8) ≤ b := by
    split_ifs <;> simp [UInt8.le_iff_toNat_le] <;> omega
  have hhi : b ≤ (if a.toNat = 0xF4 then 0x8F else 0xBF : UInt8) := by
    split_ifs <;> simp [UInt8.le_iff_toNat_le] <;> omega
  simp [hlo, hhi, isContinuation, UInt8.le_iff_toNat_le, hc, hd]

theorem toNat_ofNat_byte {n : Nat} (h : n < 256) : (UInt8.ofNat n).toNat = n :=
  UInt8.toNat_ofNat_of_lt h

/-- The bytes of a character are its symbol. -/
theorem symbols_encodeChar (c : Char) (r : List UInt8) :
    symbols (String.utf8EncodeChar c ++ r) = .char c :: symbols r := by
  have hvalid : c.val.toNat < 0xD800 ∨ 0xDFFF < c.val.toNat ∧ c.val.toNat < 0x110000 := c.valid
  have hofNat {n : Nat} (h : n = c.val.toNat) : Char.ofNat n = c := by
    rw [h]
    exact Char.ofNat_toNat c
  unfold String.utf8EncodeChar
  dsimp only
  split_ifs with h₁ h₂ h₃ <;> simp only [List.cons_append, List.nil_append]
  · rw [symbols_one, hofNat] <;> simp (disch := omega) only [toNat_ofNat_byte]; omega
  · rw [symbols_two, hofNat] <;> simp (disch := omega) only [low, toNat_ofNat_byte] <;> omega
  · rw [symbols_three, hofNat] <;> simp (disch := omega) only [low, toNat_ofNat_byte] <;> omega
  · rw [symbols_four, hofNat] <;> simp (disch := omega) only [low, toNat_ofNat_byte] <;> omega

/-- A text is what its bytes are decoded to. -/
theorem decode_encode (s : String) : decode? (encode s) = some s := by
  have hsymbols (cs : List Char) :
      (symbols (cs.flatMap String.utf8EncodeChar)).mapM Symbol.char? = some cs := by
    induction cs with
    | nil => rfl
    | cons c cs ih =>
      rw [List.flatMap_cons, symbols_encodeChar, List.mapM_cons, ih]
      rfl
  rw [← String.ofList_toList (s := s), encode_ofList, decode?, hsymbols]
  rfl

theorem encodeChar_ascii {c : Char} (h : c.toNat < 128) :
    String.utf8EncodeChar c = [UInt8.ofNat c.toNat] := by
  have hv : c.val.toNat < 128 := h
  unfold String.utf8EncodeChar
  rw [if_pos (by omega)]
  rfl

/-- The bytes of a text of ASCII characters are their numbers. -/
theorem encode_ascii {cs : List Char} (h : ∀ c ∈ cs, c.toNat < 128) :
    encode (String.ofList cs) = cs.map fun c => UInt8.ofNat c.toNat := by
  rw [encode_ofList]
  induction cs with
  | nil => rfl
  | cons c cs ih =>
    obtain ⟨hc, hcs⟩ := List.forall_mem_cons.1 h
    rw [List.flatMap_cons, List.map_cons, encodeChar_ascii hc, ih hcs]
    rfl

/-- The bytes of a character that is not ASCII have their highest bit set. -/
theorem le_of_mem_encodeChar {c : Char} (hc : 128 ≤ c.toNat) :
    ∀ b ∈ String.utf8EncodeChar c, 128 ≤ b.toNat := by
  have hv : ¬ c.val.toNat ≤ 127 := Nat.not_le.2 hc
  have hvalid : c.val.toNat < 0xD800 ∨ 0xDFFF < c.val.toNat ∧ c.val.toNat < 0x110000 := c.valid
  unfold String.utf8EncodeChar
  dsimp only
  rw [if_neg hv]
  split_ifs <;> simp (disch := omega) only [List.forall_mem_cons, toNat_ofNat_byte,
    List.not_mem_nil, false_implies, implies_true, and_true] <;> omega

end RestKit.Utf8
