import Mathlib.Data.List.TakeWhile
import RestKit.Proofs.Except
import RestKit.Proofs.Text.Utf8
import RestKit.Text.Base64
import RestKit.Text.Blank
/-!
# Bytes in base64 and back

A text in base64 is decoded to the bytes that it was made of (`decode_encode`). It consists of
symbols, none of which is a blank, a dot or the pad.
-/
namespace RestKit.Base64

/-! ## Symbols -/

/-- The byte that a symbol is in a text. -/
def symbolByte (n : Nat) : UInt8 := UInt8.ofNat (symbol n).toNat

theorem value?_symbolByte {n : Nat} (h : n < 64) : value? (symbolByte n) = some n := by
  have hall : ∀ n : Fin 64, value? (symbolByte n) = some n.val := by decide +kernel
  exact hall ⟨n, h⟩

theorem symbolByte_ne_pad {n : Nat} (h : n < 64) : symbolByte n ≠ pad := by
  have hall : ∀ n : Fin 64, symbolByte n ≠ pad := by decide +kernel
  exact hall ⟨n, h⟩

theorem symbol_mem (n : Nat) : symbol n ∈ alphabet := by
  rw [symbol, List.getD_eq_getElem?_getD]
  rcases h : alphabet[n]? with _ | c
  · decide
  · exact List.mem_of_getElem? h

/-- A symbol is visible ASCII, no blank and no dot. -/
theorem of_mem_alphabet : ∀ c ∈ alphabet,
    32 < c.toNat ∧ c.toNat < 127 ∧ Text.isBlank c = false ∧ c ≠ '.' := by
  have hall : alphabet.all
      (fun c => 32 < c.toNat ∧ c.toNat < 127 ∧ Text.isBlank c = false ∧ c ≠ '.') = true := by
    decide +kernel
  simpa using hall

/-! ## Texts -/

/-- The numbers of the symbols of some bytes, six bits each. -/
def sextets : List UInt8 → List Nat
  | a :: b :: c :: rest =>
    a.toNat / 4 :: (a.toNat % 4 * 16 + b.toNat / 16) :: (b.toNat % 16 * 4 + c.toNat / 64)
      :: c.toNat % 64 :: sextets rest
  | [a, b] => [a.toNat / 4, a.toNat % 4 * 16 + b.toNat / 16, b.toNat % 16 * 4]
  | [a] => [a.toNat / 4, a.toNat % 4 * 16]
  | [] => []

theorem encode_eq (bytes : List UInt8) : encode bytes = (sextets bytes).map symbol := by
  fun_induction encode bytes with
  | case1 a b c rest ih => simp [sextets, ih]
  | _ => rfl

theorem mem_alphabet_of_mem_encode {bytes : List UInt8} {c : Char} (h : c ∈ encode bytes) :
    c ∈ alphabet := by
  rw [encode_eq] at h
  obtain ⟨n, -, rfl⟩ := List.mem_map.1 h
  exact symbol_mem n

theorem sextets_lt {bytes : List UInt8} {n : Nat} (h : n ∈ sextets bytes) : n < 64 := by
  have hlt (b : UInt8) : b.toNat < 256 := b.toNat_lt
  fun_induction sextets bytes with
  | case1 a b c rest ih =>
    have ha := hlt a
    have hb := hlt b
    have hc := hlt c
    simp only [List.mem_cons] at h
    rcases h with rfl | rfl | rfl | rfl | h
    all_goals first | omega | exact ih h
  | case2 a b =>
    have ha := hlt a
    have hb := hlt b
    simp only [List.mem_cons, List.not_mem_nil, or_false] at h
    omega
  | case3 a =>
    have ha := hlt a
    simp only [List.mem_cons, List.not_mem_nil, or_false] at h
    omega
  | case4 => cases h

theorem sextets_ne_nil {bytes : List UInt8} (h : bytes ≠ []) : sextets bytes ≠ [] := by
  fun_cases sextets bytes <;> simp_all

/-- A text in base64 as bytes. -/
theorem utf8_encode (bytes : List UInt8) :
    Utf8.encode (String.ofList (encode bytes)) = (sextets bytes).map symbolByte := by
  rw [Utf8.encode_ascii fun c hc => ?_, encode_eq, List.map_map]
  · rfl
  · have := of_mem_alphabet c (mem_alphabet_of_mem_encode hc)
    omega

/-! ## Decoding -/

theorem values_map {ns : List Nat} (h : ∀ n ∈ ns, n < 64) (offset : Nat) :
    values offset (ns.map symbolByte) = .ok ns := by
  induction ns generalizing offset with
  | nil => rfl
  | cons n ns ih =>
    obtain ⟨hn, hns⟩ := List.forall_mem_cons.1 h
    rw [List.map_cons, values, value, value?_symbolByte hn, ih hns]
    rfl

/-- The last symbols are decoded all at once. -/
theorem decodeLast_map {ns : List Nat} (h : ∀ n ∈ ns, n < 64) (hlength : 2 ≤ ns.length)
    {out : List UInt8} (hout : bytesOf ns = some out) (offset : Nat) :
    decodeLast offset (ns.map symbolByte) = .ok out := by
  have hpad : ∀ b ∈ ns.map symbolByte, decide (b ≠ pad) = true := by
    rintro b hb
    obtain ⟨n, hn, rfl⟩ := List.mem_map.1 hb
    exact decide_eq_true (symbolByte_ne_pad (h n hn))
  rw [decodeLast, List.takeWhile_eq_self_iff.2 hpad, List.dropWhile_eq_nil_iff.2 hpad,
    values_map h, ok_bind]
  simp only [List.isEmpty_nil, Bool.not_true, Bool.false_and, Bool.false_eq_true, if_false,
    if_neg (Nat.not_lt.2 hlength), hout]
  rfl

theorem bytesOf_three (a b c : UInt8) :
    bytesOf [a.toNat / 4, a.toNat % 4 * 16 + b.toNat / 16, b.toNat % 16 * 4 + c.toNat / 64,
      c.toNat % 64] = some [a, b, c] := by
  have ha := a.toNat_lt
  have hb := b.toNat_lt
  have hc := c.toNat_lt
  rw [bytesOf, Utf8.ofNat_eq (b := a) (by omega), Utf8.ofNat_eq (b := b) (by omega),
    Utf8.ofNat_eq (b := c) (by omega)]

theorem bytesOf_two (a b : UInt8) :
    bytesOf [a.toNat / 4, a.toNat % 4 * 16 + b.toNat / 16, b.toNat % 16 * 4] = some [a, b] := by
  have ha := a.toNat_lt
  have hb := b.toNat_lt
  rw [bytesOf, if_pos (by omega), Utf8.ofNat_eq (b := a) (by omega),
    Utf8.ofNat_eq (b := b) (by omega)]

theorem bytesOf_one (a : UInt8) :
    bytesOf [a.toNat / 4, a.toNat % 4 * 16] = some [a] := by
  have ha := a.toNat_lt
  rw [bytesOf, if_pos (by omega), Utf8.ofNat_eq (b := a) (by omega)]

theorem decodeFrom_sextets {bytes : List UInt8} (h : bytes ≠ []) (offset : Nat) :
    decodeFrom offset ((sextets bytes).map symbolByte) = .ok bytes := by
  fun_induction sextets bytes generalizing offset with
  | case1 a b c rest ih =>
    have hlt : ∀ n ∈ sextets [a, b, c], n < 64 := fun n hn => sextets_lt hn
    by_cases hrest : rest = []
    · subst hrest
      exact decodeLast_map hlt (Nat.le_of_ble_eq_true rfl) (bytesOf_three a b c) offset
    · obtain ⟨m, ms, hms⟩ := List.exists_cons_of_ne_nil (sextets_ne_nil hrest)
      have ih := ih hrest (offset + 4)
      have hfirst := values_map hlt offset
      simp only [sextets, List.map_cons, List.map_nil] at hfirst
      rw [hms, List.map_cons] at ih
      rw [hms]
      simp only [List.map_cons, decodeFrom, hfirst, ih, ok_bind, bytesOf_three]
      rfl
  | case2 a b =>
    have hlt : ∀ n ∈ sextets [a, b], n < 64 := fun n hn => sextets_lt hn
    exact decodeLast_map hlt (Nat.le_of_ble_eq_true rfl) (bytesOf_two a b) offset
  | case3 a =>
    have hlt : ∀ n ∈ sextets [a], n < 64 := fun n hn => sextets_lt hn
    exact decodeLast_map hlt (Nat.le_of_ble_eq_true rfl) (bytesOf_one a) offset
  | case4 => exact absurd rfl h

/-- The text of some bytes is decoded to these bytes. -/
theorem decode_encode (bytes : List UInt8) :
    decode (Utf8.encode (String.ofList (encode bytes))) = .ok bytes := by
  rw [utf8_encode]
  by_cases hnil : bytes = []
  · rw [hnil]
    rfl
  · have hne : (sextets bytes).map symbolByte ≠ [] := by simpa using sextets_ne_nil hnil
    have hlast := List.getLast_mem hne
    obtain ⟨n, hn, heq⟩ := List.mem_map.1 hlast
    rw [decode, List.getLast?_eq_getLast_of_ne_nil hne]
    dsimp only
    rw [← heq, value?_symbolByte (sextets_lt hn), if_neg (by simp)]
    exact decodeFrom_sextets hnil 0

theorem encode_inj {bytes bytes' : List UInt8} :
    encode bytes = encode bytes' ↔ bytes = bytes' := by
  refine ⟨fun h => ?_, congrArg encode⟩
  have hdecode := decode_encode bytes
  rw [h, decode_encode] at hdecode
  exact (Except.ok.inj hdecode).symm

end RestKit.Base64
