/-!
# UUIDs

The written forms of a UUID: 32 hexadecimal digits, or five groups of them joined by hyphens, the
latter also in braces or behind `urn:uuid:`. A `Uuid` is one in the hyphenated form, in which new
ones are written.
-/
namespace RestKit.Text

def isHexDigit (c : Char) : Bool :=
  c.isDigit || ('a' ≤ c && c ≤ 'f') || ('A' ≤ c && c ≤ 'F')

/-- Groups of 8, 4, 4, 4 and 12 digits, joined by hyphens. -/
def isHyphenated (cs : List Char) : Bool :=
  cs.length = 36 &&
    (cs.zipIdx.all fun (c, i) =>
      if i = 8 ∨ i = 13 ∨ i = 18 ∨ i = 23 then c = '-' else isHexDigit c)

def isUuid (s : String) : Bool :=
  let cs := s.toList
  if s.utf8ByteSize = 32 then cs.all isHexDigit
  else if s.utf8ByteSize = 38 then
    cs.head? == some '\x7b' && cs.getLast? == some '\x7d' && isHyphenated (cs.drop 1).dropLast
  else if s.utf8ByteSize = 45 then cs.take 9 == "urn:uuid:".toList && isHyphenated (cs.drop 9)
  else isHyphenated cs

/-! ## UUIDs of numbers -/

/-- The last `width` hexadecimal digits of a number, with leading zeros. -/
def hexDigits : (width n : Nat) → List Char
  | 0, _ => []
  | width + 1, n => hexDigits width (n / 16) ++ [Nat.digitChar (n % 16)]

theorem length_hexDigits (width n : Nat) : (hexDigits width n).length = width := by
  induction width generalizing n with
  | zero => rfl
  | succ width ih => rw [hexDigits, List.length_append, ih, List.length_singleton]

theorem isHexDigit_digitChar : ∀ d < 16, isHexDigit (Nat.digitChar d) = true := by decide

theorem isHexDigit_of_mem {width n : Nat} {c : Char} (h : c ∈ hexDigits width n) :
    isHexDigit c = true := by
  induction width generalizing n with
  | zero => cases h
  | succ width ih =>
    rw [hexDigits, List.mem_append, List.mem_singleton] at h
    rcases h with h | rfl
    · exact ih h
    · exact isHexDigit_digitChar _ (Nat.mod_lt n (by decide))

/-- The hyphenated text of a 128-bit number. -/
def uuidText (n : Nat) : String :=
  String.ofList (['-'].intercalate ([(8, 96), (4, 80), (4, 64), (4, 48), (12, 0)].map
    fun (width, shift) => hexDigits width (n >>> shift)))

/-- A group of digits stands where no hyphen is due. -/
theorem all_zipIdx_hexDigits {width n k : Nat}
    (hk : ∀ i, k ≤ i → i < k + width → ¬ (i = 8 ∨ i = 13 ∨ i = 18 ∨ i = 23)) :
    (((hexDigits width n).zipIdx k).all fun (c, i) =>
      if i = 8 ∨ i = 13 ∨ i = 18 ∨ i = 23 then c = '-' else isHexDigit c) = true := by
  refine List.all_eq_true.2 fun (c, i) hmem => ?_
  obtain ⟨hle, hlt, hc⟩ := List.mem_zipIdx hmem
  rw [length_hexDigits] at hlt
  simp only [if_neg (hk i hle hlt)]
  rw [hc]
  exact isHexDigit_of_mem (List.getElem_mem _)

theorem isHyphenated_uuidText (n : Nat) : isHyphenated (uuidText n).toList = true := by
  rw [uuidText, String.toList_ofList, isHyphenated, Bool.and_eq_true]
  simp only [List.intercalate, List.map_cons, List.map_nil, List.intersperse, List.flatten_cons,
    List.flatten_nil, List.append_nil, List.cons_append, List.nil_append, List.zipIdx_append,
    List.zipIdx_cons, List.all_append, List.all_cons, List.length_append, List.length_cons,
    length_hexDigits, Bool.and_eq_true, decide_eq_true_eq]
  refine ⟨trivial, ?_, rfl, ?_, rfl, ?_, rfl, ?_, rfl, ?_⟩ <;>
    exact all_zipIdx_hexDigits fun i _ _ => by omega

/-- A UUID in its hyphenated form. -/
structure Uuid where
  text : String
  hyphenated : isHyphenated text.toList = true
deriving DecidableEq, Repr

/-- The UUID of a 128-bit number. -/
def Uuid.ofNat (n : Nat) : Uuid := ⟨uuidText n, isHyphenated_uuidText n⟩

end RestKit.Text
