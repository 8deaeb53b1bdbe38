import RestKit.Proofs.Json.Entries
import RestKit.Proofs.Json.Tokens
/-!
# Objects, written and read

An object of strings and integers that is written is read as the record that its entries make
(`readAs_object`): a known entry's value is read as the shape of its field, and an entry without a
field is passed over.
-/
namespace RestKit.Json

open Cursor

/-! ## Values -/

/-- A string, or an integer of 64 bits with or without a sign. -/
inductive Readable : Json → Prop where
  | string (s : String) : Readable (.string s)
  | int (n : Int) (hlow : -9223372036854775808 ≤ n) (hhigh : n < 18446744073709551616) :
    Readable (.int n)

/-- Shapes that such values are read as. -/
inductive Suits : Shape → Json → Prop where
  | text (s : String) : Suits .text (.string s)
  | int64 (n : Int) (hlow : -9223372036854775808 ≤ n) (hhigh : n ≤ 9223372036854775807) :
    Suits .int64 (.int n)
  | any (v : Json) : Suits (.option .any) v

/-- The text of a value, as bytes. -/
def bytesOf (v : Json) : List UInt8 := Utf8.encode v.compact

section

variable {c : Cursor} {v : Json} {s : Shape} {n : Int} {fuel depth : Nat} {rest : List UInt8}

/-- A digit starts a number and nothing else. -/
theorem ne_of_isDigit {b : UInt8} (hb : isDigit b = true) :
    isBlank b = false ∧ b ≠ 110 ∧ b ≠ 116 ∧ b ≠ 102 ∧ b ≠ 45 ∧ b ≠ 34 := by
  have hall : ∀ n : Fin 256, isDigit (UInt8.ofNat n) = true → isBlank (UInt8.ofNat n) = false ∧
      UInt8.ofNat n ≠ 110 ∧ UInt8.ofNat n ≠ 116 ∧ UInt8.ofNat n ≠ 102 ∧ UInt8.ofNat n ≠ 45 ∧
      UInt8.ofNat n ≠ 34 := by
    decide +kernel
  have h := hall ⟨b.toNat, b.toNat_lt⟩
  rw [UInt8.ofNat_toNat] at h
  exact h hb

theorem bytesOf_string (t : String) : bytesOf (.string t) = 34 :: (escapedText t.toList ++ [34]) :=
  encode_quoted t

/-- What is left behind the opening quote of a string. -/
theorem rest_quoted {t : String} (hc : c.rest = 34 :: (escapedText t.toList ++ [34]) ++ rest) :
    c.peek = some 34 ∧ c.advance.rest = escapedText t.toList ++ 34 :: rest := by
  rw [List.cons_append, List.append_assoc] at hc
  exact ⟨peek_eq hc, rest_advance hc⟩

/-- An integer starts with its sign or with a digit. -/
theorem int_cases (hc : c.rest = bytesOf (.int n) ++ rest) :
    (n < 0 ∧ c.peek = some 45 ∧ c.advance.rest = digits (-n).toNat ++ rest) ∨
      (0 ≤ n ∧ c.rest = digits n.toNat ++ rest ∧ ∃ b, c.peek = some b ∧ isDigit b = true) := by
  change c.rest = Utf8.encode (toString n) ++ rest at hc
  rw [encode_int] at hc
  split at hc
  · rename_i hn
    obtain ⟨b, ds, hds, hb, -⟩ := exists_digits n.toNat
    exact .inr ⟨hn, hc, b, peek_eq (by rw [hc, hds]; rfl), hb⟩
  · rename_i hn
    exact .inl ⟨Int.not_le.1 hn, peek_eq hc, rest_advance hc⟩

/-- An integer that fits is read as it is. -/
theorem numeral_int (hlow : -9223372036854775808 ≤ n) (hhigh : n < 18446744073709551616)
    (hc : c.rest = bytesOf (.int n) ++ rest) (hrest : Ends rest) :
    (c.peek = some 45 ∧ Gives (numeral false c.advance) (.int n) rest) ∨
      ∃ b, c.peek = some b ∧ isDigit b = true ∧ Gives (numeral true c) (.int n) rest := by
  rcases int_cases hc with ⟨hn, hpeek, hadvance⟩ | ⟨hn, hdigits, b, hpeek, hb⟩
  · have hread := numeral_digits false (by omega) hadvance hrest
    rw [integerOf, if_neg (by decide), if_pos (by omega), Int.toNat_of_nonneg (by omega),
      Int.neg_neg] at hread
    exact .inl ⟨hpeek, hread⟩
  · have hread := numeral_digits true (by omega) hdigits hrest
    rw [integerOf, if_pos rfl, Int.toNat_of_nonneg hn] at hread
    exact .inr ⟨b, hpeek, hb, hread⟩

theorem value_bytesOf (hv : Readable v) (hc : c.rest = bytesOf v ++ rest) (hrest : Ends rest) :
    Gives (value depth (fuel + 1) c) v rest := by
  cases hv with
  | string t =>
    obtain ⟨hpeek, hadvance⟩ := rest_quoted (bytesOf_string t ▸ hc)
    obtain ⟨c', hread, hc'⟩ := stringRest_escapedText c.advance hadvance
    refine ⟨c', ?_, hc'⟩
    unfold value
    dsimp only
    rw [skipBlanks_eq hpeek rfl, hpeek]
    simp only [hread, ok_bind]
    rfl
  | int n hlow hhigh =>
    rcases numeral_int hlow hhigh hc hrest with ⟨hpeek, c', hread, hc'⟩ |
      ⟨b, hpeek, hb, c', hread, hc'⟩
    · refine ⟨c', ?_, hc'⟩
      unfold value
      dsimp only
      rw [skipBlanks_eq hpeek rfl, hpeek]
      simp only [hread, ok_bind]
      rfl
    · obtain ⟨hblank, h110, h116, h102, h45, h34⟩ := ne_of_isDigit hb
      refine ⟨c', ?_, hc'⟩
      unfold value
      dsimp only
      rw [skipBlanks_eq hpeek hblank, hpeek]
      simp only [h110, h116, h102, h45, hb, if_true, if_false, hread, ok_bind]
      rfl

theorem skipValue_bytesOf (hv : Readable v) (hc : c.rest = bytesOf v ++ rest) (hrest : Ends rest) :
    Stops (skipValue [] (fuel + 2) c) rest := by
  -- Outside of all brackets nothing is left to pass over.
  have hmore (c : Cursor) : skipMore [] true (fuel + 1) c = .ok c := rfl
  cases hv with
  | string t =>
    obtain ⟨hpeek, hadvance⟩ := rest_quoted (bytesOf_string t ▸ hc)
    obtain ⟨c', hread, hc'⟩ := skipString_escapedText t.toList c.advance (c.rest.length + 1)
      hadvance (by rw [hc, bytesOf_string]; simp; omega)
    refine ⟨c', ?_, hc'⟩
    rw [skipValue, skipBlanks_eq hpeek rfl, hpeek]
    simp only [hread, ok_bind, hmore]
    rfl
  | int n hlow hhigh =>
    rcases int_cases hc with ⟨-, hpeek, hadvance⟩ | ⟨-, hdigits, b, hpeek, hb⟩
    · obtain ⟨c', hread, hc'⟩ := skipNumber_digits hadvance hrest
      refine ⟨c', ?_, hc'⟩
      rw [skipValue, skipBlanks_eq hpeek rfl, hpeek]
      simp only [hread, ok_bind, hmore]
      rfl
    · obtain ⟨c', hread, hc'⟩ := skipNumber_digits hdigits hrest
      obtain ⟨hblank, h110, h116, h102, h45, h34⟩ := ne_of_isDigit hb
      refine ⟨c', ?_, hc'⟩
      rw [skipValue, skipBlanks_eq hpeek hblank, hpeek]
      simp only [h110, h116, h102, h45, hb, if_true, if_false, hread, ok_bind, hmore]

/-- No value of these kinds starts with a blank or is `null`. -/
theorem peek_bytesOf (hv : Readable v) (hc : c.rest = bytesOf v ++ rest) :
    ∃ b, c.peek = some b ∧ isBlank b = false ∧ b ≠ 110 := by
  cases hv with
  | string t => exact ⟨34, (rest_quoted (bytesOf_string t ▸ hc)).1, rfl, by decide⟩
  | int n hlow hhigh =>
    rcases int_cases hc with ⟨-, hpeek, -⟩ | ⟨-, -, b, hpeek, hb⟩
    · exact ⟨45, hpeek, rfl, by decide⟩
    · exact ⟨b, hpeek, (ne_of_isDigit hb).1, (ne_of_isDigit hb).2.1⟩

theorem valueAs_bytesOf (hv : Readable v) (hs : Suits s v) (hc : c.rest = bytesOf v ++ rest)
    (hrest : Ends rest) : Gives (valueAs depth s (fuel + 3) c) v rest := by
  obtain ⟨b, hpeek, hblank, hnull⟩ := peek_bytesOf hv hc
  unfold valueAs
  dsimp only
  rw [skipBlanks_eq hpeek hblank]
  cases hs with
  | text t =>
    obtain ⟨hquote, hadvance⟩ := rest_quoted (bytesOf_string t ▸ hc)
    obtain ⟨c', hread, hc'⟩ := stringRest_escapedText c.advance hadvance
    refine ⟨c', ?_, hc'⟩
    dsimp only
    rw [hquote]
    simp only [hread, ok_bind, if_true]
    rfl
  | int64 n hlow hhigh =>
    have hfit (c : Cursor) : mismatchAt c (Shape.int64.fitNumber (.int n)) = .ok (.int n) := by
      rw [Shape.fitNumber, Shape.fitInt, if_pos ⟨hlow, hhigh⟩]
      rfl
    dsimp only
    rcases numeral_int hlow (by omega) hc hrest with ⟨hminus, c', hread, hc'⟩ |
      ⟨b, hpeek, hb, c', hread, hc'⟩
    · refine ⟨c', ?_, hc'⟩
      rw [hminus]
      simp only [numberAs, hminus, hread, ok_bind, hfit, decide_true, Bool.true_or, if_true]
      rfl
    · have hne : ¬ some b = some 45 := by simpa using (ne_of_isDigit hb).2.2.2.2.1
      refine ⟨c', ?_, hc'⟩
      rw [hpeek]
      simp only [numberAs, hpeek, hread, ok_bind, hfit, hb, Bool.or_true, if_true, if_neg hne]
      rfl
  | any =>
    have hread : Gives (value depth (fuel + 1) c) v rest := value_bytesOf hv hc hrest
    have hany : valueAs depth .any (fuel + 2) c = value depth (fuel + 1) c := by
      unfold valueAs
      dsimp only
      rw [skipBlanks_eq hpeek hblank]
    dsimp only
    rw [hpeek, if_neg (by simpa using hnull), hany]
    exact hread

end

/-! ## Objects -/

/-- The text of the entries of an object, as bytes; a comma stands in front of each but the
first. -/
def entriesText (first : Bool) : List (String × Json) → List UInt8
  | [] => []
  | (k, v) :: es =>
    (if first then [] else [44]) ++
      34 :: (escapedText k.toList ++ 34 :: 58 :: (bytesOf v ++ entriesText false es))

theorem encode_compactEntries (es : List (String × Json)) :
    Utf8.encode (compactEntries es) = entriesText true es := by
  have hcolon : Utf8.encode ":" = [58] := by decide +kernel
  have hcomma : Utf8.encode "," = [44] := by decide +kernel
  induction es with
  | nil => exact Utf8.encode_ofList []
  | cons e es ih =>
    obtain ⟨k, v⟩ := e
    cases es with
    | nil =>
      simp only [compactEntries, Utf8.encode_append, encode_quoted, hcolon, entriesText, if_true,
        bytesOf, List.nil_append, List.append_nil, List.cons_append, List.append_assoc]
    | cons e es =>
      have hfirst : entriesText true ((k, v) :: e :: es) = 34 :: (escapedText k.toList ++
          34 :: 58 :: (bytesOf v ++ 44 :: entriesText true (e :: es))) := rfl
      rw [compactEntries, Utf8.encode_append, ih, hfirst]
      simp only [Utf8.encode_append, encode_quoted, hcolon, hcomma, bytesOf, List.nil_append,
        List.cons_append, List.append_assoc]

theorem bytesOf_object (es : List (String × Json)) :
    bytesOf (.object es) = 123 :: (entriesText true es ++ [125]) := by
  have hopen : Utf8.encode "\x7b" = [123] := by decide +kernel
  have hclose : Utf8.encode "\x7d" = [125] := by decide +kernel
  rw [bytesOf, compact, Utf8.encode_append, Utf8.encode_append, encode_compactEntries, hopen,
    hclose]
  rfl

theorem length_le_entriesText (first : Bool) (es : List (String × Json)) :
    es.length ≤ (entriesText first es).length := by
  induction es generalizing first with
  | nil => exact Nat.zero_le _
  | cons e es ih =>
    have := ih false
    simp only [entriesText, List.length_append, List.length_cons]
    omega

section

variable {c : Cursor} {first : Bool} {depth : Nat} {fields : List (String × Shape × Option Json)}
  {es given out : List (String × Json)} {rest : List UInt8}

/-- What follows an entry's value belongs to no number. -/
theorem ends_entriesText : Ends (entriesText false es ++ 125 :: rest) := by
  cases es with
  | nil =>
    rintro b h
    cases h
    decide
  | cons e es =>
    rintro b h
    cases h
    decide

theorem nextKey_quote (hc : c.rest = (if first then [] else [44]) ++ 34 :: rest) :
    Gives (nextKey first c) true (34 :: rest) := by
  cases first with
  | true =>
    refine ⟨c, ?_, hc⟩
    rw [nextKey, skipBlanks_eq (peek_eq hc) rfl, peek_eq hc]
    rfl
  | false =>
    have hadvance := rest_advance hc
    refine ⟨c.advance, ?_, hadvance⟩
    rw [nextKey, skipBlanks_eq (peek_eq hc) rfl, peek_eq hc, skipBlanks_eq (peek_eq hadvance) rfl]
    dsimp only
    rw [peek_eq hadvance]
    rfl

theorem nextKey_brace (hc : c.rest = 125 :: rest) : nextKey first c = .ok (false, c) := by
  rw [nextKey, skipBlanks_eq (peek_eq hc) rfl, peek_eq hc]
  rfl

theorem colon_eq (hc : c.rest = 58 :: rest) : colon c = .ok c.advance := by
  rw [colon, skipBlanks_eq (peek_eq hc) rfl, peek_eq hc]
  rfl

/-- The entries that a record has fields for. -/
def known (fields : List (String × Shape × Option Json)) (es : List (String × Json)) :
    List (String × Json) :=
  es.filter fun e => (lookup fields e.1).isSome

/-- The entries of an object are read field by field, and those without a field are passed over. -/
theorem fieldsAs_entriesText {fuel : Nat} (hes : ∀ e ∈ es, Readable e.2)
    (hsuits : ∀ e ∈ es, ∀ s d, lookup fields e.1 = some (s, d) → Suits s e.2)
    (hdistinct : (es.map (·.1)).Nodup) (hgiven : ∀ e ∈ es, lookup given e.1 = none)
    (hfuel : es.length + 3 < fuel) (hc : c.rest = entriesText first es ++ 125 :: rest) :
    Gives (fieldsAs depth fields given first fuel c) (given ++ known fields es) rest := by
  induction es generalizing given first fuel c with
  | nil =>
    obtain ⟨m, rfl⟩ : ∃ m, fuel = m + 1 := ⟨fuel - 1, by omega⟩
    refine ⟨c.advance, ?_, rest_advance hc⟩
    rw [fieldsAs, nextKey_brace hc, known, List.filter_nil, List.append_nil]
    rfl
  | cons e es ih =>
    obtain ⟨k, v⟩ := e
    obtain ⟨m, rfl⟩ : ∃ m, fuel = m + 3 + 1 := ⟨fuel - 4, by omega⟩
    obtain ⟨hv, hes⟩ := List.forall_mem_cons.1 hes
    obtain ⟨hsuit, hsuits⟩ := List.forall_mem_cons.1 hsuits
    obtain ⟨hnew, hgiven⟩ := List.forall_mem_cons.1 hgiven
    rw [List.map_cons, List.nodup_cons] at hdistinct
    rw [List.length_cons] at hfuel
    rw [entriesText, List.append_assoc, List.cons_append, List.append_assoc, List.cons_append,
      List.cons_append, List.append_assoc] at hc
    obtain ⟨c₁, hkey, hc₁⟩ := nextKey_quote hc
    obtain ⟨c₂, hname, hc₂⟩ := stringRest_escapedText c₁.advance (rest_advance hc₁)
    have hc₃ := rest_advance hc₂
    rw [fieldsAs, hkey, ok_bind]
    dsimp only
    rw [if_pos rfl, hname, ok_bind]
    dsimp only
    cases hfield : lookup fields k with
    | none =>
      have hknown : known fields ((k, v) :: es) = known fields es := by
        rw [known, List.filter_cons_of_neg (by simp [hfield]), known]
      obtain ⟨c₄, hskip, hc₄⟩ : Stops (skipValue [] (fuelFor c₂.advance.rest) c₂.advance) _ :=
        skipValue_bytesOf hv hc₃ ends_entriesText
      dsimp only
      rw [colon_eq hc₂, ok_bind, hskip, ok_bind, hknown]
      exact ih hes hsuits hdistinct.2 hgiven (by omega) hc₄
    | some field =>
      obtain ⟨s, d⟩ := field
      have hknown : known fields ((k, v) :: es) = (k, v) :: known fields es := by
        rw [known, List.filter_cons_of_pos (by simp [hfield]), known]
      obtain ⟨c₄, hread, hc₄⟩ : Gives (valueAs depth s (m + 3) c₂.advance) v _ :=
        valueAs_bytesOf hv (hsuit s d hfield) hc₃ ends_entriesText
      have hgiven' : ∀ e ∈ es, lookup (given ++ [(k, v)]) e.1 = none := fun e he =>
        lookup_concat (hgiven e he) fun heq => hdistinct.1 (List.mem_map.2 ⟨e, he, heq⟩)
      have hrest : Gives (fieldsAs depth fields (given ++ [(k, v)]) false (m + 3) c₄) _ rest :=
        ih hes hsuits hdistinct.2 hgiven' (by omega) hc₄
      dsimp only
      rw [hnew, if_neg (by simp), colon_eq hc₂, ok_bind, hread, ok_bind, hknown]
      rw [List.append_assoc] at hrest
      exact hrest

/-- An object is read as the record that its entries make. -/
theorem readAs_object {name : String} (hes : ∀ e ∈ es, Readable e.2)
    (hsuits : ∀ e ∈ es, ∀ s d, lookup fields e.1 = some (s, d) → Suits s e.2)
    (hdistinct : (es.map (·.1)).Nodup)
    (hcomplete : Shape.complete fields (known fields es) = .ok out) :
    readAs (.record name fields) (bytesOf (.object es)) = .ok (ofPairs out) := by
  obtain ⟨m, hm⟩ : ∃ m, fuelFor (bytesOf (.object es)) = m + 1 := ⟨_, rfl⟩
  have hfuel : es.length + 3 < m := by
    have := length_le_entriesText true es
    rw [fuelFor, bytesOf_object] at hm
    simp only [List.length_cons, List.length_append] at hm
    omega
  have hc : (start (bytesOf (.object es))).rest = 123 :: (entriesText true es ++ [125]) :=
    bytesOf_object es
  obtain ⟨c', hread, hc'⟩ : Gives (fieldsAs 126 fields [] true m _) _ [] :=
    fieldsAs_entriesText hes hsuits hdistinct (fun _ _ => rfl) hfuel (rest_advance hc)
  have hvalue : valueAs depthLimit (.record name fields) (fuelFor (bytesOf (.object es)))
      (start (bytesOf (.object es))) = .ok (ofPairs out, c') := by
    rw [hm]
    unfold valueAs depthLimit
    dsimp only
    rw [skipBlanks_eq (peek_eq hc) rfl, peek_eq hc]
    dsimp only
    rw [if_pos rfl, hread, ok_bind]
    dsimp only
    rw [List.nil_append, hcomplete]
    rfl
  rw [readAs, hvalue, finish]
  have hblank : c'.skipBlanks = c' := by
    rw [skipBlanks, hc']
    rfl
  rw [hblank, peek, hc']
  rfl

end
end RestKit.Json
