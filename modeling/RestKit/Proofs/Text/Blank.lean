import Mathlib.Data.List.DropRight
import RestKit.Text.Blank
/-!
# Cuts of a text

What `splitOn`, `words` and `trim` give. A part of a text between separators holds none; words are
not empty and hold no blank, and two words with a blank in between are cut into these two; a text
that was trimmed has nothing more to trim, and blanks around a text do not change what is left.
-/
namespace RestKit.Text

variable {s part w a b : String} {sep : Char}

/-! ## Parts -/

theorem splitChars_eq (p : Char → Bool) (cs : List Char) : splitChars p cs = cs.splitOnP p := by
  induction cs with
  | nil => rfl
  | cons c cs ih =>
    obtain ⟨w, ws, h⟩ := List.exists_cons_of_ne_nil (List.splitOnP_ne_nil p cs)
    rw [splitChars, List.splitOnP_cons_eq_if_modifyHead, ih, h]
    rfl

/-- A piece between separators holds no separator, and only characters of the text. -/
theorem of_mem_splitChars {p : Char → Bool} {cs w : List Char} (h : w ∈ splitChars p cs) :
    ∀ c ∈ w, p c = false ∧ c ∈ cs := by
  induction cs generalizing w with
  | nil =>
    rw [List.mem_singleton.1 h]
    exact nofun
  | cons d cs ih =>
    obtain ⟨v, vs, hv⟩ := List.exists_cons_of_ne_nil (List.splitOnP_ne_nil p cs)
    rw [← splitChars_eq] at hv
    have htail : ∀ w ∈ splitChars p cs, ∀ c ∈ w, p c = false ∧ c ∈ d :: cs := fun w hw c hc =>
      ⟨(ih hw c hc).1, List.mem_cons_of_mem _ (ih hw c hc).2⟩
    rw [splitChars] at h
    split at h
    · rcases List.mem_cons.1 h with rfl | h
      · exact nofun
      · exact htail w h
    · rename_i hd
      rw [hv] at h htail
      rcases List.mem_cons.1 h with rfl | h
      · intro c hc
        rcases List.mem_cons.1 hc with rfl | hc
        · exact ⟨by simpa using hd, List.mem_cons_self ..⟩
        · exact htail v (List.mem_cons_self ..) c hc
      · exact htail w (List.mem_cons_of_mem _ h)

theorem splitOn_of_notMem (h : sep ∉ s.toList) : splitOn sep s = [s] := by
  have hsep : ∀ c ∈ s.toList, decide (c = sep) = false := fun c hc =>
    decide_eq_false fun heq => h (heq ▸ hc)
  rw [splitOn, splitChars_eq, List.splitOnP_eq_singleton hsep, List.map_singleton,
    String.ofList_toList]

theorem notMem_of_mem_splitOn (h : part ∈ splitOn sep s) : sep ∉ part.toList := by
  obtain ⟨cs, hcs, rfl⟩ := List.mem_map.1 h
  rw [String.toList_ofList]
  intro hsep
  simpa using (of_mem_splitChars hcs sep hsep).1

/-- A text is cut at the first separator. -/
theorem splitOnce_eq_some (hs : s.toList = a.toList ++ sep :: b.toList) (h : sep ∉ a.toList) :
    splitOnce sep s = some (a, b) := by
  have hfront : ∀ c ∈ a.toList, decide (c ≠ sep) = true := fun c hc =>
    decide_eq_true fun heq => h (heq ▸ hc)
  rw [splitOnce, hs, List.dropWhile_append_of_pos hfront, List.takeWhile_append_of_pos hfront]
  simp

/-! ## Words -/

/-- A text that is not empty and holds no blank. -/
def IsWord (s : String) : Prop := s ≠ "" ∧ ∀ c ∈ s.toList, isBlank c = false

instance (s : String) : Decidable (IsWord s) :=
  decidable_of_bool (s != "" && s.toList.all fun c => !isBlank c) (by simp [IsWord])

theorem isWord_of_mem_words (h : w ∈ words s) : IsWord w ∧ ∀ c ∈ w.toList, c ∈ s.toList := by
  obtain ⟨cs, hcs, rfl⟩ := List.mem_map.1 h
  obtain ⟨hpiece, hne⟩ := List.mem_filter.1 hcs
  rw [IsWord, String.toList_ofList]
  refine ⟨⟨?_, fun c hc => (of_mem_splitChars hpiece c hc).1⟩,
    fun c hc => (of_mem_splitChars hpiece c hc).2⟩
  rintro heq
  rw [← String.toList_inj, String.toList_ofList] at heq
  rw [heq] at hne
  cases hne

/-- Two words with a blank in between are cut into these two. -/
theorem words_pair (ha : IsWord a) (hb : IsWord b) : words (a ++ " " ++ b) = [a, b] := by
  have hlist : (a ++ " " ++ b).toList = a.toList ++ ' ' :: b.toList := by simp
  have hne : ∀ {s : String}, IsWord s → s.toList.isEmpty = false := fun h => by
    simpa using h.1
  have hcut : splitChars isBlank (a ++ " " ++ b).toList = [a.toList, b.toList] := by
    rw [hlist, splitChars_eq, List.splitOnP_append_cons_of_forall_mem ha.2 ' ' (by decide),
      List.splitOnP_eq_singleton hb.2]
  rw [words, hcut]
  simp [hne ha, hne hb]

/-! ## Trimmed texts -/

theorem trimChars_eq (cs : List Char) :
    trimChars cs = List.rdropWhile isBlank (cs.dropWhile isBlank) := rfl

theorem dropWhile_rdropWhile {p : Char → Bool} {cs : List Char} (h : cs.dropWhile p = cs) :
    (List.rdropWhile p cs).dropWhile p = List.rdropWhile p cs := by
  rw [List.dropWhile_eq_self_iff] at h ⊢
  intro hpos
  rw [(List.rdropWhile_prefix p cs).getElem hpos]
  exact h _

theorem trimChars_trimChars (cs : List Char) : trimChars (trimChars cs) = trimChars cs := by
  rw [trimChars_eq, trimChars_eq, dropWhile_rdropWhile (List.dropWhile_idempotent _ _),
    List.rdropWhile_idempotent]

/-- A text that was trimmed has nothing more to trim. -/
theorem trim_trim (s : String) : trim (trim s) = trim s := by
  rw [trim, trim, String.toList_ofList, trimChars_trimChars]

/-- A text without blanks has nothing to trim. -/
theorem trim_eq_self (h : ∀ c ∈ s.toList, isBlank c = false) : trim s = s := by
  have hfront : s.toList.dropWhile isBlank = s.toList :=
    List.dropWhile_eq_self_iff.2 fun hpos => by simp [h _ (List.getElem_mem hpos)]
  have hback : List.rdropWhile isBlank s.toList = s.toList :=
    List.rdropWhile_eq_self_iff.2 fun hne => by simp [h _ (List.getLast_mem hne)]
  rw [trim, trimChars_eq, hfront, hback, String.ofList_toList]

/-- A trimmed text does not start with a blank. -/
theorem isBlank_head_trim {c : Char} (h : (trim s).toList.head? = some c) : isBlank c = false := by
  rw [trim, String.toList_ofList, trimChars_eq] at h
  have hdrop := dropWhile_rdropWhile (List.dropWhile_idempotent isBlank s.toList)
  rw [List.dropWhile_eq_self_iff] at hdrop
  generalize List.rdropWhile isBlank (List.dropWhile isBlank s.toList) = cs at h hdrop
  cases cs with
  | nil => cases h
  | cons d cs =>
    cases h
    simpa using hdrop (Nat.succ_pos _)

/-- A trimmed text does not end with a blank. -/
theorem isBlank_getLast_trim {c : Char} (h : (trim s).toList.getLast? = some c) :
    isBlank c = false := by
  rw [trim, String.toList_ofList, trimChars_eq] at h
  have hne : List.rdropWhile isBlank (List.dropWhile isBlank s.toList) ≠ [] := by
    intro hnil
    simp [hnil] at h
  rw [List.getLast?_eq_getLast_of_ne_nil hne, Option.some.injEq] at h
  have hlast := List.rdropWhile_last_not isBlank _ hne
  rw [h] at hlast
  simpa using hlast

/-- Nothing is left of a text by trimming exactly if it is blank. -/
theorem trim_eq_empty_iff : trim s = "" ↔ isBlankText s = true := by
  rw [trim, ← String.toList_inj, String.toList_ofList, isBlankText, List.all_eq_true, trimChars_eq]
  change List.rdropWhile isBlank _ = [] ↔ _
  rw [List.rdropWhile_eq_nil_iff]
  constructor
  · intro h c hc
    rw [← List.takeWhile_append_dropWhile (p := isBlank) (l := s.toList)] at hc
    rcases List.mem_append.1 hc with hc | hc
    · exact List.mem_takeWhile_imp hc
    · exact h c hc
  · exact fun h c hc => h c (List.dropWhile_subset _ hc)

/-- Blanks around a text are trimmed away with those at its ends. -/
theorem trim_padded {before behind : String} (hbefore : isBlankText before = true)
    (hbehind : isBlankText behind = true) : trim (before ++ s ++ behind) = trim s := by
  rw [isBlankText, List.all_eq_true] at hbefore hbehind
  have hlist : (before ++ s ++ behind).toList = before.toList ++ (s.toList ++ behind.toList) := by
    simp
  have hright : ∀ cs : List Char,
      List.rdropWhile isBlank (cs ++ behind.toList) = List.rdropWhile isBlank cs := by
    intro cs
    have hreverse : ∀ c ∈ behind.toList.reverse, isBlank c = true := fun c hc =>
      hbehind c (List.mem_reverse.1 hc)
    rw [List.rdropWhile, List.reverse_append, List.dropWhile_append_of_pos hreverse,
      List.rdropWhile]
  rw [trim, trim, hlist, trimChars_eq, trimChars_eq, List.dropWhile_append_of_pos hbefore,
    List.dropWhile_append]
  split
  · rename_i hempty
    rw [List.isEmpty_iff.1 hempty, List.dropWhile_eq_nil_iff.2 hbehind]
  · rw [hright]

end RestKit.Text
