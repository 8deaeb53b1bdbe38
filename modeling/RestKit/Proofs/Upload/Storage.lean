import RestKit.Proofs.Text.Ascii
import RestKit.Upload.Policy
import RestKit.Upload.Storage
import Mathlib.Data.List.TakeWhile
/-!
# What is on the disk

Each operation of a storage changes what is at one path at most (`ChangedAt`); what is there
afterwards is said by one lemma for each operation. New files stand at paths made of a directory, a
name of the supply and an extension, and different names give different paths (`filePath_inj`).
-/
namespace RestKit.Upload

namespace Storage

variable {s s' s'' : Storage} {path other : String} {bytes : List UInt8}

/-! ## Contents -/

theorem lookup_filter_ne (files : List (String × List UInt8)) (path other : String) :
    (files.filter (·.1 != path)).lookup other =
      if other = path then none else files.lookup other := by
  induction files with
  | nil => simp
  | cons f files ih =>
    by_cases hf : f.1 = path
    · rw [List.filter_cons_of_neg (by simp [hf]), ih]
      split
      · rfl
      · rename_i hne
        rw [List.lookup_cons, beq_eq_false_iff_ne.2 (fun h => hne (h.trans hf))]
    · rw [List.filter_cons_of_pos (by simp [hf]), List.lookup_cons, ih, List.lookup_cons]
      by_cases ho : other = f.1
      · subst ho
        simp [hf]
      · simp [beq_eq_false_iff_ne.2 ho]

theorem lookup_setContent (files : List (String × List UInt8)) :
    (setContent path bytes files).lookup other =
      if other = path then some bytes else files.lookup other := by
  by_cases h : other = path
  · rw [if_pos h, h, setContent, List.lookup_cons_self]
  · rw [if_neg h, setContent, List.lookup_cons, beq_eq_false_iff_ne.2 h, lookup_filter_ne,
      if_neg h]

theorem content_remove :
    (s.remove path).content? other = if other = path then none else s.content? other :=
  lookup_filter_ne s.files path other

theorem content_removeAll {paths : List String} :
    (s.removeAll paths).content? other = if other ∈ paths then none else s.content? other := by
  induction paths generalizing s with
  | nil => rw [if_neg List.not_mem_nil]; rfl
  | cons p ps ih =>
    have hstep : s.removeAll (p :: ps) = (s.remove p).removeAll ps := rfl
    rw [hstep, ih, content_remove]
    simp only [List.mem_cons]
    split_ifs <;> simp_all

/-! ## Operations -/

/-- What is at other paths, and the supply of names, is as it was. -/
structure ChangedAt (path : String) (s s' : Storage) : Prop where
  names : s'.names = s.names
  named : s'.named = s.named
  others : ∀ other, other ≠ path → s'.content? other = s.content? other

theorem ChangedAt.refl : ChangedAt path s s := ⟨rfl, rfl, fun _ _ => rfl⟩

theorem ChangedAt.trans (h : ChangedAt path s s') (h' : ChangedAt path s' s'') :
    ChangedAt path s s'' where
  names := h'.names.trans h.names
  named := h'.named.trans h.named
  others other hne := (h'.others other hne).trans (h.others other hne)

/-- An operation either fails and changes no file, or is done. -/
theorem attempt_cases {f : List (String × List UInt8) → List (String × List UInt8)} {done : Bool}
    (h : s.attempt f = (done, s')) :
    s'.names = s.names ∧ s'.named = s.named ∧ s'.files = if done then f s.files else s.files := by
  unfold attempt at h
  split at h <;> cases h <;> exact ⟨rfl, rfl, rfl⟩

theorem changedAt_of_attempt {f : List (String × List UInt8) → List (String × List UInt8)}
    {done : Bool} (h : s.attempt f = (done, s'))
    (hf : ∀ other, other ≠ path → (f s.files).lookup other = s.files.lookup other) :
    ChangedAt path s s' := by
  obtain ⟨hnames, hnamed, hfiles⟩ := attempt_cases h
  refine ⟨hnames, hnamed, fun other hne => ?_⟩
  rw [content?, hfiles]
  cases done
  · rfl
  · exact hf other hne

theorem changedAt_setContent {done : Bool}
    {g : List (String × List UInt8) → List UInt8}
    (h : s.attempt (fun files => setContent path (g files) files) = (done, s')) :
    ChangedAt path s s' :=
  changedAt_of_attempt h fun _ hne => by rw [lookup_setContent, if_neg hne]

theorem create_changedAt {done : Bool} (h : s.create path = (done, s')) : ChangedAt path s s' :=
  changedAt_setContent (g := fun _ => []) h

theorem append_changedAt {done : Bool} (h : s.append path bytes = (done, s')) :
    ChangedAt path s s' :=
  changedAt_setContent (g := fun files => (files.lookup path).getD [] ++ bytes) h

theorem flush_changedAt {done : Bool} (h : s.flush = (done, s')) : ChangedAt path s s' :=
  changedAt_of_attempt h fun _ _ => rfl

/-- A file that could not be created is not there unless it was before. -/
theorem content_create_failed (h : s.create path = (false, s')) :
    s'.content? other = s.content? other := by
  rw [content?, (attempt_cases h).2.2]
  rfl

theorem content_create (h : s.create path = (true, s')) : s'.content? path = some [] := by
  rw [content?, (attempt_cases h).2.2, if_pos rfl, lookup_setContent, if_pos rfl]

theorem content_append {old : List UInt8} (h : s.append path bytes = (true, s'))
    (hold : s.content? path = some old) : s'.content? path = some (old ++ bytes) := by
  have hlookup : s.files.lookup path = some old := hold
  rw [content?, (attempt_cases h).2.2, if_pos rfl, lookup_setContent, if_pos rfl, hlookup]
  rfl

theorem content_flush (h : s.flush = (true, s')) : s'.content? other = s.content? other := by
  rw [content?, (attempt_cases h).2.2]
  rfl

end Storage

/-! ## Paths of new files -/

/-- Where a new file stands. -/
def filePath (directory : String) (name : Text.Uuid) (extension : String) : String :=
  joined directory (name.text ++ "." ++ extension)

theorem no_dot_of_extensionOf {fileName extension : String}
    (h : extensionOf fileName = some extension) : '.' ∉ extension.toList := by
  simp only [extensionOf] at h
  split at h
  · cases h
  · obtain rfl := Option.some.inj h
    intro hmem
    simp only [Text.asciiLower, String.toList_ofList, List.mem_map, List.mem_reverse] at hmem
    obtain ⟨c, hc, hdot⟩ := hmem
    exact absurd (Text.eq_of_toLower (by decide) hdot) (by simpa using List.mem_takeWhile_imp hc)

/-- Behind the last dot there is no dot, so it ends the stem. -/
theorem append_dot_inj {as bs xs ys : List Char} (hx : '.' ∉ xs) (hy : '.' ∉ ys)
    (h : as ++ '.' :: xs = bs ++ '.' :: ys) : as = bs := by
  rcases List.append_eq_append_iff.1 h with ⟨cs, rfl, hcs⟩ | ⟨cs, rfl, hcs⟩
  · cases cs with
    | nil => exact (List.append_nil as).symm
    | cons c cs =>
      obtain ⟨-, rfl⟩ := List.cons.inj hcs
      exact absurd (by simp) hx
  · cases cs with
    | nil => exact List.append_nil bs
    | cons c cs =>
      obtain ⟨-, rfl⟩ := List.cons.inj hcs
      exact absurd (by simp) hy

/-- A hyphenated name is not empty and holds nothing that a path is cut at, and no dot. -/
theorem plain_of_isHyphenated {name : String} (h : Text.isHyphenated name.toList = true) :
    name ≠ "" ∧ ∀ c ∈ name.toList, c ≠ '/' ∧ c ≠ '\\' ∧ c ≠ '.' := by
  obtain ⟨hlength, heach⟩ := (Bool.and_eq_true _ _).mp h
  refine ⟨?_, fun c hc => ?_⟩
  · rintro rfl
    cases hlength
  · obtain ⟨i, hi⟩ := List.getElem?_of_mem hc
    have hdigit := List.all_eq_true.1 heach (c, i) (List.mem_zipIdx_iff_getElem?.2 hi)
    dsimp only at hdigit
    split at hdigit
    · obtain rfl : c = '-' := of_decide_eq_true hdigit
      decide
    · refine ⟨?_, ?_, ?_⟩ <;> rintro rfl <;> cases hdigit

/-- A name that starts with a UUID does not start at the root. -/
theorem startsWith_of_isHyphenated {name : String} (h : Text.isHyphenated name.toList = true)
    (extension : String) : Text.startsWith '/' (name ++ "." ++ extension) = false := by
  obtain ⟨hempty, hplain⟩ := plain_of_isHyphenated h
  obtain ⟨c, cs, hcs⟩ : ∃ c cs, name.toList = c :: cs :=
    List.exists_cons_of_ne_nil fun h => hempty (String.toList_inj.1 h)
  have hfirst := (hplain c (by simp [hcs])).1
  simp [Text.startsWith, hcs, hfirst]

/-- A name that does not start at the root stands behind the directory and a slash. -/
theorem joined_of_not_root {directory name : String} (h : Text.startsWith '/' name = false) :
    joined directory name =
      if directory.toList.getLast?.all (· = '/') then directory ++ name
      else directory ++ "/" ++ name :=
  if_neg (by simp [h])

theorem joined_inj {directory name name' : String} (h : Text.startsWith '/' name = false)
    (h' : Text.startsWith '/' name' = false)
    (hpath : joined directory name = joined directory name') : name = name' := by
  rw [joined_of_not_root h, joined_of_not_root h'] at hpath
  split at hpath
  · exact String.append_right_inj _ |>.1 hpath
  · exact String.append_right_inj _ |>.1 hpath

theorem filePath_inj {directory extension extension' : String} {name name' : Text.Uuid}
    (hext : '.' ∉ extension.toList) (hext' : '.' ∉ extension'.toList)
    (h : filePath directory name extension = filePath directory name' extension') :
    name = name' := by
  have hstored : name.text ++ "." ++ extension = name'.text ++ "." ++ extension' :=
    joined_inj (startsWith_of_isHyphenated name.hyphenated _)
      (startsWith_of_isHyphenated name'.hyphenated _) h
  have hchars := congrArg String.toList hstored
  simp only [String.toList_append, List.append_assoc] at hchars
  have htext : name.text = name'.text :=
    String.toList_injective (append_dot_inj hext hext' hchars)
  cases name
  cases name'
  cases htext
  rfl

end RestKit.Upload
