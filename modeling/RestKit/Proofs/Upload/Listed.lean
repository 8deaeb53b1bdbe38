import RestKit.Upload.Guard
import RestKit.Proofs.Upload.Received
/-!
# The list of received files

What is listed, whatever names the supply of the storage gives, and be it one name twice: the files
were created, they keep the rules of the policy, and all other paths are as they were. `Listed` is
carried along the parts (`takeParts_listed`). A guard made of the list holds all that was created.
-/
namespace RestKit.Upload

open Http (Multipart Part)

/-- A file keeps the rules of its field. -/
structure FileFits (policy : Policy) (f : File) : Prop where
  /-- A policy with rules for some fields takes files in these alone. -/
  configured : policy.fields ≠ [] → (policy.field? f.fieldName).isSome
  allowed : ∀ rules, policy.field? f.fieldName = some rules →
    rules.allowedTypes = [] ∨ f.extension ∈ rules.allowedTypes
  bounded : policy.cap f.fieldName f.extension ≠ 0 →
    f.size ≤ policy.cap f.fieldName f.extension

/-- The files of a request keep all rules of a policy. -/
structure Policy.Met (policy : Policy) (files : Files) : Prop where
  required : ∀ field rules, (field, rules) ∈ policy.fields → rules.required = true →
    Grouped.get files field ≠ []
  maxFiles : ∀ field rules, (field, rules) ∈ policy.fields → rules.maxFiles ≠ 0 →
    (Grouped.get files field).length ≤ rules.maxFiles
  each : ∀ field, ∀ f ∈ Grouped.get files field, f.fieldName = field ∧ FileFits policy f

/-- The files listed so far are those that were created, and nothing else has changed. -/
structure Listed (policy : Policy) (s : Storage) (p : Progress) (stored : List File) : Prop where
  files : p.files = Grouped.ofPairs (stored.map fun f => (f.fieldName, f))
  created : p.created = stored.map File.path
  fits : ∀ f ∈ stored, FileFits policy f
  kept : ∀ path, path ∉ p.created → p.storage.content? path = s.content? path

section

variable {policy : Policy} {limit : Nat} {s : Storage} {p p' : Progress} {part : Part}
  {parts : List Part} {stored : List File} {f : File}

theorem StoredAs.fits {disk : Storage} (h : StoredAs policy disk part f) : FileFits policy f :=
  ⟨h.configured, h.allowed, h.bounded⟩

theorem listed_nil : Listed policy s { storage := s } [] where
  files := rfl
  created := rfl
  fits _ h := by cases h
  kept _ _ := rfl

theorem Listed.puts (h : Listed policy s p stored) (hfits : FileFits policy f)
    (hputs : Puts p p' f) : Listed policy s p' (stored ++ [f]) where
  files := by rw [hputs.files, h.files, List.map_append]; exact Grouped.ofPairs_concat.symm
  created := by rw [hputs.created, h.created, List.map_append]; rfl
  fits g hg := by
    rcases List.mem_append.1 hg with hg | hg
    · exact h.fits g hg
    · rw [List.mem_singleton.1 hg]
      exact hfits
  kept path hpath := by
    rw [hputs.created, List.mem_append, List.mem_singleton, not_or] at hpath
    rw [hputs.others path hpath.2]
    exact h.kept path hpath.1

/-- A part that is no file leaves the list and the disk alone. -/
theorem takeText_listed (h : Listed policy s p stored) :
    Meets (takeText limit part p) (fun _ p' => Listed policy s p' stored) fun _ => True := by
  unfold takeText
  split
  · exact trivial
  · exact ⟨h.files, h.created, h.fits, h.kept⟩

theorem takeFile_listed {clientName : String} (hname : fileName? part = some clientName)
    (h : Listed policy s p stored) :
    Meets (takeFile policy clientName part p)
      (fun _ p' => ∃ stored, Listed policy s p' stored) fun _ => True := by
  unfold takeFile
  dsimp only
  split
  · exact trivial
  · rename_i extension hext
    split
    · exact trivial
    · rename_i hallow
      refine (storeFile_puts hname hext hallow).mono ?_ fun _ _ => trivial
      rintro - p' ⟨-, f, hstored, hputs⟩
      exact ⟨_, h.puts hstored.fits hputs⟩

/-- One part keeps the invariant. -/
theorem takePart_listed (h : Listed policy s p stored) :
    Meets (takePart policy limit p part)
      (fun _ p' => ∃ stored, Listed policy s p' stored) fun _ => True := by
  unfold takePart
  split
  · rename_i clientName hname
    exact takeFile_listed hname h
  · exact (takeText_listed h).mono (fun _ _ h => ⟨_, h⟩) fun _ _ => trivial

/-- A run over the parts keeps the invariant. -/
theorem takeParts_listed (h : Listed policy s p stored) :
    Meets (takeParts policy limit p parts)
      (fun _ p' => ∃ stored, Listed policy s p' stored) fun _ => True := by
  induction parts generalizing p stored with
  | nil => exact ⟨stored, h⟩
  | cons part rest ih =>
    refine Meets.next (takePart_listed h) ?_
    rintro p' ⟨stored', h'⟩
    exact ih h'

/-- What was received is listed, as many files in each field as it needs and may have. -/
theorem receiveAll_listed {body : Multipart} (h : receiveAll policy limit body s = (.ok (), p)) :
    (∃ stored, Listed policy s p stored) ∧ checkCounts p.files policy.fields = .ok () := by
  have hmeets : Meets (receiveAll policy limit body s)
      (fun _ p => (∃ stored, Listed policy s p stored) ∧
        checkCounts p.files policy.fields = .ok ()) fun _ => True := by
    refine (takeParts_listed listed_nil).next ?_
    rintro p hlisted
    have hcheck : (do streamFault body; checkCounts p.files policy.fields) = .ok () →
        checkCounts p.files policy.fields = .ok () := fun hok => (check_eq_ok.1 hok).2
    cases hres : (do streamFault body; checkCounts p.files policy.fields) with
    | ok u => exact ⟨hlisted, hcheck hres⟩
    | error e => trivial
  exact hmeets.of_ok h

theorem Listed.guard_perm (h : Listed policy s p stored) :
    (Guard.ofFiles p.files).paths.Perm p.created := by
  rw [h.created, h.files]
  exact (all_listed stored).map File.path

/-- The guard of the list removes what was created, and nothing else. -/
theorem Listed.content_drop (h : Listed policy s p stored) (path : String) :
    ((Guard.ofFiles p.files).drop p.storage).content? path =
      if path ∈ p.created then none else s.content? path := by
  rw [Guard.drop, Storage.content_removeAll]
  by_cases hpath : path ∈ p.created
  · rw [if_pos (h.guard_perm.mem_iff.2 hpath), if_pos hpath]
  · rw [if_neg (mt h.guard_perm.mem_iff.1 hpath), if_neg hpath, h.kept path hpath]

theorem Listed.met (h : Listed policy s p stored)
    (hcounts : checkCounts p.files policy.fields = .ok ()) : policy.Met p.files where
  required _ _ hmem := (checkCounts_eq_ok hcounts hmem).1
  maxFiles _ _ hmem := (checkCounts_eq_ok hcounts hmem).2
  each field f hf := by
    rw [h.files, get_listed, List.mem_filter] at hf
    exact ⟨of_decide_eq_true hf.2, h.fits f hf.1⟩

end

end RestKit.Upload
