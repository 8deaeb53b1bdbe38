import Mathlib.Data.List.DropRight
import RestKit.Proofs.Text.Blank
import RestKit.Proofs.Upload.Receive
import RestKit.Text.Uuid
/-!
# Names of stored files

The name of a stored file is made of a name of the supply and of the extension that the client gave
its file. An extension is not empty, holds no separator, no dot and no capital letter, so the name
leads nowhere but into the directory that it is joined to, whatever the client's name was
(`stored_names_confined`). What a reception changes on the disk it changes there (`Confined`).
-/
namespace RestKit.Upload

open Http (Multipart Part)

/-! ## Last parts -/

/-- `w` stands behind the last of the characters that `cut` holds of, or is the whole text. -/
def IsLast (cut : Char → Bool) (cs w : List Char) : Prop :=
  (∀ c ∈ w, cut c = false) ∧ (cs = w ∨ ∃ before c, cut c = true ∧ cs = before ++ c :: w)

section

variable {cut : Char → Bool} {cs w : List Char}

theorem isLast_rtakeWhile (cut : Char → Bool) (cs : List Char) :
    IsLast cut cs (cs.rtakeWhile fun c => !cut c) := by
  refine ⟨fun c hc => by simpa using List.mem_rtakeWhile_imp hc, ?_⟩
  induction cs using List.reverseRecOn with
  | nil => exact .inl rfl
  | append_singleton cs c ih =>
    by_cases hc : cut c = true
    · rw [List.rtakeWhile_concat_neg _ _ _ (by simpa using hc)]
      exact .inr ⟨cs, c, hc, rfl⟩
    · rw [List.rtakeWhile_concat_pos _ _ _ (by simpa using hc)]
      rcases ih with ih | ⟨before, d, hd, ih⟩
      · exact .inl (congrArg (· ++ [c]) ih)
      · refine .inr ⟨before, d, hd, ?_⟩
        conv_lhs => rw [ih]
        rw [List.append_assoc, List.cons_append]

theorem IsLast.eq_rtakeWhile (h : IsLast cut cs w) : w = cs.rtakeWhile fun c => !cut c := by
  obtain ⟨hw, rfl | ⟨before, c, hc, rfl⟩⟩ := h
  · exact (List.rtakeWhile_eq_self_iff.2 fun c hc => by simp [hw c hc]).symm
  · have hrev : ∀ d ∈ w.reverse, (!cut d) = true := fun d hd => by
      simp [hw d (List.mem_reverse.1 hd)]
    rw [List.rtakeWhile, List.reverse_append, List.reverse_cons, List.append_assoc,
      List.takeWhile_append_of_pos hrev, List.singleton_append,
      List.takeWhile_cons_of_neg (by simp [hc]), List.append_nil, List.reverse_reverse]

end

/-! ## Extensions -/

/-- The characters that separate the parts of a path: the slash, and on some systems the backslash
too. -/
def separates (backslash : Bool) (c : Char) : Bool := c = '/' || backslash && c = '\\'

/-- What an extension holds: nothing that a path is cut at, no dot and no capital letter. -/
structure IsExtension (extension : String) : Prop where
  not_empty : extension ≠ ""
  each : ∀ c ∈ extension.toList, c ≠ '/' ∧ c ≠ '\\' ∧ c ≠ '.' ∧ c.isUpper = false

section

variable {name extension : String} {base stem ext : List Char}

/-- The extension in terms of the base name and of what stands behind its last dot. -/
theorem extensionOf_eq (hbase : IsLast (separates true) name.toList base)
    (hext : IsLast (fun c => c = '.') base ext) :
    extensionOf name = if ext.isEmpty || base.length - ext.length < 2 then none
      else some (Text.asciiLower (String.ofList ext)) := by
  have hbaseName : baseName name.toList = base := by
    rw [hbase.eq_rtakeWhile, baseName, List.rtakeWhile]
    congr 2
    funext c
    simp [separates]
  have hafterDot : (base.reverse.takeWhile fun c => decide (c ≠ '.')).reverse = ext := by
    rw [hext.eq_rtakeWhile, List.rtakeWhile]
    congr 2
    funext c
    simp
  rw [extensionOf, hbaseName, hafterDot]

/-- A base name without a dot has no extension. -/
theorem extensionOf_of_no_dot (hbase : IsLast (separates true) name.toList base)
    (hdot : '.' ∉ base) : extensionOf name = none := by
  have hext : IsLast (fun c => c = '.') base base :=
    ⟨fun c hc => decide_eq_false fun h => hdot (h ▸ hc), .inl rfl⟩
  rw [extensionOf_eq hbase hext, if_pos (by simp)]

/-- A base name is cut at its last dot; both sides have to be there. -/
theorem extensionOf_of_dot (hbase : IsLast (separates true) name.toList (stem ++ '.' :: ext))
    (hdot : '.' ∉ ext) :
    extensionOf name = if stem = [] ∨ ext = [] then none
      else some (Text.asciiLower (String.ofList ext)) := by
  have hext : IsLast (fun c => c = '.') (stem ++ '.' :: ext) ext :=
    ⟨fun c hc => decide_eq_false fun h => hdot (h ▸ hc), .inr ⟨stem, '.', by simp, rfl⟩⟩
  have hlength : (stem ++ '.' :: ext).length - ext.length = stem.length + 1 := by
    rw [List.length_append, List.length_cons]
    omega
  rw [extensionOf_eq hbase hext, hlength]
  congr 1
  cases stem <;> cases ext <;> simp

/-- Every base name either has no dot or is cut at its last one. -/
theorem exists_base (name : String) :
    ∃ base, IsLast (separates true) name.toList base ∧
      ('.' ∉ base ∨ ∃ stem ext, base = stem ++ '.' :: ext ∧ '.' ∉ ext) := by
  refine ⟨_, isLast_rtakeWhile _ _, ?_⟩
  obtain ⟨hext, hsame | ⟨stem, c, hc, hcut⟩⟩ := isLast_rtakeWhile (fun c => decide (c = '.'))
    (name.toList.rtakeWhile fun c => !separates true c)
  · rw [← hsame] at hext
    exact .inl fun hdot => by simpa using hext _ hdot
  · obtain rfl : c = '.' := of_decide_eq_true hc
    exact .inr ⟨stem, _, hcut, fun hdot => by simpa using hext _ hdot⟩

theorem extensionOf_eq_none_iff : extensionOf name = none ↔
    ∃ base, IsLast (separates true) name.toList base ∧
      ('.' ∉ base ∨
        ∃ stem ext, base = stem ++ '.' :: ext ∧ '.' ∉ ext ∧ (stem = [] ∨ ext = [])) := by
  constructor
  · intro h
    obtain ⟨base, hbase, hdot | ⟨stem, ext, rfl, hdot⟩⟩ := exists_base name
    · exact ⟨base, hbase, .inl hdot⟩
    · refine ⟨_, hbase, .inr ⟨stem, ext, rfl, hdot, ?_⟩⟩
      by_contra hsides
      rw [extensionOf_of_dot hbase hdot, if_neg hsides] at h
      cases h
  · rintro ⟨base, hbase, hdot | ⟨stem, ext, rfl, hdot, hsides⟩⟩
    · exact extensionOf_of_no_dot hbase hdot
    · rw [extensionOf_of_dot hbase hdot, if_pos hsides]

theorem extensionOf_eq_some (h : extensionOf name = some extension) :
    ∃ stem ext, IsLast (separates true) name.toList (stem ++ '.' :: ext) ∧ '.' ∉ ext ∧ ext ≠ [] ∧
      extension = Text.asciiLower (String.ofList ext) := by
  obtain ⟨base, hbase, hdot | ⟨stem, ext, rfl, hdot⟩⟩ := exists_base name
  · rw [extensionOf_of_no_dot hbase hdot] at h
    cases h
  · rw [extensionOf_of_dot hbase hdot] at h
    split at h
    · cases h
    · rename_i hsides
      rw [not_or] at hsides
      exact ⟨stem, ext, hbase, hdot, hsides.2, (Option.some.inj h).symm⟩

theorem isExtension_of_extensionOf (h : extensionOf name = some extension) :
    IsExtension extension := by
  obtain ⟨stem, ext, hbase, hdot, hne, rfl⟩ := extensionOf_eq_some h
  have hlist : (Text.asciiLower (String.ofList ext)).toList = ext.map Char.toLower := by
    rw [Text.asciiLower, String.toList_ofList, String.toList_ofList]
  constructor
  · intro hempty
    rw [← String.toList_inj, hlist] at hempty
    exact hne (List.map_eq_nil_iff.1 hempty)
  · intro c hc
    rw [hlist] at hc
    obtain ⟨d, hd, rfl⟩ := List.mem_map.1 hc
    have hcut : separates true d = false := hbase.1 d (by simp [hd])
    refine ⟨fun h => ?_, fun h => ?_, fun h => ?_, Text.isUpper_toLower d⟩
    · simp [separates, Text.eq_of_toLower (by decide) h] at hcut
    · simp [separates, Text.eq_of_toLower (by decide) h] at hcut
    · exact hdot (Text.eq_of_toLower (by decide) h ▸ hd)

/-- What is an extension already, behind a name without separators, is the extension. -/
theorem extensionOf_stored (hname : name ≠ "")
    (hplain : ∀ c ∈ name.toList, separates true c = false) (hext : IsExtension extension) :
    extensionOf (name ++ "." ++ extension) = some extension := by
  have hlist : (name ++ "." ++ extension).toList = name.toList ++ '.' :: extension.toList := by simp
  have hbase : IsLast (separates true) (name ++ "." ++ extension).toList
      (name.toList ++ '.' :: extension.toList) := by
    refine ⟨fun c hc => ?_, .inl hlist⟩
    rw [List.mem_append, List.mem_cons] at hc
    rcases hc with hc | rfl | hc
    · exact hplain c hc
    · rfl
    · simp [separates, (hext.each c hc).1, (hext.each c hc).2.1]
  have hdot : '.' ∉ extension.toList := fun hc => (hext.each _ hc).2.2.1 rfl
  have hlower : Text.asciiLower (String.ofList extension.toList) = extension := by
    have hmap : extension.toList.map Char.toLower = extension.toList := by
      conv_rhs => rw [← List.map_id extension.toList]
      exact List.map_congr_left fun c hc => Text.toLower_of_not_upper (hext.each c hc).2.2.2
    rw [Text.asciiLower, String.toList_ofList, hmap, String.ofList_toList]
  rw [extensionOf_of_dot hbase hdot, if_neg (by simp [hname, hext.not_empty]), hlower]

end

/-! ## Paths -/

/-- The parts of a path. Empty parts and single dots lead nowhere. -/
def partsOf (backslash : Bool) (path : String) : List String :=
  ((Text.splitChars (separates backslash) path.toList).filter fun w =>
    !w.isEmpty && w != ['.']).map String.ofList

/-- A name is one part of a path, and joined to a directory it stands directly in it. -/
structure StandsIn (backslash : Bool) (directory name : String) : Prop where
  single : partsOf backslash name = [name]
  not_this : name ≠ "."
  not_parent : name ≠ ".."
  parts : partsOf backslash (joined directory name) = partsOf backslash directory ++ [name]
  root : Text.startsWith '/' (joined directory name) = Text.startsWith '/' directory

section

variable {backslash : Bool} {directory name extension : String}

theorem partsOf_slash (before behind : String) :
    partsOf backslash (before ++ "/" ++ behind) =
      partsOf backslash before ++ partsOf backslash behind := by
  have hlist : (before ++ "/" ++ behind).toList = before.toList ++ '/' :: behind.toList := by simp
  rw [partsOf, hlist, Text.splitChars_eq, List.splitOnP_append_cons _ _ (by rfl),
    List.filter_append, List.map_append, ← Text.splitChars_eq, ← Text.splitChars_eq]
  rfl

theorem partsOf_empty : partsOf backslash "" = [] := rfl

theorem partsOf_single (hplain : ∀ c ∈ name.toList, separates backslash c = false)
    (hempty : name ≠ "") (hdot : name ≠ ".") : partsOf backslash name = [name] := by
  have hkeep : (!name.toList.isEmpty && name.toList != ['.']) = true := by
    have hlist : name.toList ≠ ['.'] := fun h => hdot (String.toList_inj.1 h)
    simp [hempty, hlist]
  rw [partsOf, Text.splitChars_eq, List.splitOnP_eq_singleton hplain,
    List.filter_cons, if_pos hkeep, List.filter_nil, List.map_singleton, String.ofList_toList]

/-- A single part is put behind the parts of the directory. -/
theorem partsOf_joined (hroot : Text.startsWith '/' name = false)
    (hsingle : partsOf backslash name = [name]) :
    partsOf backslash (joined directory name) = partsOf backslash directory ++ [name] := by
  rw [joined_of_not_root hroot]
  rcases List.eq_nil_or_concat directory.toList with hnil | ⟨cs, c, hcs⟩
  · obtain rfl : directory = "" := String.toList_inj.1 hnil
    rw [if_pos (by rfl), String.empty_append, hsingle]
    rfl
  · rw [List.concat_eq_append] at hcs
    split
    · rename_i hlast
      obtain rfl : c = '/' := by simpa [hcs] using hlast
      obtain rfl : directory = String.ofList cs ++ "/" := String.toList_inj.1 (by simp [hcs])
      have hdirectory : partsOf backslash (String.ofList cs ++ "/" ++ "") =
          partsOf backslash (String.ofList cs) ++ partsOf backslash "" := partsOf_slash _ _
      rw [String.append_empty, partsOf_empty, List.append_nil] at hdirectory
      rw [partsOf_slash, hdirectory, hsingle]
    · rw [partsOf_slash, hsingle]

theorem startsWith_joined (hroot : Text.startsWith '/' name = false) :
    Text.startsWith '/' (joined directory name) = Text.startsWith '/' directory := by
  rw [joined, if_neg (by simp [hroot])]
  cases hd : directory.toList with
  | nil =>
    obtain rfl : directory = "" := String.toList_inj.1 hd
    rw [List.getLast?_nil, Option.all_none, if_pos rfl, String.empty_append, hroot]
    rfl
  | cons c cs =>
    split <;> simp [Text.startsWith, hd]

/-- A name of the supply with an extension stands in the directory that it is joined to. -/
theorem standsIn_stored (hname : Text.isHyphenated name.toList = true)
    (hext : IsExtension extension) (backslash : Bool) (directory : String) :
    StandsIn backslash directory (name ++ "." ++ extension) := by
  obtain ⟨hempty, hplain⟩ := plain_of_isHyphenated hname
  have hlist : (name ++ "." ++ extension).toList = name.toList ++ '.' :: extension.toList := by simp
  obtain ⟨c, cs, hcs⟩ : ∃ c cs, name.toList = c :: cs :=
    List.exists_cons_of_ne_nil fun h => hempty (String.toList_inj.1 h)
  have hfirst := hplain c (by simp [hcs])
  have hroot : Text.startsWith '/' (name ++ "." ++ extension) = false :=
    startsWith_of_isHyphenated hname extension
  have hnotDots : ∀ ds : List Char, (name ++ "." ++ extension).toList ≠ '.' :: ds := by
    intro ds h
    rw [hlist, hcs] at h
    exact hfirst.2.2 (List.cons.inj h).1
  have hchars : ∀ c ∈ (name ++ "." ++ extension).toList, separates backslash c = false := by
    intro c hc
    rw [hlist, List.mem_append, List.mem_cons] at hc
    rcases hc with hc | rfl | hc
    · simp [separates, (hplain c hc).1, (hplain c hc).2.1]
    · simp [separates]
    · simp [separates, (hext.each c hc).1, (hext.each c hc).2.1]
  have hsingle : partsOf backslash (name ++ "." ++ extension) = [name ++ "." ++ extension] := by
    refine partsOf_single hchars ?_ ?_
    · intro h
      rw [h] at hlist
      simp at hlist
    · exact fun h => hnotDots [] (congrArg String.toList h)
  exact ⟨hsingle, fun h => hnotDots [] (congrArg String.toList h),
    fun h => hnotDots ['.'] (congrArg String.toList h), partsOf_joined hroot hsingle,
    startsWith_joined hroot⟩

end

/-! ## Receptions -/

/-- What has changed on the disk since `s` is at created paths, and these are made of the policy's
directory, a name of the supply and the extension of some client's name. -/
structure Confined (policy : Policy) (s : Storage) (p : Progress) : Prop where
  names : p.storage.names = s.names
  kept : ∀ path, path ∉ p.created → p.storage.content? path = s.content? path
  created : ∀ path ∈ p.created, ∃ k clientName extension,
    extensionOf clientName = some extension ∧
      path = filePath policy.destination (s.names k) extension

section

variable {policy : Policy} {limit : Nat} {s : Storage} {p p' : Progress} {part : Part}
  {parts : List Part} {body : Multipart} {clientName extension : String}

theorem Confined.draws (h : Confined policy s p) (hdraws : Draws p p') : Confined policy s p' where
  names := hdraws.names.trans h.names
  kept path hpath := by
    rw [hdraws.created] at hpath
    exact (hdraws.same path).trans (h.kept path hpath)
  created := by
    rw [hdraws.created]
    exact h.created

theorem Confined.creates (h : Confined policy s p) (hext : extensionOf clientName = some extension)
    (hcreates : Creates policy.destination extension p p') : Confined policy s p' where
  names := hcreates.storage.names.trans h.names
  kept path hpath := by
    rw [hcreates.created, List.mem_append, List.mem_singleton, not_or] at hpath
    exact (hcreates.storage.others path hpath.2).trans (h.kept path hpath.1)
  created path hpath := by
    rw [hcreates.created, List.mem_append, List.mem_singleton] at hpath
    rcases hpath with hpath | rfl
    · exact h.created path hpath
    · exact ⟨p.storage.named, clientName, extension, hext, by rw [Storage.freshName, h.names]⟩

/-- One part keeps the invariant, whether it is taken or fails. -/
theorem takePart_confined (h : Confined policy s p) :
    Confined policy s (takePart policy limit p part).2 := by
  unfold takePart
  split
  · rename_i clientName hname
    unfold takeFile
    dsimp only
    split
    · exact h
    · rename_i extension hext
      split
      · exact h
      · rename_i hallow
        have hputs := @storeFile_puts policy p part clientName extension hname hext hallow
        generalize storeFile policy (part.name.getD "") clientName extension part p = step at hputs
        obtain ⟨r, p'⟩ := step
        cases r with
        | ok u => exact h.creates hext hputs.1
        | error e => exact hputs.elim h.draws (h.creates hext)
  · unfold takeText
    split
    · exact h
    · exact ⟨h.names, h.kept, h.created⟩

/-- A run over the parts keeps the invariant. -/
theorem takeParts_confined (h : Confined policy s p) :
    Confined policy s (takeParts policy limit p parts).2 := by
  induction parts generalizing p with
  | nil => exact h
  | cons part rest ih =>
    have hstep : Confined policy s (takePart policy limit p part).2 := takePart_confined h
    rw [takeParts]
    generalize takePart policy limit p part = step at hstep
    obtain ⟨r, p'⟩ := step
    cases r with
    | ok u => exact ih hstep
    | error e => exact hstep

theorem receiveAll_confined (policy : Policy) (limit : Nat) (body : Multipart) (s : Storage) :
    Confined policy s (receiveAll policy limit body s).2 := by
  have hparts : Confined policy s (takeParts policy limit { storage := s } body.parts).2 :=
    takeParts_confined ⟨rfl, fun _ _ => rfl, fun _ h => by cases h⟩
  rw [receiveAll]
  generalize takeParts policy limit { storage := s } body.parts = step at hparts
  obtain ⟨r, p⟩ := step
  cases r with
  | ok u => exact hparts
  | error e => exact hparts

/-- A reception that fails removes what it created, and so changes no other path either. -/
theorem changed_of_receive {path : String}
    (h : (receive policy limit body s).2.content? path ≠ s.content? path) :
    ∃ k clientName extension, extensionOf clientName = some extension ∧
      path = filePath policy.destination (s.names k) extension := by
  have hall := receiveAll_confined policy limit body s
  rw [receive] at h
  generalize receiveAll policy limit body s = step at hall h
  obtain ⟨r, p⟩ := step
  cases r with
  | ok u => exact hall.created path (by_contra fun hpath => h (hall.kept path hpath))
  | error e =>
    refine hall.created path (by_contra fun hpath => h ?_)
    dsimp only
    rw [Storage.content_removeAll, if_neg hpath]
    exact hall.kept path hpath

end

/-! ## The main result -/

/-- **Stored names stay in the directory.** Every extension that a client's name has is free of
separators, dots and capital letters. Behind a name of the supply it makes a single part of a path,
which stands directly in any directory that it is joined to, and it is the extension of that name
again. A name has no extension exactly if its part behind the last separator has no dot, nothing
before its last dot or nothing behind it. So a reception changes the disk in its directory alone. -/
theorem stored_names_confined :
    (∀ clientName extension, extensionOf clientName = some extension →
      IsExtension extension ∧
        ∀ name, Text.isHyphenated name.toList = true →
          extensionOf (name ++ "." ++ extension) = some extension ∧
            ∀ backslash directory, StandsIn backslash directory (name ++ "." ++ extension)) ∧
    (∀ clientName, extensionOf clientName = none ↔
      ∃ base, IsLast (separates true) clientName.toList base ∧
        ('.' ∉ base ∨
          ∃ stem ext, base = stem ++ '.' :: ext ∧ '.' ∉ ext ∧ (stem = [] ∨ ext = []))) ∧
    ∀ policy limit body s path, (receive policy limit body s).2.content? path ≠ s.content? path →
      ∃ name, path = joined policy.destination name ∧
        ∀ backslash, StandsIn backslash policy.destination name ∧
          partsOf backslash path = partsOf backslash policy.destination ++ [name] := by
  refine ⟨fun clientName extension hext => ?_, fun clientName => extensionOf_eq_none_iff, ?_⟩
  · have hplain := isExtension_of_extensionOf hext
    refine ⟨hplain, fun name hname => ⟨?_, standsIn_stored hname hplain⟩⟩
    obtain ⟨hempty, heach⟩ := plain_of_isHyphenated hname
    refine extensionOf_stored hempty (fun c hc => ?_) hplain
    simp [separates, (heach c hc).1, (heach c hc).2.1]
  · intro policy limit body s path hchanged
    obtain ⟨k, clientName, extension, hext, rfl⟩ := changed_of_receive hchanged
    refine ⟨(s.names k).text ++ "." ++ extension, rfl, fun backslash => ?_⟩
    have hstands := standsIn_stored (s.names k).hyphenated (isExtension_of_extensionOf hext)
      backslash policy.destination
    exact ⟨hstands, hstands.parts⟩

/-- A client's name that climbs and has separators of both kinds is stored as an archive. -/
def climbingBody : Multipart where
  parts := [{ name := some "doc", fileName := some "..\\a/../b.tar.GZ", chunks := [[1, 2]] }]

def supplyOfOne : Storage where
  names _ := ⟨"123e4567-e89b-42d3-a456-426614174000", by decide⟩

theorem stored_names_confined_climbing :
    let name := "123e4567-e89b-42d3-a456-426614174000"
    let path := "temp/123e4567-e89b-42d3-a456-426614174000.gz"
    (extensionOf "..\\a/../b.tar.GZ" = some "gz" ∧ Text.isHyphenated name.toList = true ∧
      (receive {} 0 climbingBody supplyOfOne).2.content? path ≠ supplyOfOne.content? path) ∧
    (IsExtension "gz" ∧ extensionOf (name ++ "." ++ "gz") = some "gz" ∧
      StandsIn true "/srv/up/" (name ++ "." ++ "gz")) ∧
    ∃ name, path = joined ({} : Policy).destination name ∧
      ∀ backslash, StandsIn backslash ({} : Policy).destination name ∧
        partsOf backslash path = partsOf backslash ({} : Policy).destination ++ [name] := by
  intro name path
  have hext : extensionOf "..\\a/../b.tar.GZ" = some "gz" := by decide +kernel
  have hname : Text.isHyphenated name.toList = true := by decide +kernel
  have hchanged : (receive {} 0 climbingBody supplyOfOne).2.content? path ≠
      supplyOfOne.content? path := by decide +kernel
  obtain ⟨hfirst, -, hthird⟩ := stored_names_confined
  obtain ⟨hplain, hstored⟩ := hfirst _ _ hext
  obtain ⟨hagain, hstands⟩ := hstored name hname
  exact ⟨⟨hext, hname, hchanged⟩, ⟨hplain, hagain, hstands true "/srv/up/"⟩,
    hthird {} 0 climbingBody supplyOfOne path hchanged⟩

end RestKit.Upload
