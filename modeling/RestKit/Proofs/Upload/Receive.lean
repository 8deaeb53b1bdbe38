import RestKit.Upload.Receive
import RestKit.Proofs.Except
import RestKit.Proofs.Grouped
import RestKit.Proofs.Text.Utf8
import RestKit.Proofs.Upload.Storage
/-!
# Receiving a body, part by part

What one part adds to the progress, and from it what a run over the parts has made of them. Two
invariants are carried along. `Accounted` holds also where a part fails: all that the storage has
gained stands at the paths that were created. `Taken` says what the parts taken so far have become.
-/
namespace RestKit.Upload

open Http (Part)

/-! ## Steps -/

/-- A step that succeeds gives what `P` says, and one that fails leaves a progress as `E` says. -/
def Meets {α : Type} (step : Except Error α × Progress) (P : α → Progress → Prop)
    (E : Progress → Prop) : Prop :=
  match step with
  | (.ok a, p) => P a p
  | (.error _, p) => E p

theorem Meets.mono {α : Type} {step : Except Error α × Progress} {P Q : α → Progress → Prop}
    {E F : Progress → Prop} (h : Meets step P E) (hPQ : ∀ a p, P a p → Q a p)
    (hEF : ∀ p, E p → F p) : Meets step Q F := by
  obtain ⟨r, p⟩ := step
  cases r with
  | ok a => exact hPQ a p h
  | error e => exact hEF p h

theorem Meets.of_ok {α : Type} {step : Except Error α × Progress} {P : α → Progress → Prop}
    {E : Progress → Prop} {a : α} {p : Progress} (h : Meets step P E) (heq : step = (.ok a, p)) :
    P a p := by
  rwa [heq] at h

theorem Meets.of_error {α : Type} {step : Except Error α × Progress} {P : α → Progress → Prop}
    {E : Progress → Prop} {e : Error} {p : Progress} (h : Meets step P E)
    (heq : step = (.error e, p)) : E p := by
  rwa [heq] at h

theorem Meets.next {step : Step} {f : Progress → Step} {P : Progress → Prop}
    {Q : Unit → Progress → Prop} {E : Progress → Prop} (h : Meets step (fun _ => P) E)
    (hf : ∀ p, P p → Meets (f p) Q E) : Meets (step.next f) Q E := by
  obtain ⟨r, p⟩ := step
  cases r with
  | ok u => exact hf p h
  | error e => exact h

/-! ## Pieces of a content -/

theorem flatten_pieces (bytes : List UInt8) : (pieces bytes).flatten = bytes := by
  fun_induction pieces bytes with
  | case1 bytes _ hempty => rw [List.isEmpty_iff.1 hempty]; rfl
  | case2 bytes _ _ => exact List.flatten_singleton
  | case3 bytes _ ih => rw [List.flatten_cons, ih, List.take_append_drop]

theorem flatten_flatMap_pieces (chunks : List (List UInt8)) :
    (chunks.flatMap pieces).flatten = chunks.flatten := by
  induction chunks with
  | nil => rfl
  | cons c cs ih =>
    rw [List.flatMap_cons, List.flatten_append, flatten_pieces, ih, List.flatten_cons]

/-- A progress has changed on the disk, and there at one path at most. -/
structure OnlyAt (path : String) (p p' : Progress) : Prop where
  files : p'.files = p.files
  form : p'.form = p.form
  formBytes : p'.formBytes = p.formBytes
  created : p'.created = p.created
  storage : p.storage.ChangedAt path p'.storage

theorem OnlyAt.withStorage {path : String} {p : Progress} {s : Storage}
    (h : p.storage.ChangedAt path s) : OnlyAt path p { p with storage := s } :=
  ⟨rfl, rfl, rfl, rfl, h⟩

theorem OnlyAt.trans {path : String} {p p' p'' : Progress} (h : OnlyAt path p p')
    (h' : OnlyAt path p' p'') : OnlyAt path p p'' where
  files := h'.files.trans h.files
  form := h'.form.trans h.form
  formBytes := h'.formBytes.trans h.formBytes
  created := h'.created.trans h.created
  storage := h.storage.trans h'.storage

/-- Pieces are written behind one another, and never more of them than the cap allows. -/
theorem writePieces_meets (field : String) {path : String} (cap : Nat)
    (pieces : List (List UInt8)) {size : Nat} {p : Progress} {old : List UInt8}
    (hold : p.storage.content? path = some old) (hsize : size = old.length)
    (hcap : cap ≠ 0 → size ≤ cap) :
    Meets (writePieces field path cap size p pieces)
      (fun n p' => OnlyAt path p p' ∧ p'.storage.content? path = some (old ++ pieces.flatten) ∧
        n = (old ++ pieces.flatten).length ∧ (cap ≠ 0 → n ≤ cap))
      (OnlyAt path p) := by
  induction pieces generalizing size p old with
  | nil => exact ⟨⟨rfl, rfl, rfl, rfl, .refl⟩, by simpa using hold, by simpa using hsize, hcap⟩
  | cons piece rest ih =>
    unfold writePieces
    dsimp only
    split
    · exact ⟨rfl, rfl, rfl, rfl, .refl⟩
    · rename_i hbound
      split
      · rename_i s happend
        exact .withStorage (Storage.append_changedAt happend)
      · rename_i s happend
        have hstep := OnlyAt.withStorage (Storage.append_changedAt happend)
        have hsize' : size + piece.length = (old ++ piece).length := by
          rw [List.length_append, hsize]
        have hrest := ih (p := { p with storage := s }) (Storage.content_append happend hold) hsize'
          (by simp at hbound; omega)
        refine hrest.mono (fun n p' ⟨hp', hcontent, hn, hle⟩ => ?_) fun p' hp' => hstep.trans hp'
        rw [List.append_assoc] at hcontent hn
        exact ⟨hstep.trans hp', hcontent, hn, hle⟩

/-! ## Accounting for new files -/

/-- The next names of the supply are distinct, and in a directory no file has one of them yet. -/
structure Storage.Fresh (s : Storage) (directory : String) (count : Nat) : Prop where
  distinct : ∀ i < count, ∀ j < count, s.names (s.named + i) = s.names (s.named + j) → i = j
  absent : ∀ i < count, ∀ extension,
    s.content? (filePath directory (s.names (s.named + i)) extension) = none

/-- Where a file with one of the next `count` names may stand. -/
def Storage.Drawn (s : Storage) (directory : String) (count : Nat) (path : String) : Prop :=
  ∃ i < count, ∃ extension : String, '.' ∉ extension.toList ∧
    path = filePath directory (s.names (s.named + i)) extension

/-- At most `count` names have been drawn since `s`, and all that has changed on the disk is at
paths that were created under such names. -/
structure Accounted (directory : String) (s : Storage) (count : Nat) (p : Progress) : Prop where
  names : p.storage.names = s.names
  drawn : ∃ k ≤ count, p.storage.named = s.named + k ∧ ∀ path ∈ p.created, s.Drawn directory k path
  kept : ∀ path, path ∉ p.created → p.storage.content? path = s.content? path

section

variable {directory : String} {s : Storage} {count k : Nat} {p p' : Progress}

theorem Storage.Drawn.mono {path : String} (h : s.Drawn directory k path) (hk : k ≤ count) :
    s.Drawn directory count path := by
  obtain ⟨i, hi, h⟩ := h
  exact ⟨i, Nat.lt_of_lt_of_le hi hk, h⟩

theorem Accounted.mono (h : Accounted directory s k p) (hk : k ≤ count) :
    Accounted directory s count p := by
  obtain ⟨n, hn, hdrawn⟩ := h.drawn
  exact ⟨h.names, ⟨n, hn.trans hk, hdrawn⟩, h.kept⟩

theorem Storage.Fresh.content_drawn {path : String} (fresh : s.Fresh directory count)
    (h : s.Drawn directory count path) : s.content? path = none := by
  obtain ⟨i, hi, extension, -, rfl⟩ := h
  exact fresh.absent i hi extension

/-- A path that has a further name is none of those drawn before. -/
theorem Storage.Fresh.not_drawn {extension : String} (fresh : s.Fresh directory count)
    (hk : k < count) (hdot : '.' ∉ extension.toList) :
    ¬ s.Drawn directory k (filePath directory (s.names (s.named + k)) extension) := by
  rintro ⟨i, hi, extension', hdot', hpath⟩
  have hname := filePath_inj hdot hdot' hpath
  exact absurd (fresh.distinct k hk i (hi.trans hk) hname) (Nat.ne_of_gt hi)

/-- Nothing was there before at the paths that were created. -/
theorem Accounted.content_created {path : String} (fresh : s.Fresh directory count)
    (h : Accounted directory s count p) (hpath : path ∈ p.created) : s.content? path = none := by
  obtain ⟨k, hk, -, hdrawn⟩ := h.drawn
  exact fresh.content_drawn ((hdrawn path hpath).mono hk)

/-- Once the created files are removed, the disk is as it was. -/
theorem Accounted.content_removed (fresh : s.Fresh directory count)
    (h : Accounted directory s count p) (path : String) :
    (p.storage.removeAll p.created).content? path = s.content? path := by
  rw [Storage.content_removeAll]
  split
  · rename_i hmem
    exact (h.content_created fresh hmem).symm
  · rename_i hmem
    exact h.kept path hmem

/-- Parts that are no files leave the disk alone. -/
theorem Accounted.ofSame (h : Accounted directory s count p) (hstorage : p'.storage = p.storage)
    (hcreated : p'.created = p.created) : Accounted directory s count p' where
  names := by rw [hstorage]; exact h.names
  drawn := by rw [hstorage, hcreated]; exact h.drawn
  kept path hpath := by rw [hstorage]; exact h.kept path (hcreated ▸ hpath)

/-- A name is drawn, but no file created. -/
theorem Accounted.draw (h : Accounted directory s k p)
    (hnames : p'.storage.names = p.storage.names)
    (hnamed : p'.storage.named = p.storage.named + 1) (hcreated : p'.created = p.created)
    (hsame : ∀ path, p'.storage.content? path = p.storage.content? path) :
    Accounted directory s (k + 1) p' := by
  obtain ⟨n, hn, hnamed', hdrawn⟩ := h.drawn
  refine ⟨hnames.trans h.names, ⟨n + 1, Nat.succ_le_succ hn, ?_, ?_⟩, ?_⟩
  · rw [hnamed, hnamed', Nat.add_assoc]
  · intro path hpath
    rw [hcreated] at hpath
    exact (hdrawn path hpath).mono (Nat.le_succ n)
  · intro path hpath
    rw [hcreated] at hpath
    rw [hsame, h.kept path hpath]

/-- A name is drawn, and a file created under it. -/
theorem Accounted.create {extension : String} (h : Accounted directory s k p)
    (hdot : '.' ∉ extension.toList)
    (hstorage : p.storage.freshName.2.ChangedAt
      (filePath directory p.storage.freshName.1 extension) p'.storage)
    (hcreated : p'.created =
      p.created ++ [filePath directory p.storage.freshName.1 extension]) :
    Accounted directory s (k + 1) p' := by
  obtain ⟨n, hn, hnamed, hdrawn⟩ := h.drawn
  have hname : p.storage.freshName.1 = s.names (s.named + n) := by
    rw [Storage.freshName, h.names, hnamed]
  refine ⟨hstorage.names.trans h.names, ⟨n + 1, Nat.succ_le_succ hn, ?_, ?_⟩, ?_⟩
  · rw [hstorage.named, Storage.freshName, hnamed, Nat.add_assoc]
  · intro path hpath
    rw [hcreated, List.mem_append, List.mem_singleton] at hpath
    rcases hpath with hpath | rfl
    · exact (hdrawn path hpath).mono (Nat.le_succ n)
    · exact ⟨n, Nat.lt_succ_self n, extension, hdot, by rw [hname]⟩
  · intro path hpath
    rw [hcreated, List.mem_append, List.mem_singleton, not_or] at hpath
    rw [hstorage.others path hpath.2]
    exact h.kept path hpath.1

/-- The path of the next name was not created before. -/
theorem Accounted.path_not_created {extension : String} (fresh : s.Fresh directory count)
    (h : Accounted directory s k p) (hk : k < count) (hdot : '.' ∉ extension.toList) :
    filePath directory p.storage.freshName.1 extension ∉ p.created := by
  obtain ⟨n, hn, hnamed, hdrawn⟩ := h.drawn
  have hname : p.storage.freshName.1 = s.names (s.named + n) := by
    rw [Storage.freshName, h.names, hnamed]
  rw [hname]
  intro hmem
  exact fresh.not_drawn (Nat.lt_of_le_of_lt hn hk) hdot (hdrawn _ hmem)

end

/-! ## Parts -/

/-- What is stored of a file part: what is listed, and what is on the disk. -/
structure StoredAs (policy : Policy) (disk : Storage) (part : Part) (f : File) : Prop where
  field : f.fieldName = part.name.getD ""
  clientName : fileName? part = some f.clientName
  extension : extensionOf f.clientName = some f.extension
  configured : policy.fields ≠ [] → (policy.field? f.fieldName).isSome
  allowed : ∀ rules, policy.field? f.fieldName = some rules →
    rules.allowedTypes = [] ∨ f.extension ∈ rules.allowedTypes
  mimeType : f.mimeType = part.contentType.getD "application/octet-stream"
  path : f.path = joined policy.destination f.storedName
  temporary : f.temporary = !policy.keepFiles
  content : disk.content? f.path = some part.chunks.flatten
  size : f.size = part.chunks.flatten.length
  bounded : policy.cap f.fieldName f.extension ≠ 0 →
    f.size ≤ policy.cap f.fieldName f.extension

/-- A form value has the bytes of its part. -/
structure ReadAs (part : Part) (entry : String × String) : Prop where
  name : entry.1 = part.name.getD ""
  bytes : Utf8.encode entry.2 = part.chunks.flatten

theorem StoredAs.ofSame {policy : Policy} {disk disk' : Storage} {part : Part} {f : File}
    (h : StoredAs policy disk part f) (hsame : disk'.content? f.path = disk.content? f.path) :
    StoredAs policy disk' part f :=
  { h with content := hsame.trans h.content }

theorem admitFile_eq_ok {policy : Policy} {field extension : String}
    (h : admitFile policy field extension = .ok ()) :
    (policy.fields ≠ [] → (policy.field? field).isSome) ∧
      ∀ rules, policy.field? field = some rules →
        rules.allowedTypes = [] ∨ extension ∈ rules.allowedTypes := by
  unfold admitFile at h
  split at h
  · rename_i rules hrules
    split at h
    · rename_i hallows
      refine ⟨fun _ => by simp [hrules], fun rules' hrules' => ?_⟩
      obtain rfl : rules = rules' := Option.some.inj (hrules.symm.trans hrules')
      simpa [FieldPolicy.allows] using hallows
    · cases h
  · rename_i hnone
    split at h
    · rename_i hempty
      exact ⟨fun hne => absurd (List.isEmpty_iff.1 hempty) hne,
        fun rules hrules => by simp [hnone] at hrules⟩
    · cases h

/-- A file is put on the list and on the disk; all else is as before. -/
structure Puts (p p' : Progress) (f : File) : Prop where
  files : p'.files = Grouped.add p.files f.fieldName f
  form : p'.form = p.form
  formBytes : p'.formBytes = p.formBytes
  created : p'.created = p.created ++ [f.path]
  others : ∀ path, path ≠ f.path → p'.storage.content? path = p.storage.content? path

/-- A file is put where none was created before. -/
structure Adds (p p' : Progress) (f : File) : Prop extends Puts p p' f where
  notCreated : f.path ∉ p.created

/-- A name is drawn and a file created under it, and the disk has changed there alone. -/
structure Creates (directory extension : String) (p p' : Progress) : Prop where
  storage : p.storage.freshName.2.ChangedAt
    (filePath directory p.storage.freshName.1 extension) p'.storage
  created : p'.created = p.created ++ [filePath directory p.storage.freshName.1 extension]

/-- A name is drawn, and the disk is as before. -/
structure Draws (p p' : Progress) : Prop where
  names : p'.storage.names = p.storage.names
  named : p'.storage.named = p.storage.named + 1
  created : p'.created = p.created
  same : ∀ path, p'.storage.content? path = p.storage.content? path

section

variable {policy : Policy} {limit : Nat} {s : Storage} {count k : Nat} {p : Progress} {part : Part}

/-- What `storeFile` lists for a file whose content is on the disk. -/
theorem storedAs_listed {clientName extension : String} {name : Text.Uuid} {size : Nat}
    {disk : Storage} (hname : fileName? part = some clientName)
    (hext : extensionOf clientName = some extension)
    (hallow : admitFile policy (part.name.getD "") extension = .ok ())
    (hcontent : disk.content? (filePath policy.destination name extension) =
      some part.chunks.flatten)
    (hsize : size = part.chunks.flatten.length)
    (hcap : policy.cap (part.name.getD "") extension ≠ 0 →
      size ≤ policy.cap (part.name.getD "") extension) :
    StoredAs policy disk part {
      fieldName := part.name.getD "", clientName, size, extension
      storedName := name.text ++ "." ++ extension
      mimeType := part.contentType.getD "application/octet-stream"
      path := filePath policy.destination name extension
      temporary := !policy.keepFiles } where
  field := rfl
  clientName := hname
  extension := hext
  configured := (admitFile_eq_ok hallow).1
  allowed := (admitFile_eq_ok hallow).2
  mimeType := rfl
  path := rfl
  temporary := rfl
  content := hcontent
  size := hsize
  bounded := hcap

/-- A file is stored, or the part fails before its file is created or behind that. -/
theorem storeFile_puts {clientName extension : String} (hname : fileName? part = some clientName)
    (hext : extensionOf clientName = some extension)
    (hallow : admitFile policy (part.name.getD "") extension = .ok ()) :
    Meets (storeFile policy (part.name.getD "") clientName extension part p)
      (fun _ p' => Creates policy.destination extension p p' ∧
        ∃ f, StoredAs policy p'.storage part f ∧ Puts p p' f)
      (fun p' => Draws p p' ∨ Creates policy.destination extension p p') := by
  unfold storeFile
  dsimp only
  split
  · rename_i s₁ hcreate
    have hchanged := Storage.create_changedAt hcreate
    have hsame : ∀ path, s₁.content? path = p.storage.freshName.2.content? path :=
      fun _ => Storage.content_create_failed hcreate
    exact .inl ⟨hchanged.names, hchanged.named, rfl, hsame⟩
  · rename_i s₁ hcreate
    have hchanged := Storage.create_changedAt hcreate
    have hwrite := writePieces_meets (part.name.getD "")
      (policy.cap (part.name.getD "") extension) (part.chunks.flatMap pieces)
      (p := { p with
        storage := s₁
        created := p.created ++
          [filePath policy.destination p.storage.freshName.1 extension] })
      (Storage.content_create hcreate) (Eq.refl 0) (fun _ => Nat.zero_le _)
    rw [List.nil_append, flatten_flatMap_pieces] at hwrite
    split
    · rename_i e p₂ heq
      have hfail := hwrite.of_error heq
      exact .inr ⟨hchanged.trans hfail.storage, hfail.created⟩
    · rename_i size p₂ heq
      obtain ⟨hdone, hcontent, hsize, hcap⟩ := hwrite.of_ok heq
      split
      · exact .inr ⟨hchanged.trans hdone.storage, hdone.created⟩
      · split
        · rename_i s₃ hflush
          exact .inr ⟨(hchanged.trans hdone.storage).trans (Storage.flush_changedAt hflush),
            hdone.created⟩
        · rename_i s₃ hflush
          have hdisk := (hchanged.trans hdone.storage).trans (Storage.flush_changedAt hflush)
          have hstored := storedAs_listed hname hext hallow
            ((Storage.content_flush hflush).trans hcontent) hsize hcap
          refine ⟨⟨hdisk, hdone.created⟩, _, hstored, ?_⟩
          exact {
            files := congrArg (Grouped.add · _ _) hdone.files
            form := hdone.form
            formBytes := hdone.formBytes
            created := hdone.created
            others := hdisk.others }

theorem storeFile_meets {clientName extension : String}
    (fresh : s.Fresh policy.destination count) (hp : Accounted policy.destination s k p)
    (hk : k < count) (hname : fileName? part = some clientName)
    (hext : extensionOf clientName = some extension)
    (hallow : admitFile policy (part.name.getD "") extension = .ok ()) :
    Meets (storeFile policy (part.name.getD "") clientName extension part p)
      (fun _ p' => Accounted policy.destination s (k + 1) p' ∧
        ∃ f, StoredAs policy p'.storage part f ∧ Adds p p' f)
      (Accounted policy.destination s (k + 1)) := by
  have hdot := no_dot_of_extensionOf hext
  refine (storeFile_puts hname hext hallow).mono ?_ ?_
  · rintro - p' ⟨hcreates, f, hstored, hputs⟩
    have hnew : f.path ∉ p.created := by
      have hpath := List.append_cancel_left (hputs.created.symm.trans hcreates.created)
      rw [List.singleton_inj.1 hpath]
      exact hp.path_not_created fresh hk hdot
    exact ⟨hp.create hdot hcreates.storage hcreates.created, f, hstored,
      { hputs with notCreated := hnew }⟩
  · rintro p' (hdraws | hcreates)
    · exact hp.draw hdraws.names hdraws.named hdraws.created hdraws.same
    · exact hp.create hdot hcreates.storage hcreates.created

theorem takeFile_meets {clientName : String} (fresh : s.Fresh policy.destination count)
    (hp : Accounted policy.destination s k p) (hk : k < count)
    (hname : fileName? part = some clientName) :
    Meets (takeFile policy clientName part p)
      (fun _ p' => Accounted policy.destination s (k + 1) p' ∧
        ∃ f, StoredAs policy p'.storage part f ∧ Adds p p' f)
      (Accounted policy.destination s (k + 1)) := by
  unfold takeFile
  dsimp only
  split
  · exact hp.mono (Nat.le_succ k)
  · rename_i extension hext
    split
    · exact hp.mono (Nat.le_succ k)
    · rename_i hallow
      exact storeFile_meets fresh hp hk hname hext hallow

/-- The bytes of all chunks are counted, and within the limit. -/
theorem countChunks_eq_ok {total total' : Nat} {chunks : List (List UInt8)}
    (h : countChunks limit total chunks = .ok total') (hlimit : limit ≠ 0 → total ≤ limit) :
    total' = total + chunks.flatten.length ∧ (limit ≠ 0 → total' ≤ limit) := by
  induction chunks generalizing total with
  | nil =>
    cases h
    exact ⟨rfl, hlimit⟩
  | cons c cs ih =>
    unfold countChunks at h
    dsimp only at h
    split at h
    · cases h
    · rename_i hbound
      have hrest := ih h (by simp at hbound; omega)
      rw [List.flatten_cons, List.length_append, ← Nat.add_assoc]
      exact hrest

theorem readText_eq_ok {total total' : Nat} {text : String}
    (h : readText limit total part = .ok (text, total')) (hlimit : limit ≠ 0 → total ≤ limit) :
    Utf8.encode text = part.chunks.flatten ∧ total' = total + (Utf8.encode text).length ∧
      (limit ≠ 0 → total' ≤ limit) := by
  obtain ⟨n, hcount, h⟩ := bind_eq_ok.1 h
  obtain ⟨-, h⟩ := check_eq_ok.1 h
  obtain ⟨htotal, hbound⟩ := countChunks_eq_ok hcount hlimit
  split at h
  · rename_i text' hdecode
    cases h
    have hbytes := Utf8.encode_of_decode hdecode
    refine ⟨hbytes, ?_, hbound⟩
    rw [htotal, hbytes]
  · cases h

/-- A value is put on the form, and counted. -/
structure Reads (limit : Nat) (p p' : Progress) (entry : String × String) : Prop where
  files : p'.files = p.files
  form : p'.form = Grouped.add p.form entry.1 entry.2
  formBytes : p'.formBytes = p.formBytes + (Utf8.encode entry.2).length
  bounded : limit ≠ 0 → p'.formBytes ≤ limit
  created : p'.created = p.created
  storage : p'.storage = p.storage

theorem takeText_meets (hlimit : limit ≠ 0 → p.formBytes ≤ limit) :
    Meets (takeText limit part p)
      (fun _ p' => ∃ entry, ReadAs part entry ∧ Reads limit p p' entry)
      (fun p' => p' = p) := by
  unfold takeText
  split
  · rfl
  · rename_i text total hread
    obtain ⟨hbytes, htotal, hbound⟩ := readText_eq_ok hread hlimit
    exact ⟨(part.name.getD "", text), ⟨rfl, hbytes⟩, rfl, rfl, htotal, hbound, rfl, rfl⟩

end

/-! ## A run over the parts -/

/-- Whether a part is a file. -/
def isFile (part : Part) : Bool := (fileName? part).isSome

/-- What the parts taken so far have become: the files `stored` and the form values `read`, both in
the order of their parts. -/
structure Taken (policy : Policy) (limit : Nat) (s : Storage) (parts : List Part) (p : Progress)
    (stored : List File) (read : List (String × String)) : Prop where
  accounted : Accounted policy.destination s parts.length p
  files : p.files = Grouped.ofPairs (stored.map fun f => (f.fieldName, f))
  eachStored : List.Forall₂ (StoredAs policy p.storage) (parts.filter isFile) stored
  created : p.created = stored.map File.path
  distinct : (stored.map File.path).Nodup
  form : p.form = Grouped.ofPairs read
  eachRead : List.Forall₂ ReadAs (parts.filter fun part => !isFile part) read
  counted : p.formBytes = (read.flatMap fun entry => Utf8.encode entry.2).length
  bounded : limit ≠ 0 → p.formBytes ≤ limit

section

variable {policy : Policy} {limit : Nat} {s : Storage} {count : Nat} {p p' : Progress}
  {part : Part} {parts rest : List Part} {stored : List File} {read : List (String × String)}

theorem taken_nil : Taken policy limit s [] { storage := s } [] [] where
  accounted := ⟨rfl, ⟨0, Nat.le_refl 0, rfl, fun _ h => by cases h⟩, fun _ _ => rfl⟩
  files := rfl
  eachStored := .nil
  created := rfl
  distinct := List.nodup_nil
  form := rfl
  eachRead := .nil
  counted := rfl
  bounded _ := Nat.zero_le _

theorem Taken.adds {f : File} (h : Taken policy limit s parts p stored read)
    (hfile : isFile part = true) (haccounted : Accounted policy.destination s (parts.length + 1) p')
    (hstored : StoredAs policy p'.storage part f) (hadds : Adds p p' f) :
    Taken policy limit s (parts ++ [part]) p' (stored ++ [f]) read where
  accounted := by rw [List.length_append]; exact haccounted
  files := by rw [hadds.files, h.files, List.map_append]; exact Grouped.ofPairs_concat.symm
  eachStored := by
    rw [List.filter_append, List.filter_cons_of_pos hfile]
    -- The files stored before stand at other paths, where nothing has changed.
    have hother : ∀ g ∈ stored, g.path ≠ f.path := by
      intro g hg heq
      exact hadds.notCreated (heq ▸ h.created ▸ List.mem_map_of_mem hg)
    have hold := ((List.forall₂_and_left _ _).2 ⟨hother, h.eachStored.flip⟩).flip
    exact List.rel_append (hold.imp fun _ g hg => hg.2.ofSame (hadds.others g.path hg.1))
      (.cons hstored .nil)
  created := by rw [hadds.created, h.created, List.map_append]; rfl
  distinct := by
    rw [List.map_append, List.map_singleton, ← h.created]
    exact (List.perm_append_singleton _ _).nodup_iff.2
      (List.nodup_cons.2 ⟨hadds.notCreated, h.created ▸ h.distinct⟩)
  form := hadds.form.trans h.form
  eachRead := by
    rw [List.filter_append, List.filter_cons_of_neg (by simp [hfile])]
    simpa using h.eachRead
  counted := hadds.formBytes.trans h.counted
  bounded := by rw [hadds.formBytes]; exact h.bounded

theorem Taken.reads {entry : String × String} (h : Taken policy limit s parts p stored read)
    (hfile : isFile part = false) (hread : ReadAs part entry) (hreads : Reads limit p p' entry) :
    Taken policy limit s (parts ++ [part]) p' stored (read ++ [entry]) where
  accounted := by
    rw [List.length_append]
    exact (h.accounted.ofSame hreads.storage hreads.created).mono (Nat.le_succ _)
  files := hreads.files.trans h.files
  eachStored := by
    rw [List.filter_append, List.filter_cons_of_neg (by simp [hfile]), hreads.storage]
    simpa using h.eachStored
  created := hreads.created.trans h.created
  distinct := h.distinct
  form := by rw [hreads.form, h.form]; exact Grouped.ofPairs_concat.symm
  eachRead := by
    rw [List.filter_append, List.filter_cons_of_pos (by simp [hfile])]
    exact List.rel_append h.eachRead (.cons hread .nil)
  counted := by
    rw [hreads.formBytes, h.counted, List.flatMap_append, List.length_append]
    simp
  bounded := hreads.bounded

/-- One part keeps the invariants. -/
theorem takePart_meets (fresh : s.Fresh policy.destination count)
    (h : Taken policy limit s parts p stored read) (hcount : parts.length < count) :
    Meets (takePart policy limit p part)
      (fun _ p' => ∃ stored read, Taken policy limit s (parts ++ [part]) p' stored read)
      (Accounted policy.destination s count) := by
  unfold takePart
  split
  · rename_i clientName hname
    have hfile : isFile part = true := by rw [isFile, hname]; rfl
    refine (takeFile_meets fresh h.accounted hcount hname).mono ?_ fun p' hp' => hp'.mono hcount
    rintro - p' ⟨haccounted, f, hstored, hadds⟩
    exact ⟨_, _, h.adds hfile haccounted hstored hadds⟩
  · rename_i hname
    have hfile : isFile part = false := by rw [isFile, hname]; rfl
    refine (takeText_meets h.bounded).mono ?_ ?_
    · rintro - p' ⟨entry, hread, hreads⟩
      exact ⟨_, _, h.reads hfile hread hreads⟩
    · rintro p' rfl
      exact h.accounted.mono (Nat.le_of_lt hcount)

/-- A run over the parts keeps the invariants. -/
theorem takeParts_meets (fresh : s.Fresh policy.destination count)
    (h : Taken policy limit s parts p stored read) (hcount : parts.length + rest.length ≤ count) :
    Meets (takeParts policy limit p rest)
      (fun _ p' => ∃ stored read, Taken policy limit s (parts ++ rest) p' stored read)
      (Accounted policy.destination s count) := by
  induction rest generalizing parts p stored read with
  | nil => exact ⟨stored, read, by rwa [List.append_nil]⟩
  | cons part rest ih =>
    rw [List.length_cons] at hcount
    refine Meets.next (takePart_meets fresh h (by omega)) ?_
    rintro p' ⟨stored', read', h'⟩
    have hrest := ih h' (by rw [List.length_append, List.length_singleton]; omega)
    rwa [List.append_assoc] at hrest

end

end RestKit.Upload
