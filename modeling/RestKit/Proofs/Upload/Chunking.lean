import RestKit.Proofs.Upload.Received
/-!
# How a content is cut does not matter

The content of a part comes in chunks. What is received depends on the content alone: two bodies
whose parts differ only in how their contents are cut (`Recut`) have the same outcome, as long as
no operation of the storage fails (`chunks_unobservable`). The runs over two such bodies are
compared part by part (`EndsAlike`). Within a part the chunks of the two do not line up, so each
loop over chunks is first given as a function of the content (`countChunks_eq`, `storeFile_eq`).
-/
namespace RestKit.Upload

open Http (Multipart Part)

/-! ## Storages -/

namespace Storage

variable {s s' s'' : Storage} {path : String} {bytes old : List UInt8}

/-- No operation fails. -/
def Works (s : Storage) : Prop := ∀ n, s.fails n = false

/-- Two storages hold the same, whatever the number of operations that it took. -/
structure Alike (s s' : Storage) : Prop where
  files : s'.files = s.files
  directories : s'.directories = s.directories
  names : s'.names = s.names
  named : s'.named = s.named
  fails : s'.fails = s.fails

theorem Alike.refl (s : Storage) : Alike s s := ⟨rfl, rfl, rfl, rfl, rfl⟩

theorem Alike.symm (h : Alike s s') : Alike s' s :=
  ⟨h.files.symm, h.directories.symm, h.names.symm, h.named.symm, h.fails.symm⟩

theorem Alike.trans (h : Alike s s') (h' : Alike s' s'') : Alike s s'' where
  files := h'.files.trans h.files
  directories := h'.directories.trans h.directories
  names := h'.names.trans h.names
  named := h'.named.trans h.named
  fails := h'.fails.trans h.fails

theorem Alike.works (h : Alike s s') (works : s.Works) : s'.Works := fun n => by
  rw [h.fails]
  exact works n

theorem Alike.freshName (h : Alike s s') :
    s'.freshName.1 = s.freshName.1 ∧ Alike s.freshName.2 s'.freshName.2 := by
  refine ⟨by rw [Storage.freshName, Storage.freshName, h.names, h.named], ?_⟩
  exact { h with named := congrArg (· + 1) h.named }

/-- The storage with a content at a path. -/
def put (s : Storage) (path : String) (content : List UInt8) : Storage :=
  { s with files := setContent path content s.files }

theorem Alike.put (h : Alike s s') (path : String) (content : List UInt8) :
    Alike (s.put path content) (s'.put path content) :=
  { h with files := congrArg (setContent path content) h.files }

theorem setContent_setContent (files : List (String × List UInt8)) :
    setContent path bytes (setContent path old files) = setContent path bytes files := by
  simp [setContent, List.filter_filter]

theorem attempt_of_works (works : s.Works)
    (f : List (String × List UInt8) → List (String × List UInt8)) :
    ∃ s', s.attempt f = (true, s') ∧ Alike { s with files := f s.files } s' := by
  refine ⟨{ s with files := f s.files, operations := s.operations + 1 }, ?_,
    rfl, rfl, rfl, rfl, rfl⟩
  rw [attempt, works, if_neg Bool.false_ne_true]

theorem create_of_works (works : s.Works) (path : String) :
    ∃ s', s.create path = (true, s') ∧ Alike (s.put path []) s' :=
  attempt_of_works works _

/-- More bytes for a file that was put there. -/
theorem append_of_works (works : s.Works) {base : Storage} (h : Alike (base.put path old) s)
    (bytes : List UInt8) :
    ∃ s', s.append path bytes = (true, s') ∧ Alike (base.put path (old ++ bytes)) s' := by
  obtain ⟨s', happend, hs'⟩ := attempt_of_works works
    fun files => setContent path ((files.lookup path).getD [] ++ bytes) files
  have hfiles : s.files = setContent path old base.files := h.files
  have hcontent : (s.files.lookup path).getD [] = old := by
    rw [hfiles, lookup_setContent, if_pos rfl, Option.getD_some]
  rw [hcontent, hfiles, setContent_setContent] at hs'
  refine ⟨s', happend, Alike.trans ?_ hs'⟩
  exact { h with files := rfl }

theorem flush_of_works (works : s.Works) : ∃ s', s.flush = (true, s') ∧ Alike s s' :=
  attempt_of_works works id

/-! ### Removal -/

theorem removeAll_eq (paths : List String) :
    s.removeAll paths = { s with files := s.files.filter fun f => !paths.contains f.1 } := by
  induction paths generalizing s with
  | nil => simp [removeAll]
  | cons p ps ih =>
    have hstep : s.removeAll (p :: ps) = (s.remove p).removeAll ps := rfl
    rw [hstep, ih, remove, List.filter_filter]
    congr 2
    funext f
    by_cases h : f.1 = p <;> simp [h]

theorem Alike.removeAll (h : Alike s s') (paths : List String) :
    Alike (s.removeAll paths) (s'.removeAll paths) := by
  rw [removeAll_eq, removeAll_eq, h.files]
  exact { h with files := rfl }

/-- Once a file is removed, its content does not matter. -/
theorem alike_removeAll_put {base : Storage} {paths : List String}
    (h : Alike (base.put path bytes) s) (hmem : path ∈ paths) :
    Alike (base.removeAll paths) (s.removeAll paths) := by
  refine Alike.trans ?_ (h.removeAll paths)
  rw [removeAll_eq, removeAll_eq]
  refine { Alike.refl _ with files := ?_ }
  simp only [put, setContent]
  rw [List.filter_cons_of_neg (by simpa using hmem), List.filter_filter]
  refine List.filter_congr fun f _ => ?_
  by_cases hf : f.1 = path
  · simp [hf, hmem]
  · simp [hf]

end Storage

/-! ## Chunks of one part -/

/-- The size of a content that a cap allows. -/
def cappedSize (field : String) (cap : Nat) (content : List UInt8) : Except Error Nat :=
  if cap ≠ 0 ∧ cap < content.length then .error (.tooLarge field cap) else .ok content.length

section

variable {limit total : Nat} {path : String} {size : Nat} {p : Progress}
  {base : Storage} {old : List UInt8}

/-- The bytes of all chunks are counted, and the sum alone decides. -/
theorem countChunks_eq (htotal : limit ≠ 0 → total ≤ limit) (chunks : List (List UInt8)) :
    countChunks limit total chunks =
      if limit ≠ 0 ∧ limit < total + chunks.flatten.length then .error (.formTooLarge limit)
      else .ok (total + chunks.flatten.length) := by
  induction chunks generalizing total with
  | nil =>
    rw [List.flatten_nil, List.length_nil, Nat.add_zero, if_neg (by omega)]
    rfl
  | cons c cs ih =>
    unfold countChunks
    rw [List.flatten_cons, List.length_append, ← Nat.add_assoc]
    by_cases hover : limit ≠ 0 ∧ limit < total + c.length
    · rw [if_pos (by simp; omega), if_pos (by omega)]
    · rw [if_neg (by simp; omega)]
      exact ih (by omega)

/-- Pieces are written behind one another, and the sum of their bytes alone decides. What is on the
disk of a file that is too large depends on its pieces. -/
theorem writePieces_eq (field : String) (cap : Nat) (pieces : List (List UInt8))
    (works : p.storage.Works)
    (hbase : (base.put path old).Alike p.storage) (hsize : size = old.length)
    (hcap : cap ≠ 0 → size ≤ cap) :
    ∃ content s, (base.put path content).Alike s ∧
      writePieces field path cap size p pieces =
        (cappedSize field cap (old ++ pieces.flatten), { p with storage := s }) ∧
      ∀ n, cappedSize field cap (old ++ pieces.flatten) = .ok n →
        content = old ++ pieces.flatten := by
  induction pieces generalizing size p old with
  | nil =>
    refine ⟨old, p.storage, hbase, ?_, fun _ _ => by simp⟩
    rw [List.flatten_nil, List.append_nil, cappedSize, if_neg (by omega), ← hsize]
    rfl
  | cons piece rest ih =>
    unfold writePieces
    dsimp only
    rw [List.flatten_cons, ← List.append_assoc]
    by_cases hover : cap ≠ 0 ∧ cap < size + piece.length
    · have htoo : cappedSize field cap (old ++ piece ++ rest.flatten) =
          .error (.tooLarge field cap) :=
        if_pos ⟨hover.1, by simp only [List.length_append]; omega⟩
      rw [if_pos (by simp; omega), htoo]
      exact ⟨old, p.storage, hbase, rfl, fun n hn => by cases hn⟩
    · obtain ⟨s, happend, hs⟩ := Storage.append_of_works works hbase piece
      rw [if_neg (by simp; omega), happend]
      have works' : s.Works := by
        intro n
        rw [hs.fails]
        exact (hbase.symm.works works) n
      exact ih (p := { p with storage := s }) works' hs
        (by rw [List.length_append, hsize]) (by omega)

end

/-! ## Parts -/

/-- Two parts differ only in how their content is cut. -/
structure SameContent (part part' : Part) : Prop where
  name : part'.name = part.name
  fileName : part'.fileName = part.fileName
  contentType : part'.contentType = part.contentType
  fault : part'.fault = part.fault
  content : part'.chunks.flatten = part.chunks.flatten

/-- Two bodies differ only in how the contents of their parts are cut. -/
structure Recut (body body' : Multipart) : Prop where
  parts : List.Forall₂ SameContent body.parts body'.parts
  fault : body'.fault = body.fault

/-- The file that is listed for a part, or why its content is refused. -/
def listedFile (policy : Policy) (field clientName extension : String) (name : Text.Uuid)
    (part : Part) : Except Error File := do
  let size ← cappedSize field (policy.cap field extension) part.chunks.flatten
  contentFault part
  return {
    fieldName := field, clientName, storedName := name.text ++ "." ++ extension, size, extension
    mimeType := part.contentType.getD "application/octet-stream"
    path := filePath policy.destination name extension, temporary := !policy.keepFiles }

/-- A file is created and listed, or created and refused. -/
def fileStep (p : Progress) (field path : String) (s : Storage) (listed : Except Error File) :
    Step :=
  match listed with
  | .error e => (.error e, { p with storage := s, created := p.created ++ [path] })
  | .ok f => (.ok (), { p with
      storage := s, created := p.created ++ [path], files := Grouped.add p.files field f })

/-- What becomes of a part that is a file. -/
theorem storeFile_eq (policy : Policy) (field clientName extension : String) (part : Part)
    {p : Progress} (works : p.storage.Works) :
    ∃ content s, (p.storage.freshName.2.put
        (filePath policy.destination p.storage.freshName.1 extension) content).Alike s ∧
      storeFile policy field clientName extension part p =
        fileStep p field (filePath policy.destination p.storage.freshName.1 extension) s
          (listedFile policy field clientName extension p.storage.freshName.1 part) ∧
      ∀ f, listedFile policy field clientName extension p.storage.freshName.1 part = .ok f →
        content = part.chunks.flatten := by
  have hfresh : p.storage.freshName.2.Works := works
  obtain ⟨s₁, hcreate, hs₁⟩ := Storage.create_of_works hfresh
    (filePath policy.destination p.storage.freshName.1 extension)
  have works₁ : s₁.Works := hs₁.works hfresh
  obtain ⟨content, s₂, hs₂, hwrite, hcontent⟩ :=
    writePieces_eq field (policy.cap field extension) (part.chunks.flatMap pieces)
      (p := { p with
        storage := s₁
        created := p.created ++
          [filePath policy.destination p.storage.freshName.1 extension] })
      works₁ hs₁ (Eq.refl 0) (fun _ => Nat.zero_le _)
  rw [List.nil_append, flatten_flatMap_pieces] at hwrite hcontent
  unfold filePath at hcreate hwrite
  unfold storeFile listedFile
  dsimp only
  rw [hcreate]
  dsimp only
  rw [hwrite]
  cases hcapped : cappedSize field (policy.cap field extension) part.chunks.flatten with
  | error e => exact ⟨content, s₂, hs₂, rfl, nofun⟩
  | ok size =>
    dsimp only
    cases hfault : contentFault part with
    | error e => exact ⟨content, s₂, hs₂, rfl, nofun⟩
    | ok u =>
      obtain ⟨s₃, hflush, hs₃⟩ := Storage.flush_of_works (hs₂.works hfresh)
      dsimp only
      rw [hflush]
      exact ⟨content, s₃, hs₂.trans hs₃, rfl, fun _ _ => hcontent size hcapped⟩

/-! ## Two runs -/

/-- Two progresses that cannot be told apart but by the number of operations. -/
structure Progress.Alike (limit : Nat) (p p' : Progress) : Prop where
  files : p'.files = p.files
  form : p'.form = p.form
  formBytes : p'.formBytes = p.formBytes
  created : p'.created = p.created
  storage : p.storage.Alike p'.storage
  works : p.storage.Works
  bounded : limit ≠ 0 → p.formBytes ≤ limit

/-- Two steps succeed with progresses that are alike, or fail with one error and leave the same once
the created files are removed. -/
def EndsAlike (limit : Nat) : Step → Step → Prop
  | (.ok (), p), (.ok (), p') => p.Alike limit p'
  | (.error e, p), (.error e', p') =>
    e' = e ∧ (p.storage.removeAll p.created).Alike (p'.storage.removeAll p'.created)
  | _, _ => False

theorem EndsAlike.next {limit : Nat} {a b : Step} {f g : Progress → Step}
    (h : EndsAlike limit a b)
    (hfg : ∀ p p', p.Alike limit p' → EndsAlike limit (f p) (g p')) :
    EndsAlike limit (a.next f) (b.next g) := by
  obtain ⟨_ | _, p⟩ := a <;> obtain ⟨_ | _, p'⟩ := b
  · exact h
  · exact h.elim
  · exact h.elim
  · exact hfg p p' h

/-- Steps that leave the progress alone and end in the same way. -/
theorem Progress.Alike.endsAlike {limit : Nat} {p p' : Progress} (h : p.Alike limit p')
    (r : Except Error Unit) : EndsAlike limit (r, p) (r, p') := by
  cases r with
  | ok u => exact h
  | error e => exact ⟨rfl, by rw [h.created]; exact h.storage.removeAll _⟩

section

variable {policy : Policy} {limit : Nat} {p p' : Progress} {part part' : Part}
  {parts parts' : List Part} {body body' : Multipart} {s : Storage}

theorem contentFault_same (hpart : SameContent part part') :
    contentFault part' = contentFault part := by
  rw [contentFault, hpart.fault, contentFault]

theorem readText_same (hpart : SameContent part part') {total : Nat}
    (htotal : limit ≠ 0 → total ≤ limit) :
    readText limit total part' = readText limit total part := by
  unfold readText
  rw [countChunks_eq htotal, countChunks_eq htotal, contentFault_same hpart, hpart.content]

theorem takeText_alike (hpart : SameContent part part') (h : p.Alike limit p') :
    EndsAlike limit (takeText limit part p) (takeText limit part' p') := by
  have hstep : Meets (takeText limit part p) (fun _ p' => ∃ entry, ReadAs part entry ∧
      Reads limit p p' entry) fun _ => True :=
    (takeText_meets h.bounded).mono (fun _ _ h => h) fun _ _ => trivial
  unfold takeText at hstep ⊢
  rw [h.formBytes, readText_same hpart h.bounded, hpart.name, h.form]
  cases hread : readText limit p.formBytes part with
  | error e => exact h.endsAlike (.error e)
  | ok r =>
    rw [hread] at hstep
    obtain ⟨entry, -, hreads⟩ := hstep
    exact { h with form := rfl, formBytes := rfl, bounded := hreads.bounded }

theorem listedFile_same (hpart : SameContent part part')
    (field clientName extension : String) (name : Text.Uuid) :
    listedFile policy field clientName extension name part' =
      listedFile policy field clientName extension name part := by
  rw [listedFile, hpart.content, hpart.contentType, contentFault_same hpart, listedFile]

theorem storeFile_alike (hpart : SameContent part part') (h : p.Alike limit p')
    (field clientName extension : String) :
    EndsAlike limit (storeFile policy field clientName extension part p)
      (storeFile policy field clientName extension part' p') := by
  obtain ⟨hname, hfresh⟩ := h.storage.freshName
  obtain ⟨content, s, hs, hstore, hcontent⟩ :=
    storeFile_eq policy field clientName extension part h.works
  obtain ⟨content', s', hs', hstore', hcontent'⟩ :=
    storeFile_eq policy field clientName extension part' (h.storage.works h.works)
  rw [hname, listedFile_same hpart] at hstore' hcontent'
  rw [hname] at hs'
  rw [hstore, hstore']
  have hbase := (hfresh.put _ content').trans hs'
  cases hlisted : listedFile policy field clientName extension p.storage.freshName.1 part with
  | error e =>
    refine ⟨rfl, ?_⟩
    dsimp only
    rw [h.created]
    have hmem := List.mem_append_right p.created (List.mem_singleton_self
      (filePath policy.destination p.storage.freshName.1 extension))
    exact (Storage.alike_removeAll_put hs hmem).symm.trans (Storage.alike_removeAll_put hbase hmem)
  | ok f =>
    rw [hcontent f hlisted] at hs
    rw [hcontent' f hlisted, hpart.content] at hbase
    exact {
      files := congrArg (Grouped.add · field f) h.files
      form := h.form
      formBytes := h.formBytes
      created := by dsimp only; rw [h.created]
      storage := hs.symm.trans hbase
      works := hs.works h.works
      bounded := h.bounded }

theorem fileName?_same (hpart : SameContent part part') : fileName? part' = fileName? part := by
  rw [fileName?, hpart.fileName, fileName?]

theorem takeFile_alike (hpart : SameContent part part') (h : p.Alike limit p')
    (clientName : String) :
    EndsAlike limit (takeFile policy clientName part p) (takeFile policy clientName part' p') := by
  unfold takeFile
  rw [hpart.name]
  dsimp only
  split
  · exact h.endsAlike (.error _)
  · split
    · exact h.endsAlike (.error _)
    · exact storeFile_alike hpart h ..

/-- One part. -/
theorem takePart_alike (hpart : SameContent part part') (h : p.Alike limit p') :
    EndsAlike limit (takePart policy limit p part) (takePart policy limit p' part') := by
  unfold takePart
  rw [fileName?_same hpart]
  split
  · exact takeFile_alike hpart h _
  · exact takeText_alike hpart h

/-- All parts, one after the other. -/
theorem takeParts_alike (hparts : List.Forall₂ SameContent parts parts') (h : p.Alike limit p') :
    EndsAlike limit (takeParts policy limit p parts) (takeParts policy limit p' parts') := by
  induction hparts generalizing p p' with
  | nil => exact h
  | cons hpart _ ih => exact (takePart_alike hpart h).next fun _ _ h => ih h

theorem scanParts_alike (hparts : List.Forall₂ SameContent parts parts') (h : p.Alike limit p') :
    EndsAlike limit (scanParts limit p parts) (scanParts limit p' parts') := by
  induction hparts generalizing p p' with
  | nil => exact h
  | cons hpart _ ih =>
    unfold scanParts
    rw [fileName?_same hpart]
    split
    · exact h.endsAlike (.error _)
    · exact (takeText_alike hpart h).next fun _ _ h => ih h

theorem alike_start (limit : Nat) (works : s.Works) :
    Progress.Alike limit { storage := s } { storage := s } :=
  ⟨rfl, rfl, rfl, rfl, .refl s, works, fun _ => Nat.zero_le _⟩

theorem streamFault_same (h : Recut body body') : streamFault body' = streamFault body := by
  rw [streamFault, h.fault, streamFault]

theorem receiveAll_alike (policy : Policy) (limit : Nat) (h : Recut body body')
    (works : s.Works) :
    EndsAlike limit (receiveAll policy limit body s) (receiveAll policy limit body' s) := by
  refine (takeParts_alike h.parts (alike_start limit works)).next fun p p' hp => ?_
  rw [streamFault_same h, hp.files]
  exact hp.endsAlike _

theorem scanForm_same (h : Recut body body') : scanForm limit body' = scanForm limit body := by
  have works : Storage.Works {} := fun _ => rfl
  have hends := (scanParts_alike h.parts (alike_start limit works)).next
    (f := fun p => (streamFault body, p)) (g := fun p => (streamFault body', p))
    fun p p' hp => by rw [streamFault_same h]; exact hp.endsAlike _
  unfold scanForm
  generalize (scanParts limit { storage := {} } body.parts).next _ = a at hends ⊢
  generalize (scanParts limit { storage := {} } body'.parts).next _ = b at hends ⊢
  obtain ⟨_ | _, p⟩ := a <;> obtain ⟨_ | _, p'⟩ := b
  · exact congrArg Except.error hends.1
  · exact hends.elim
  · exact hends.elim
  · exact congrArg Except.ok hends.form

/-- However the contents of a body's parts are cut into chunks, receiving it has the same outcome:
the same error, or the same files on the list and the same form values. The same files are left in
the storage, with the same bytes. So it is with a body that may hold no files. -/
theorem chunks_unobservable (policy : Policy) (limit : Nat) (h : Recut body body')
    (works : s.Works) :
    (receive policy limit body' s).1 = (receive policy limit body s).1 ∧
      (receive policy limit body s).2.Alike (receive policy limit body' s).2 ∧
      scanForm limit body' = scanForm limit body := by
  rw [← and_assoc]
  refine ⟨?_, scanForm_same h⟩
  have hends := receiveAll_alike policy limit h works
  unfold receive
  generalize receiveAll policy limit body s = a at hends ⊢
  generalize receiveAll policy limit body' s = b at hends ⊢
  obtain ⟨_ | _, p⟩ := a <;> obtain ⟨_ | _, p'⟩ := b
  · exact ⟨congrArg Except.error hends.1, hends.2⟩
  · exact hends.elim
  · exact hends.elim
  · exact ⟨congrArg Except.ok (Prod.ext hends.files hends.form), hends.storage⟩

end

/-- The content of the documents' body in other pieces, one of them empty. -/
def recutDocumentBody : Multipart where
  parts := [
    { name := some "doc", fileName := some "a.txt", chunks := [[1], [], [2, 3]] },
    { name := some "note", chunks := [[104], [105]] }]

theorem chunks_unobservable_document :
    Recut documentBody recutDocumentBody ∧ Storage.Works {} ∧
      (receive documentPolicy 10 documentBody {}).1.isOk = true ∧
      (receive documentPolicy 10 recutDocumentBody {}).1 =
        (receive documentPolicy 10 documentBody {}).1 ∧
      (receive documentPolicy 10 documentBody {}).2.Alike
        (receive documentPolicy 10 recutDocumentBody {}).2 ∧
      scanForm 10 recutDocumentBody = scanForm 10 documentBody := by
  have recut : Recut documentBody recutDocumentBody :=
    ⟨.cons ⟨rfl, rfl, rfl, rfl, rfl⟩ (.cons ⟨rfl, rfl, rfl, rfl, rfl⟩ .nil), rfl⟩
  have works : Storage.Works {} := fun _ => rfl
  exact ⟨recut, works, by decide +kernel, chunks_unobservable documentPolicy 10 recut works⟩

end RestKit.Upload
