import RestKit.Proofs.Upload.Receive
/-!
# Receiving is all or nothing

A multipart body is received as a whole or leaves no trace (`receive_all_or_nothing`). `Received`
says what it is to have received it: which files are listed and left on the disk, and which form
values are held.
-/
namespace RestKit.Upload

open Http (Multipart Part)

/-- The file parts of a field, in order of arrival. -/
def fileParts (body : Multipart) (field : String) : List Part :=
  body.parts.filter fun part => isFile part && part.name.getD "" == field

/-- The parts with form values of a name, in order of arrival. -/
def textParts (body : Multipart) (name : String) : List Part :=
  body.parts.filter fun part => !isFile part && part.name.getD "" == name

/-- A body was received: `files` and `form` are made of it, and the disk has changed from `before`
to `after`. -/
structure Received (policy : Policy) (limit : Nat) (body : Multipart) (before after : Storage)
    (files : Files) (form : Form) : Prop where
  /-- Each field lists one file for each of its file parts, in order of arrival. -/
  stored : ∀ field,
    List.Forall₂ (StoredAs policy after) (fileParts body field) (Grouped.get files field)
  /-- There are no other files on the list. -/
  count : (Grouped.all files).length = (body.parts.filter isFile).length
  distinct : ((Grouped.all files).map File.path).Nodup
  /-- The new files on the disk are those listed. -/
  left : ∀ path, path ∈ (Grouped.all files).map File.path ↔
    before.content? path = none ∧ after.content? path ≠ none
  kept : ∀ path, before.content? path ≠ none → after.content? path = before.content? path
  required : ∀ field rules, (field, rules) ∈ policy.fields → rules.required = true →
    Grouped.get files field ≠ []
  maxFiles : ∀ field rules, (field, rules) ∈ policy.fields → rules.maxFiles ≠ 0 →
    (Grouped.get files field).length ≤ rules.maxFiles
  /-- Each name holds one value for each of its parts, in order of arrival: the text whose bytes
  the part has. -/
  values : ∀ name, List.Forall₂ (fun part value => Utf8.encode value = part.chunks.flatten)
    (textParts body name) (Grouped.get form name)
  /-- There are no other values on the form. -/
  valueCount : (Grouped.all form).length = (body.parts.filter fun part => !isFile part).length
  valueBytes : limit ≠ 0 → ((Grouped.all form).flatMap Utf8.encode).length ≤ limit

theorem checkCounts_eq_ok {files : Files} {fields : List (String × FieldPolicy)}
    (h : checkCounts files fields = .ok ()) {field : String} {rules : FieldPolicy}
    (hmem : (field, rules) ∈ fields) :
    (rules.required = true → Grouped.get files field ≠ []) ∧
      (rules.maxFiles ≠ 0 → (Grouped.get files field).length ≤ rules.maxFiles) := by
  induction fields with
  | nil => cases hmem
  | cons f fields ih =>
    unfold checkCounts at h
    dsimp only at h
    split at h
    · cases h
    · rename_i hrequired
      split at h
      · cases h
      · rename_i hmax
        rcases List.mem_cons.1 hmem with rfl | hmem
        · simp only [Bool.and_eq_true, decide_eq_true_eq, not_and] at hrequired hmax
          exact ⟨fun hr hnil => hrequired hr (by rw [hnil]; rfl), fun hm => by
            have := hmax (Nat.pos_of_ne_zero hm)
            omega⟩
        · exact ih h hmem

section

variable {policy : Policy} {limit : Nat} {body : Multipart} {s : Storage} {p : Progress}
  {stored : List File} {read : List (String × String)}

/-- What is listed are the files that were stored. -/
theorem all_listed (stored : List File) :
    (Grouped.all (Grouped.ofPairs (stored.map fun f => (f.fieldName, f)))).Perm stored := by
  simpa [Function.comp_def] using Grouped.all_ofPairs (stored.map fun f => (f.fieldName, f))

/-- A field lists its files in the order in which they were stored. -/
theorem get_listed (stored : List File) (field : String) :
    Grouped.get (Grouped.ofPairs (stored.map fun f => (f.fieldName, f))) field =
      stored.filter fun f => f.fieldName = field := by
  rw [Grouped.get_ofPairs, List.filter_map, List.map_map]
  exact List.map_id _

theorem Taken.all_files (h : Taken policy limit s body.parts p stored read) :
    (Grouped.all p.files).Perm stored := by
  rw [h.files]
  exact all_listed stored

theorem Taken.all_form (h : Taken policy limit s body.parts p stored read) :
    (Grouped.all p.form).Perm (read.map (·.2)) := by
  rw [h.form]
  exact Grouped.all_ofPairs read

/-- The new files are those at the paths that were created. -/
theorem Taken.mem_created_iff (fresh : s.Fresh policy.destination body.parts.length)
    (h : Taken policy limit s body.parts p stored read) (path : String) :
    path ∈ p.created ↔ s.content? path = none ∧ p.storage.content? path ≠ none := by
  constructor
  · intro hmem
    refine ⟨h.accounted.content_created fresh hmem, ?_⟩
    rw [h.created, List.mem_map] at hmem
    obtain ⟨f, hf, rfl⟩ := hmem
    obtain ⟨part, -, hpart⟩ := mem_of_forall₂ h.eachStored hf
    rw [hpart.content]
    exact Option.some_ne_none _
  · rintro ⟨hbefore, hafter⟩
    by_contra hmem
    exact hafter ((h.accounted.kept path hmem).trans hbefore)

/-- The files of a field come from its file parts. -/
theorem Taken.stored_field (h : Taken policy limit s body.parts p stored read) (field : String) :
    List.Forall₂ (StoredAs policy p.storage) (fileParts body field)
      (Grouped.get p.files field) := by
  have hget : Grouped.get p.files field = stored.filter fun f => f.fieldName = field := by
    rw [h.files, get_listed]
  have hparts : fileParts body field =
      (body.parts.filter isFile).filter fun part => part.name.getD "" == field := by
    rw [fileParts, List.filter_filter]
    exact List.filter_congr fun part _ => Bool.and_comm ..
  rw [hget, hparts]
  exact List.rel_filter (fun part f hf => by simp [hf.field]) h.eachStored

/-- The values of a name come from its parts that are no files. -/
theorem Taken.read_name (h : Taken policy limit s body.parts p stored read) (name : String) :
    List.Forall₂ (fun part value => Utf8.encode value = part.chunks.flatten)
      (textParts body name) (Grouped.get p.form name) := by
  have hparts : textParts body name =
      (body.parts.filter fun part => !isFile part).filter
        fun part => part.name.getD "" == name := by
    rw [textParts, List.filter_filter]
    exact List.filter_congr fun part _ => Bool.and_comm ..
  rw [h.form, Grouped.get_ofPairs, hparts, List.forall₂_map_right_iff]
  exact List.Forall₂.imp (fun _ _ hread => hread.bytes)
    (List.rel_filter (fun part entry hentry => by simp [hentry.name]) h.eachRead)

theorem Taken.received (fresh : s.Fresh policy.destination body.parts.length)
    (h : Taken policy limit s body.parts p stored read)
    (hcounts : checkCounts p.files policy.fields = .ok ()) :
    Received policy limit body s p.storage p.files p.form := by
  have hpaths := h.all_files.map File.path
  exact {
    stored := h.stored_field
    count := h.all_files.length_eq.trans h.eachStored.length_eq.symm
    distinct := hpaths.nodup_iff.2 h.distinct
    left := fun path => by
      rw [hpaths.mem_iff, ← h.created]
      exact h.mem_created_iff fresh path
    kept := fun path hpath => h.accounted.kept path fun hmem =>
      hpath (h.accounted.content_created fresh hmem)
    required := fun field rules hmem => (checkCounts_eq_ok hcounts hmem).1
    maxFiles := fun field rules hmem => (checkCounts_eq_ok hcounts hmem).2
    values := h.read_name
    valueCount := by rw [h.all_form.length_eq, List.length_map, h.eachRead.length_eq]
    valueBytes := fun hlimit => by
      rw [(h.all_form.flatMap_right Utf8.encode).length_eq, List.flatMap_map]
      exact h.counted ▸ h.bounded hlimit }

/-- A body is received as `Received` says, or fails with all that was created accounted for. -/
theorem receiveAll_meets (fresh : s.Fresh policy.destination body.parts.length) :
    Meets (receiveAll policy limit body s)
      (fun _ p => Received policy limit body s p.storage p.files p.form)
      (Accounted policy.destination s body.parts.length) := by
  refine (takeParts_meets fresh taken_nil (by simp)).next ?_
  rintro p ⟨stored, read, htaken⟩
  have hcheck : (do streamFault body; checkCounts p.files policy.fields) = .ok () →
      Received policy limit body s p.storage p.files p.form :=
    fun hok => htaken.received fresh (check_eq_ok.1 hok).2
  cases hres : (do streamFault body; checkCounts p.files policy.fields) with
  | ok u => exact hcheck hres
  | error e => exact htaken.accounted

/-- What is received is the progress that has been made. -/
theorem receive_eq_ok {files : Files} {form : Form} {after : Storage} :
    receive policy limit body s = (.ok (files, form), after) ↔
      ∃ p, receiveAll policy limit body s = (.ok (), p) ∧
        p.files = files ∧ p.form = form ∧ p.storage = after := by
  unfold receive
  rcases receiveAll policy limit body s with ⟨e | u, p⟩ <;> simp [and_assoc]

theorem received_of_receive {files : Files} {form : Form} {after : Storage}
    (fresh : s.Fresh policy.destination body.parts.length)
    (h : receive policy limit body s = (.ok (files, form), after)) :
    Received policy limit body s after files form := by
  obtain ⟨p, hok, rfl, rfl, rfl⟩ := receive_eq_ok.1 h
  exact (receiveAll_meets fresh).of_ok hok

/-- What was created for a body that is refused is removed. -/
theorem content_of_receive_error {e : Error} {after : Storage}
    (fresh : s.Fresh policy.destination body.parts.length)
    (h : receive policy limit body s = (.error e, after)) (path : String) :
    after.content? path = s.content? path := by
  unfold receive at h
  split at h
  · cases h
  · rename_i e' p herror
    cases h
    exact ((receiveAll_meets fresh).of_error herror).content_removed fresh path

/-- A body is received as a whole, or the disk is as it was. -/
theorem receive_all_or_nothing (policy : Policy) (limit : Nat) (body : Multipart) (s : Storage)
    (fresh : s.Fresh policy.destination body.parts.length) :
    match receive policy limit body s with
    | (.ok (files, form), after) => Received policy limit body s after files form
    | (.error _, after) => ∀ path, after.content? path = s.content? path := by
  split
  · rename_i heq
    exact received_of_receive fresh heq
  · rename_i heq
    exact content_of_receive_error fresh heq

end

/-- A required document of at most four bytes. -/
def documentPolicy : Policy := { fields := [("doc", { required := true, maxFiles := 2 })]
                                 maxFileSize := 4 }

/-- A document in two chunks, and a note. -/
def documentBody : Multipart where
  parts := [
    { name := some "doc", fileName := some "a.txt", chunks := [[1, 2], [3]] },
    { name := some "note", chunks := [[104, 105]] }]

theorem receive_all_or_nothing_document :
    Storage.Fresh {} documentPolicy.destination documentBody.parts.length ∧
      ∃ files form after, receive documentPolicy 10 documentBody {} = (.ok (files, form), after) ∧
        Received documentPolicy 10 documentBody {} after files form := by
  have fresh : Storage.Fresh {} documentPolicy.destination documentBody.parts.length :=
    ⟨by decide +kernel, fun _ _ _ => rfl⟩
  have hall := receive_all_or_nothing documentPolicy 10 documentBody {} fresh
  have hok : (receive documentPolicy 10 documentBody {}).1.isOk = true := by decide +kernel
  refine ⟨fresh, ?_⟩
  split at hall
  · rename_i files form after heq
    exact ⟨files, form, after, heq, hall⟩
  · rename_i e after heq
    rw [heq] at hok
    cases hok

end RestKit.Upload
