import RestKit.Proofs.Upload.Received
/-!
# The size of a form

The limit of a form counts the bytes of its values. So the values that are held never exceed it, but
the names come on top: what is held in all fits into the limit exactly if the names, each taken
once, fit into what the contents leave of it (`form_fits_iff`). A long name alone is too much
(`long_name_held`).
-/
namespace RestKit

namespace Form

/-- The bytes of the values that a form holds. -/
def valueBytes (form : Form) : Nat := ((Grouped.all form).flatMap Utf8.encode).length

/-- The bytes of the names that a form holds, each once. -/
def nameBytes (form : Form) : Nat := ((form.map (·.1)).flatMap Utf8.encode).length

/-- All bytes that a form holds. -/
def heldBytes (form : Form) : Nat := form.nameBytes + form.valueBytes

end Form

namespace Upload

open Http (Multipart Part)

/-- The parts of a body that are no files. -/
def texts (parts : List Part) : List Part := parts.filter fun part => !isFile part

/-- The bytes of the contents that become values. -/
def contentBytes (body : Multipart) : Nat :=
  ((texts body.parts).flatMap fun part => part.chunks.flatten).length

/-- The bytes of the names of these contents, each name once. -/
def textNameBytes (body : Multipart) : Nat :=
  (((texts body.parts).map fun part => part.name.getD "").dedup.flatMap Utf8.encode).length

/-- The form of the parts taken so far: `read` are its values in order of arrival. -/
structure Values (limit : Nat) (parts : List Part) (p : Progress) (read : List (String × String)) :
    Prop where
  form : p.form = Grouped.ofPairs read
  eachRead : List.Forall₂ ReadAs (texts parts) read
  counted : p.formBytes = (read.flatMap fun entry => Utf8.encode entry.2).length
  bounded : limit ≠ 0 → p.formBytes ≤ limit

section

variable {policy : Policy} {limit : Nat} {p p' : Progress} {part : Part} {parts rest : List Part}
  {read : List (String × String)} {body : Multipart} {s : Storage} {form : Form}

theorem values_nil : Values limit [] { storage := s } [] where
  form := rfl
  eachRead := .nil
  counted := rfl
  bounded _ := Nat.zero_le _

theorem texts_concat_file (hfile : isFile part = true) : texts (parts ++ [part]) = texts parts := by
  rw [texts, List.filter_append, List.filter_cons_of_neg (by simp [hfile]), List.filter_nil,
    List.append_nil, texts]

theorem texts_concat_text (hfile : isFile part = false) :
    texts (parts ++ [part]) = texts parts ++ [part] := by
  rw [texts, List.filter_append, List.filter_cons_of_pos (by simp [hfile]), List.filter_nil, texts]

theorem Values.reads {entry : String × String} (h : Values limit parts p read)
    (hfile : isFile part = false) (hread : ReadAs part entry) (hreads : Reads limit p p' entry) :
    Values limit (parts ++ [part]) p' (read ++ [entry]) where
  form := by rw [hreads.form, h.form]; exact Grouped.ofPairs_concat.symm
  eachRead := by
    rw [texts_concat_text hfile]
    exact List.rel_append h.eachRead (.cons hread .nil)
  counted := by
    rw [hreads.formBytes, h.counted, List.flatMap_append, List.length_append]
    simp
  bounded := hreads.bounded

theorem takeText_values (h : Values limit parts p read) (hfile : isFile part = false) :
    Meets (takeText limit part p)
      (fun _ p' => ∃ read, Values limit (parts ++ [part]) p' read) fun _ => True := by
  refine (takeText_meets h.bounded).mono ?_ fun _ _ => trivial
  rintro - p' ⟨entry, hread, hreads⟩
  exact ⟨_, h.reads hfile hread hreads⟩

/-- A file leaves the form alone. -/
theorem takeFile_form {clientName : String} (hname : fileName? part = some clientName) :
    Meets (takeFile policy clientName part p)
      (fun _ p' => p'.form = p.form ∧ p'.formBytes = p.formBytes) fun _ => True := by
  unfold takeFile
  dsimp only
  split
  · exact trivial
  · rename_i extension hext
    split
    · exact trivial
    · rename_i hallow
      refine (storeFile_puts hname hext hallow).mono ?_ fun _ _ => trivial
      rintro - p' ⟨-, f, -, hputs⟩
      exact ⟨hputs.form, hputs.formBytes⟩

/-- One part keeps the invariant. -/
theorem takePart_values (h : Values limit parts p read) :
    Meets (takePart policy limit p part)
      (fun _ p' => ∃ read, Values limit (parts ++ [part]) p' read) fun _ => True := by
  unfold takePart
  split
  · rename_i clientName hname
    have hfile : isFile part = true := by rw [isFile, hname]; rfl
    refine (takeFile_form hname).mono ?_ fun _ _ => trivial
    rintro - p' ⟨hform, hbytes⟩
    refine ⟨read, hform.trans h.form, ?_, hbytes.trans h.counted, ?_⟩
    · rw [texts_concat_file hfile]
      exact h.eachRead
    · rw [hbytes]
      exact h.bounded
  · rename_i hname
    exact takeText_values h (by rw [isFile, hname]; rfl)

/-- A run over the parts keeps the invariant. -/
theorem takeParts_values (h : Values limit parts p read) :
    Meets (takeParts policy limit p rest)
      (fun _ p' => ∃ read, Values limit (parts ++ rest) p' read) fun _ => True := by
  induction rest generalizing parts p read with
  | nil => exact ⟨read, by rwa [List.append_nil]⟩
  | cons part rest ih =>
    refine Meets.next (takePart_values h) ?_
    rintro p' ⟨read', h'⟩
    have hrest := ih h'
    rwa [List.append_assoc] at hrest

/-- So does a run over parts none of which may be a file. -/
theorem scanParts_values (h : Values limit parts p read) :
    Meets (scanParts limit p rest)
      (fun _ p' => ∃ read, Values limit (parts ++ rest) p' read) fun _ => True := by
  induction rest generalizing parts p read with
  | nil => exact ⟨read, by rwa [List.append_nil]⟩
  | cons part rest ih =>
    unfold scanParts
    split
    · exact trivial
    · rename_i hname
      refine Meets.next (takeText_values h (Bool.eq_false_iff.2 hname)) ?_
      rintro p' ⟨read', h'⟩
      have hrest := ih h'
      rwa [List.append_assoc] at hrest

/-! ## What is held -/

theorem valueBytes_of_reads {ps : List Part} (h : List.Forall₂ ReadAs ps read) :
    (read.flatMap fun entry => Utf8.encode entry.2) =
      ps.flatMap fun part => part.chunks.flatten := by
  induction h with
  | nil => rfl
  | cons hread _ ih => rw [List.flatMap_cons, List.flatMap_cons, hread.bytes, ih]

theorem names_of_reads {ps : List Part} (h : List.Forall₂ ReadAs ps read) :
    read.map (·.1) = ps.map fun part => part.name.getD "" := by
  induction h with
  | nil => rfl
  | cons hread _ ih => rw [List.map_cons, List.map_cons, hread.name, ih]

/-- The values hold the bytes of the contents. -/
theorem Values.valueBytes_eq (h : Values limit body.parts p read) :
    p.form.valueBytes = contentBytes body := by
  rw [Form.valueBytes, contentBytes, ← valueBytes_of_reads h.eachRead, h.form,
    ((Grouped.all_ofPairs read).flatMap_right Utf8.encode).length_eq, List.flatMap_map]

/-- The names are those of the contents. -/
theorem Values.nameBytes_eq (h : Values limit body.parts p read) :
    p.form.nameBytes = textNameBytes body := by
  rw [Form.nameBytes, textNameBytes, ← names_of_reads h.eachRead, h.form,
    ((Grouped.keys_ofPairs read).flatMap_right Utf8.encode).length_eq]

theorem Values.valueBytes_le (h : Values limit body.parts p read) (hlimit : limit ≠ 0) :
    p.form.valueBytes ≤ limit := by
  have hbytes : p.form.valueBytes = p.formBytes := by
    rw [h.counted, Form.valueBytes, h.form,
      ((Grouped.all_ofPairs read).flatMap_right Utf8.encode).length_eq, List.flatMap_map]
  exact hbytes ▸ h.bounded hlimit

/-- The form that is received was made of the texts. -/
theorem values_of_receive {files : Files} {after : Storage}
    (h : receive policy limit body s = (.ok (files, form), after)) :
    ∃ p read, Values limit body.parts p read ∧ p.form = form := by
  obtain ⟨p, hok, -, rfl, -⟩ := receive_eq_ok.1 h
  have hmeets : Meets (receiveAll policy limit body s)
      (fun _ p => ∃ read, Values limit body.parts p read) fun _ => True := by
    refine (takeParts_values values_nil).next ?_
    rintro p hvalues
    cases hres : (do streamFault body; checkCounts p.files policy.fields) with
    | ok u => exact hvalues
    | error e => trivial
  obtain ⟨read, hvalues⟩ := hmeets.of_ok hok
  exact ⟨p, read, hvalues, rfl⟩

theorem values_of_scanForm (h : scanForm limit body = .ok form) :
    ∃ p read, Values limit body.parts p read ∧ p.form = form := by
  have hmeets : Meets ((scanParts limit { storage := {} } body.parts).next
        fun p => (streamFault body, p))
      (fun _ p => ∃ read, Values limit body.parts p read) fun _ => True := by
    refine (scanParts_values values_nil).next ?_
    rintro p hvalues
    cases hres : streamFault body with
    | ok u => exact hvalues
    | error e => trivial
  unfold scanForm at h
  split at h
  · rename_i p heq
    cases h
    obtain ⟨read, hvalues⟩ := hmeets.of_ok heq
    exact ⟨p, read, hvalues, rfl⟩
  · cases h

/-- A form under a limit holds no more bytes of values than the limit, however many parts there are
and however they are named. The names are not counted: with them the limit holds exactly if they,
each taken once, and the contents are together within it. -/
theorem form_fits_iff (policy : Policy) (body : Multipart) (s : Storage) (hlimit : limit ≠ 0)
    (h : (∃ files after, receive policy limit body s = (.ok (files, form), after)) ∨
      scanForm limit body = .ok form) :
    form.valueBytes ≤ limit ∧
      (form.heldBytes ≤ limit ↔ textNameBytes body + contentBytes body ≤ limit) := by
  have hvalues : ∃ p read, Values limit body.parts p read ∧ p.form = form := by
    rcases h with ⟨files, after, h⟩ | h
    · exact values_of_receive h
    · exact values_of_scanForm h
  obtain ⟨p, read, hvalues, rfl⟩ := hvalues
  refine ⟨hvalues.valueBytes_le hlimit, ?_⟩
  rw [Form.heldBytes, hvalues.nameBytes_eq, hvalues.valueBytes_eq]

end

/-- One name with two values. -/
def notesBody : Multipart where
  parts := [
    { name := some "note", chunks := [[104], [105]] }, { name := some "note", chunks := [[33]] }]

theorem form_fits_iff_notes :
    ∃ form, scanForm 7 notesBody = .ok form ∧ form.valueBytes ≤ 7 ∧ form.heldBytes ≤ 7 := by
  have hscan : scanForm 7 notesBody = .ok [("note", ["hi", "!"])] := by decide +kernel
  obtain ⟨hvalue, hiff⟩ := form_fits_iff {} notesBody {} (by decide) (.inr hscan)
  exact ⟨_, hscan, hvalue, hiff.2 (by decide +kernel)⟩

/-- The name of a single value takes more bytes than the limit allows. -/
theorem long_name_held :
    ∃ form, (1 : Nat) ≠ 0 ∧
      scanForm 1 { parts := [{ name := some "note", chunks := [[120]] }] } = .ok form ∧
      (receive {} 1 { parts := [{ name := some "note", chunks := [[120]] }] } {}).1 =
        .ok ([], form) ∧
      1 < form.heldBytes := by
  refine ⟨[("note", ["x"])], ?_⟩
  decide +kernel

end Upload
end RestKit
