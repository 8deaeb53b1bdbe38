import RestKit.Proofs.Endpoint.Cleanup
import RestKit.Proofs.Upload.Listed
/-!
# Upload policies at the handler

Which files a handler of an endpoint with uploads may rely on. Those of a multipart body keep the
policy; a declared list of content types may admit another body, and then there are no files, be
they required or not (`policy_met_iff`).
-/
namespace RestKit

variable {σ : Type} {v : Visit σ} {w : World σ} {p q : Passage σ} {policy : Upload.Policy}
  {kind : Option BodyKind} {d : Declaration σ} {e : Endpoint σ}

/-- The content type of a request, empty without one. -/
def Visit.contentType (v : Visit σ) : String :=
  (v.request.headers.text? "content-type").getD ""

/-- The request has a multipart body. -/
def Visit.IsMultipart (v : Visit σ) : Prop :=
  Http.hasPrefix Http.multipartType (Http.essence v.contentType) = true

theorem ofType_eq_multipart_iff : BodyKind.ofType v.contentType = .multipart ↔ v.IsMultipart := by
  unfold BodyKind.ofType Visit.IsMultipart
  dsimp only
  split
  · rename_i h
    exact iff_of_true rfl h
  · rename_i h
    refine iff_of_false ?_ h
    split <;> exact nofun

/-! ## What the gate admits -/

/-- An endpoint that was built with uploads reads the bodies of its requests. -/
theorem takesBody_of_build (hbuild : d.build = .ok e) (hupload : e.upload.isSome = true) :
    e.takesBody = true := by
  unfold Declaration.build at hbuild
  dsimp only at hbuild
  split at hbuild
  · cases hbuild
  · split at hbuild
    · cases hbuild
    · split at hbuild
      · cases hbuild
      · split at hbuild
        · cases hbuild
        · rename_i hmethod
          cases hbuild
          simp_all [Endpoint.takesBody]

/-- With uploads, the gate admits what it accepts and nothing else. -/
theorem admits_of_gate {headers : Http.Headers} (htakes : e.takesBody = true)
    (hupload : e.upload.isSome = true) (h : e.gate headers = .ok kind) :
    kind = some (.ofType ((headers.text? "content-type").getD "")) ∧
      ∃ type ∈ e.acceptedTypes,
        Http.admits type ((headers.text? "content-type").getD "") = true := by
  unfold Endpoint.gate at h
  rw [htakes, Bool.not_true, if_neg Bool.false_ne_true] at h
  dsimp only at h
  split at h
  · rename_i haccepts
    cases h
    exact ⟨rfl, List.any_eq_true.1 haccepts⟩
  · split at h
    · rename_i hforms
      rw [Option.isNone_eq_false_iff.2 hupload, Bool.false_and, Bool.false_and] at hforms
      exact absurd hforms Bool.false_ne_true
    · cases h

theorem hasPrefix_of_admits_multipart {contentType : String}
    (h : Http.admits Http.multipartType contentType = true) :
    Http.hasPrefix Http.multipartType (Http.essence contentType) = true := by
  have hessence : Http.essence Http.multipartType = Http.multipartType := by decide +kernel
  unfold Http.admits at h
  dsimp only at h
  rw [hessence, if_pos (beq_self_eq_true _)] at h
  split at h
  · cases h
  · exact h

/-- What is not multipart is admitted by the declared list. -/
theorem multipart_or_declared {type : String} (hupload : v.endpoint.upload.isSome = true)
    (htype : type ∈ v.endpoint.acceptedTypes) (hadmits : Http.admits type v.contentType = true) :
    v.IsMultipart ∨ type ∈ v.endpoint.contentTypes := by
  unfold Endpoint.acceptedTypes at htype
  rw [hupload, if_pos rfl] at htype
  split at htype
  · exact .inr htype
  · cases List.mem_singleton.1 htype
    exact .inl (hasPrefix_of_admits_multipart hadmits)

/-! ## Files at the handler -/

/-- The rules of no field ask for a file. -/
def NoneRequired (policy : Upload.Policy) : Prop :=
  ∀ field rules, (field, rules) ∈ policy.fields → rules.required = false

theorem met_nil_iff : policy.Met [] ↔ NoneRequired policy := by
  constructor
  · intro h field rules hmem
    by_contra hrequired
    exact h.required field rules hmem (by simpa using hrequired) rfl
  · intro h
    exact {
      required := fun field rules hmem hrequired => by simp [h field rules hmem] at hrequired
      maxFiles := fun _ _ _ _ => Nat.zero_le _
      each := fun _ f hf => by cases hf }

/-- The files of a multipart body keep the policy. -/
theorem met_of_multipart (hupload : v.endpoint.upload = some policy)
    (hkind : q.kind = some .multipart) (hread : Passes v q .body p) :
    policy.Met p.context.files := by
  cases hread with
  | unread h | json h | form h => simp [hkind] at h
  | multipart _ _ hreceived =>
    rw [Visit.received, hupload] at hreceived
    obtain ⟨progress, hall, rfl, rfl, rfl⟩ := Upload.receive_eq_ok.1 hreceived
    obtain ⟨⟨stored, hlisted⟩, hcounts⟩ := Upload.receiveAll_listed hall
    exact hlisted.met hcounts

/-- A body that is not multipart has no files. -/
theorem files_of_not_multipart (hkind : q.kind ≠ some .multipart) (hread : Passes v q .body p) :
    p.context.files = q.context.files := by
  cases hread with
  | unread | json | form => rfl
  | multipart h => exact absurd h hkind

/-- The files at the handler keep the policy of an endpoint that was built with one, just when the
body is multipart or no file is required. Only the declared list lets another body pass, and then
there are no files. -/
theorem policy_met_iff (hbuild : d.build = .ok v.endpoint)
    (hupload : v.endpoint.upload = some policy) (hreach : Along v Step.order (.start v w) p) :
    (policy.Met p.context.files ↔ v.IsMultipart ∨ NoneRequired policy) ∧
      (v.IsMultipart ∨ p.context.files = [] ∧
        ∃ type ∈ v.endpoint.contentTypes, Http.admits type v.contentType = true) := by
  have hsome : v.endpoint.upload.isSome = true := by rw [hupload]; rfl
  obtain ⟨kind, q, r, hgate, hkind, -, hstart, hread, hsame⟩ := exists_read_of_along hreach
  obtain ⟨rfl, type, htype, hadmits⟩ :=
    admits_of_gate (takesBody_of_build hbuild hsome) hsome hgate
  rw [hsame.files]
  by_cases hmultipart : v.IsMultipart
  · have hof : BodyKind.ofType v.contentType = .multipart := ofType_eq_multipart_iff.2 hmultipart
    have hmet := met_of_multipart hupload (hkind.trans (congrArg some hof)) hread
    exact ⟨iff_of_true hmet (.inl hmultipart), .inl hmultipart⟩
  · have hof : BodyKind.ofType v.contentType ≠ .multipart := mt ofType_eq_multipart_iff.1 hmultipart
    have hnil : r.context.files = [] := by
      rw [files_of_not_multipart (fun h => hof (Option.some.inj (hkind.symm.trans h))) hread,
        hstart.files]
      rfl
    rw [hnil, met_nil_iff]
    have hdeclared := (multipart_or_declared hsome htype hadmits).resolve_left hmultipart
    exact ⟨by simp [hmultipart], .inr ⟨rfl, type, hdeclared, hadmits⟩⟩

/-- Takes a required document, as multipart or JSON. -/
def documentDeclaration : Declaration Unit where
  info := { name := "doc", method := "POST", path := "/doc", isPublic := true }
  contentTypes := ["multipart/form-data", "application/json"]
  upload := some Upload.documentPolicy
  handler := some fun _ _ s => { outcome := .done (.bare 204), state := s }

/-- The endpoint that is declared so. -/
def documentEndpoint : Endpoint Unit where
  info := documentDeclaration.info
  params := []
  body := none
  contentTypes := documentDeclaration.contentTypes
  upload := some Upload.documentPolicy
  limiter := none
  handler := fun _ _ s => { outcome := .done (.bare 204), state := s }
  disabled := false

theorem build_documentDeclaration : documentDeclaration.build = .ok documentEndpoint := rfl

def documentVisit (contentType body : String) : Visit Unit where
  app := { process := .development }
  endpoint := documentEndpoint
  request := {
    method := "POST", uri := ⟨"/doc", none⟩
    headers := [("content-type", Utf8.encode contentType)], body := Utf8.encode body }
  path := []

def multipartVisit : Visit Unit :=
  documentVisit "multipart/form-data; boundary=B"
    ("--B\r\nContent-Disposition: form-data; name=\"doc\"; filename=\"a.txt\"" ++
      "\r\n\r\n1\r\n--B--\r\n")

def jsonVisit : Visit Unit := documentVisit "application/json" "null"

theorem policy_met_iff_multipart :
    ∃ p, Along multipartVisit Step.order (.start multipartVisit emptyWorld) p ∧
      Upload.documentPolicy.Met p.context.files := by
  have hreach : .handler ∈ stepsOf multipartVisit emptyWorld := by decide +kernel
  obtain ⟨-, p, hp⟩ := mem_stepsOf_iff.1 hreach
  rw [Step.before_handler] at hp
  have hmultipart : multipartVisit.IsMultipart := by
    unfold Visit.IsMultipart
    decide +kernel
  have hiff := (policy_met_iff (d := documentDeclaration) build_documentDeclaration rfl hp).1
  exact ⟨p, hp, hiff.2 (.inl hmultipart)⟩

/-- A required document is missing where the body is JSON. -/
theorem required_document_missing :
    documentDeclaration.build = .ok jsonVisit.endpoint ∧
      jsonVisit.endpoint.upload = some Upload.documentPolicy ∧
      ∃ p, Along jsonVisit Step.order (.start jsonVisit emptyWorld) p ∧
        p.context.files = [] ∧ ¬ Upload.documentPolicy.Met p.context.files := by
  have hreach : .handler ∈ stepsOf jsonVisit emptyWorld := by decide +kernel
  obtain ⟨-, p, hp⟩ := mem_stepsOf_iff.1 hreach
  rw [Step.before_handler] at hp
  obtain ⟨kind, q, r, hgate, hkind, -, hstart, hread, hsame⟩ := exists_read_of_along hp
  have hjson : jsonVisit.endpoint.gate jsonVisit.request.headers = .ok (some .json) := by
    decide +kernel
  cases hgate.symm.trans hjson
  have hnil : p.context.files = [] := by
    rw [hsame.files, files_of_not_multipart (by rw [hkind]; exact nofun) hread, hstart.files]
    rfl
  refine ⟨build_documentDeclaration, rfl, p, hp, hnil, ?_⟩
  rw [hnil]
  exact fun h => h.required "doc" _ (List.mem_cons_self ..) rfl rfl

end RestKit
