import RestKit.Proofs.App.Registry
import RestKit.Proofs.App.Router
import RestKit.Proofs.Auth.RoundTrip
import RestKit.Proofs.Demo.Contact
import RestKit.Proofs.Endpoint.Status
/-!
# The contact book over a run

Whatever requests come to the contact book's router, in whatever order, its contacts stay sound and
their emails distinct, and a contact is added exactly by each request that `create_contact` answers
with 201, which bears a valid token of one of the roles (`contacts_of_requests`).
-/
namespace RestKit.Demo
open Schema Body

variable {process : Config} {a : App Book} {r : Router Book} {e : Endpoint Book} {v : Visit Book}
  {w : World Book} {q : Request} {book : Book} {c : Contact}

/-! ## The application -/

/-- The endpoints that the declarations write down. -/
def endpoints (process : Config) : List (Endpoint Book) :=
  (declarations process).filterMap fun d => d.handler.map d.endpoint

theorem valid_of_declared {d : Declaration Book} (hd : d ∈ declarations process) : d.Valid := by
  simp only [declarations, List.mem_cons, List.not_mem_nil, or_false] at hd
  rcases hd with rfl | rfl | rfl | rfl | rfl <;>
    exact ⟨by dsimp only; decide, by dsimp only; decide +kernel, by dsimp only; decide⟩

theorem built (process : Config) :
    List.Forall₂ (fun d e => Declaration.build d = .ok e) (declarations process)
      (endpoints process) := by
  have hbuild : ∀ d ∈ declarations process, ∀ handler, d.handler = some handler →
      d.build = .ok (d.endpoint handler) := fun d hd handler hhandler =>
    Declaration.build_eq_ok.2 ⟨handler, hhandler, valid_of_declared hd, rfl⟩
  simp only [declarations, List.forall_mem_cons] at hbuild
  obtain ⟨health, token, list, create, avatar, -⟩ := hbuild
  exact .cons (health _ rfl) (.cons (token _ rfl) (.cons (list _ rfl)
    (.cons (create _ rfl) (.cons (avatar _ rfl) .nil))))

/-- The application of the endpoints. -/
def contactApp (process : Config) : App Book where
  process
  authorizer := some (.jwt process.security.jwtSecret)
  auditHandler := some .log
  endpoints := endpoints process

theorem app_eq (process : Config) : app process = .ok (contactApp process) := by
  have hapart : ((endpoints process).map (·.info)).Pairwise EndpointInfo.Apart := by
    simp [endpoints, declarations, Declaration.endpoint, EndpointInfo.Apart]
  unfold app
  rw [App.foldlM_declare (built process) (by rwa [List.nil_append])]
  rfl

theorem router_isDone (process : Config) : ∃ r, (contactApp process).router = .done r := by
  have hpaths : (contactApp process).endpoints.map (·.info.path) =
      ["/health", "/auth/token", "/contacts", "/contacts", "/contacts/:id/avatar"] := rfl
  have hroutes : (contactApp process).routes = [("GET", "/health"), ("POST", "/auth/token"),
      ("GET", "/contacts"), ("POST", "/contacts"), ("POST", "/contacts/:id/avatar")] := rfl
  refine App.exists_router (fun e he => ⟨?_, ?_⟩) (by rw [hroutes]; decide) ?_
  · cases hupload : e.upload <;> simp [Endpoint.directoryError?, hupload]
  · obtain ⟨d, hd, heq⟩ := List.mem_filterMap.1 he
    obtain ⟨handler, -, rfl⟩ := Option.map_eq_some_iff.1 heq
    exact (valid_of_declared hd).method
  · rw [hpaths]
    decide +kernel

/-- The endpoint that takes new contacts. -/
def contactEndpoint : Endpoint Book where
  info := { name := "create_contact", method := "POST", path := "/contacts"
            roles := ["admin", "member"], actionType := some "create", modelName := some "contact" }
  params := []
  body := some (.model newContact)
  contentTypes := []
  upload := none
  limiter := none
  handler := createContact
  disabled := false

theorem issueToken_keeps (process : Config) (ctx : Context) (s : Upload.Storage) (book : Book) :
    (issueToken process ctx s book).state = book := by
  unfold issueToken
  split
  · rfl
  · dsimp only
    split
    · rfl
    · split <;> rfl

/-- One endpoint takes contacts, and the handlers of the others leave the book as it is. -/
theorem contactEndpoint_or_keeps (he : e ∈ endpoints process) :
    e = contactEndpoint ∨
      e.info.name ≠ "create_contact" ∧ ∀ ctx s book, (e.handler ctx s book).state = book := by
  obtain ⟨d, hd, he⟩ := List.mem_filterMap.1 he
  simp only [declarations, List.mem_cons, List.not_mem_nil, or_false] at hd
  rcases hd with rfl | rfl | rfl | rfl | rfl <;> cases he
  · exact .inr ⟨by simp [Declaration.endpoint], fun _ _ _ => rfl⟩
  · exact .inr ⟨by simp [Declaration.endpoint], issueToken_keeps process⟩
  · exact .inr ⟨by simp [Declaration.endpoint], fun _ _ _ => rfl⟩
  · exact .inl rfl
  · exact .inr ⟨by simp [Declaration.endpoint], fun _ _ _ => rfl⟩

/-! ## Admission -/

/-- The emails of sound contacts are distinct. -/
structure Book.Sound (book : Book) : Prop where
  emails : (book.contacts.map (·.email)).Nodup
  contacts : ∀ c ∈ book.contacts, c.Sound

/-- The request bears a token that is valid at its time, of one of some roles. -/
def BearsRole (secret : String) (roles : List String) (q : Request) : Prop :=
  ∃ token claims, Auth.bearer q.headers = .ok token ∧
    Auth.Jwt.validate secret (q.time / Auth.nanosPerSecond) token = .ok claims ∧
    claims.role ∈ roles

/-- The endpoint `create_contact` answers the request with 201. -/
def creates (r : Router Book) (q : Request) (w : World Book) : Bool :=
  (r.visit? q).any (·.endpoint.info.name == "create_contact") &&
    (r.handle q w).1.any (·.status == 201)

theorem refuses_authorize (secret : String) (ctx : Context) :
    Refuses (Auth.authorize secret ctx) := by
  refine .bind (.mapError fun message => by simp) fun token _ => ?_
  refine .bind (.mapError fun fault => by simp) fun claims _ => .ok _

theorem othersFail (happ : v.app = contactApp process) (hendpoint : v.endpoint = contactEndpoint) :
    v.OthersFail where
  body type htype := by
    rw [hendpoint] at htype
    cases htype
    exact ⟨newContact, rfl, fun stage _ _ => by cases stage <;> exact .ok _, fun _ _ => .ok _⟩
  authorizer authorizer hauthorizer ctx e hrefused := by
    rw [happ] at hauthorizer
    cases hauthorizer
    exact refuses_authorize _ _ e (Auth.jwt_eq_refused.1 hrefused)
  limiter limiter hlimiter := by
    rw [hendpoint] at hlimiter
    cases hlimiter

/-- Who comes to the handler bears a token of one of the roles. -/
theorem bearsRole_of_along {p : Passage Book} (happ : v.app = contactApp process)
    (hendpoint : v.endpoint = contactEndpoint) (halong : Along v Step.order (.start v w) p) :
    BearsRole process.security.jwtSecret ["admin", "member"] v.request := by
  have hasked : v.app.authorizer = some (.jwt process.security.jwtSecret) := by
    rw [happ]
    rfl
  obtain ⟨ctx, accepted, hheaders, hnow, haccepts, hroles⟩ :=
    accepted_of_along halong (by rw [hendpoint]; rfl) hasked
  rw [Auth.jwt_eq_done] at haccepts
  simp only [Auth.authorize, bind_eq_ok, mapError_eq_ok, pure_eq_ok] at haccepts
  obtain ⟨token, htoken, claims, hclaims, rfl⟩ := haccepts
  rw [hheaders] at htoken
  rw [hnow] at hclaims
  rw [hendpoint] at hroles
  exact ⟨token, claims, htoken, hclaims, (hroles _ rfl).resolve_left (List.cons_ne_nil _ _)⟩

/-! ## The handler -/

/-- The contact that a body describes takes the next id. -/
def Book.next (book : Book) (v : Json) : Contact := .ofBody (book.ids book.used) v

/-- Without a body, or if its email is taken, no contact is created. -/
theorem createContact_refused {ctx : Context} {s : Upload.Storage}
    (h : ∀ v, ctx.bodyOf newContact.type = some v →
      ∃ c ∈ book.contacts, c.email = (book.next v).email) :
    (∃ e, (createContact ctx s book).outcome = .refused e ∧ e.Failed) ∧
      (createContact ctx s book).state.contacts = book.contacts := by
  unfold createContact
  cases hbody : ctx.bodyOf newContact.type with
  | none => exact ⟨⟨_, rfl, by simp⟩, rfl⟩
  | some v =>
    have htaken : book.contacts.any (·.email == (book.next v).email) = true := by
      simpa using h v hbody
    dsimp only
    rw [Book.next] at htaken
    rw [if_pos htaken]
    exact ⟨⟨_, rfl, by simp⟩, rfl⟩

/-- The contact of a body with a new email is added, and the answer is 201. -/
theorem createContact_done {ctx : Context} {s : Upload.Storage} {value : Json}
    (hbody : ctx.bodyOf newContact.type = some value)
    (hnew : ∀ c ∈ book.contacts, c.email ≠ (book.next value).email) :
    (∃ response, (createContact ctx s book).outcome = .done response ∧ response.status = 201) ∧
      (createContact ctx s book).state.contacts = book.contacts ++ [book.next value] := by
  have hfree : ¬ book.contacts.any (·.email == (book.next value).email) = true := by
    simpa using hnew
  unfold createContact
  rw [hbody]
  dsimp only
  rw [Book.next] at hfree
  rw [if_neg hfree]
  exact ⟨⟨_, rfl, rfl⟩, rfl⟩

/-! ## One request -/

/-- What a request makes of the contacts: nothing, or it adds a sound contact with a new email. -/
inductive Effect (process : Config) (r : Router Book) (q : Request) (w : World Book) : Prop
  | kept (hanswer : creates r q w = false)
    (hcontacts : (r.handle q w).2.state.contacts = w.state.contacts)
  | added {c : Contact} (hanswer : creates r q w = true)
    (hbears : BearsRole process.security.jwtSecret ["admin", "member"] q) (hsound : c.Sound)
    (hnew : ∀ old ∈ w.state.contacts, old.email ≠ c.email)
    (hcontacts : (r.handle q w).2.state.contacts = w.state.contacts ++ [c])

/-- What the router sends is of the status that the endpoint answers with. -/
theorem creates_iff (hvisit : r.visit? q = some v) :
    creates r q w = true ↔ v.endpoint.info.name = "create_contact" ∧
      ∃ response, (dispatch v w).1 = some response ∧ response.status = 201 := by
  have hstatus (response : Response) :
      (Router.sent q.method response).status = response.status := by
    unfold Router.sent
    split <;> rfl
  unfold creates
  rw [Router.handle_of_visit hvisit, hvisit, Bool.and_eq_true, Option.any_some, beq_iff_eq]
  refine and_congr_right fun _ => ?_
  cases (dispatch v w).1 with
  | none => simp
  | some response => simp [hstatus]

/-- The contact of a body that comes to the handler is sound. -/
theorem sound_of_along {p : Passage Book} {value : Json} (id : String)
    (hendpoint : v.endpoint = contactEndpoint) (halong : Along v Step.order (.start v w) p)
    (hbody : p.context.bodyOf newContact.type = some value) : (Contact.ofBody id value).Sound := by
  unfold Context.bodyOf at hbody
  obtain ⟨b, hb, htype⟩ := Option.bind_eq_some_iff.1 hbody
  obtain ⟨type, ctx, source, hdeclared, hreceive⟩ := receive_of_along halong hb
  rw [hendpoint] at hdeclared
  cases hdeclared
  split at htype
  · cases htype
    exact sound_of_receive id hreceive
  · cases htype

/-- The handler answers a request that passes all steps, and gives the new book. -/
theorem handled_of_along {p : Passage Book} (hvisit : r.visit? q = some v)
    (hendpoint : v.endpoint = contactEndpoint) (halong : Along v Step.order (.start v w) p) :
    (dispatch v w).1 = responseOf (createContact p.context p.world.storage w.state).outcome ∧
      (r.handle q w).2.state = (createContact p.context p.world.storage w.state).state := by
  have hhandler : v.endpoint.handler = createContact := by
    rw [hendpoint]
    rfl
  have hdeadline : v.endpoint.info.timeout = none := by
    rw [hendpoint]
    rfl
  have henabled : v.endpoint.disabled = false := by
    rw [hendpoint]
    rfl
  have hbefore : p.world.state = w.state := halong.state_eq
  obtain ⟨hresponse, hstate⟩ := dispatch_of_along henabled halong
  rw [hhandler] at hstate
  rw [handlerOutcome, hhandler, hdeadline, hbefore, Outcome.within_none] at hresponse
  exact ⟨hresponse, by rw [Router.handle_of_visit hvisit, hstate]⟩

/-- A request whose answer, if there is one, is a failure has no effect. -/
theorem Effect.of_failed (hvisit : r.visit? q = some v)
    (hfailed : ∀ response, (dispatch v w).1 = some response → 400 ≤ response.status)
    (hcontacts : (r.handle q w).2.state.contacts = w.state.contacts) : Effect process r q w := by
  refine .kept ?_ hcontacts
  rw [← Bool.not_eq_true, creates_iff hvisit]
  rintro ⟨-, response, hresponse, hstatus⟩
  have hatLeast := hfailed response hresponse
  omega

/-- A request that comes to the handler has the handler's effect. -/
theorem effect_of_along {p : Passage Book} (hvisit : r.visit? q = some v)
    (happ : v.app = contactApp process) (hrequest : v.request = q)
    (hendpoint : v.endpoint = contactEndpoint) (halong : Along v Step.order (.start v w) p) :
    Effect process r q w := by
  obtain ⟨hresponse, hstate⟩ := handled_of_along hvisit hendpoint halong
  by_cases hnew : ∃ value, p.context.bodyOf newContact.type = some value ∧
      ∀ c ∈ w.state.contacts, c.email ≠ (w.state.next value).email
  · obtain ⟨value, hbody, hnew⟩ := hnew
    obtain ⟨⟨response, houtcome, hstatus⟩, hcontacts⟩ := createContact_done hbody hnew
    rw [houtcome] at hresponse
    have hanswer : creates r q w = true :=
      (creates_iff hvisit).2 ⟨by rw [hendpoint]; rfl, response, hresponse, hstatus⟩
    have hbears := bearsRole_of_along happ hendpoint halong
    rw [hrequest] at hbears
    rw [← hstate] at hcontacts
    exact .added hanswer hbears (sound_of_along _ hendpoint halong hbody) hnew hcontacts
  · have htaken : ∀ value, p.context.bodyOf newContact.type = some value →
        ∃ c ∈ w.state.contacts, c.email = (w.state.next value).email := by
      intro value hbody
      by_contra hnone
      exact hnew ⟨value, hbody, fun c hc heq => hnone ⟨c, hc, heq⟩⟩
    obtain ⟨⟨e, houtcome, hfailed⟩, hcontacts⟩ := createContact_refused htaken
    rw [houtcome] at hresponse
    refine .of_failed hvisit (fun response hsome => ?_) (by rw [hstate, hcontacts])
    cases hresponse.symm.trans hsome
    exact hfailed

theorem effect_of_contactEndpoint (hvisit : r.visit? q = some v)
    (happ : v.app = contactApp process) (hrequest : v.request = q)
    (hendpoint : v.endpoint = contactEndpoint) : Effect process r q w := by
  rcases along_or_failsAt v w with ⟨p, halong⟩ | ⟨passed, step, o, p, hfailsAt⟩
  · exact effect_of_along hvisit happ hrequest hendpoint halong
  · have henabled : v.endpoint.disabled = false := by
      rw [hendpoint]
      rfl
    obtain ⟨hresponse, hstate⟩ := dispatch_of_failsAt henabled hfailsAt
    refine .of_failed hvisit (fun response hsome => ?_)
      (by rw [Router.handle_of_visit hvisit, hstate])
    exact failed_of_failsAt (othersFail happ hendpoint) hfailsAt (hresponse ▸ hsome)

/-- An endpoint whose handler leaves the state does so as a whole. -/
theorem state_of_dispatch (hkeeps : ∀ ctx s book, (v.endpoint.handler ctx s book).state = book)
    (w : World Book) : (dispatch v w).2.state = w.state := by
  cases hdisabled : v.endpoint.disabled with
  | true => rw [dispatch_of_disabled hdisabled]
  | false =>
    rcases along_or_failsAt v w with ⟨p, halong⟩ | ⟨passed, step, o, p, hfailsAt⟩
    · exact (dispatch_of_along hdisabled halong).2.trans (hkeeps ..)
    · exact (dispatch_of_failsAt hdisabled hfailsAt).2

/-- Every request to the router has one of the two effects. -/
theorem effect (hr : (contactApp process).router = .done r) (q : Request) (w : World Book) :
    Effect process r q w := by
  cases hvisit : r.visit? q with
  | none =>
    refine .kept ?_ (by rw [Router.handle_of_none hvisit])
    rw [creates, hvisit]
    rfl
  | some v =>
    obtain ⟨happ, hrequest, hmem⟩ := Router.visit_of_router hr hvisit
    rcases contactEndpoint_or_keeps hmem with hendpoint | ⟨hname, hkeeps⟩
    · exact effect_of_contactEndpoint hvisit happ hrequest hendpoint
    · refine .kept ?_ (by rw [Router.handle_of_visit hvisit, state_of_dispatch hkeeps])
      rw [← Bool.not_eq_true, creates_iff hvisit]
      exact fun h => hname h.1

/-! ## Runs -/

/-- A sound book stays sound. -/
theorem Effect.sound (h : Effect process r q w) (hw : w.state.Sound) :
    (r.handle q w).2.state.Sound := by
  cases h with
  | kept _ hcontacts =>
    constructor <;> rw [hcontacts]
    · exact hw.emails
    · exact hw.contacts
  | added _ _ hsound hnew hcontacts =>
    constructor <;> rw [hcontacts]
    · rw [List.map_append, List.map_singleton, List.nodup_append]
      refine ⟨hw.emails, List.nodup_singleton _, ?_⟩
      intro email hemail other hother
      obtain ⟨old, hold, rfl⟩ := List.mem_map.1 hemail
      rw [List.mem_singleton.1 hother]
      exact hnew old hold
    · intro c hc
      rcases List.mem_append.1 hc with hc | hc
      · exact hw.contacts c hc
      · rw [List.mem_singleton.1 hc]
        exact hsound

/-- How many of the requests of a run are answered with 201 by `create_contact`. -/
def created (r : Router Book) (w : World Book) (requests : List Request) : Nat :=
  (r.found w requests).countP fun x => creates r x.1 x.2

theorem length_worldAfter (hr : (contactApp process).router = .done r) (w : World Book)
    (requests : List Request) :
    (r.worldAfter w requests).state.contacts.length =
      w.state.contacts.length + created r w requests := by
  induction requests generalizing w with
  | nil => rfl
  | cons q requests ih =>
    have hcount : created r w (q :: requests) =
        created r (r.handle q w).2 requests + if creates r q w then 1 else 0 := by
      rw [created, Router.found, List.countP_cons, created]
    rw [Router.worldAfter, ih, hcount]
    cases effect hr q w with
    | kept hanswer hcontacts =>
      rw [hcontacts, hanswer, if_neg Bool.false_ne_true]
      omega
    | added hanswer _ _ _ hcontacts =>
      rw [hcontacts, hanswer, if_pos rfl, List.length_append, List.length_singleton]
      omega

/-- **The contacts of a run.** Whatever requests come, the application has a router behind which
the contacts stay sound and their emails distinct; there is one more contact for each request that
`create_contact` answers with 201, and the contacts change at no other request; and each such
request bears a valid token of one of the roles. -/
theorem contacts_of_requests (process : Config) (w : World Book) (hbook : w.state.Sound)
    (requests : List Request) :
    ∃ a r, app process = .ok a ∧ a.router = .done r ∧
      (r.worldAfter w requests).state.Sound ∧
      (r.worldAfter w requests).state.contacts.length =
        w.state.contacts.length + created r w requests ∧
      ∀ x ∈ r.found w requests, Effect process r x.1 x.2 := by
  obtain ⟨r, hr⟩ := router_isDone process
  have hsteps : ∀ q w, w.state.Sound → (r.handle q w).2.state.Sound := fun q w hw =>
    (effect hr q w).sound hw
  exact ⟨contactApp process, r, app_eq process, hr, (Router.run_keeps hsteps hbook requests).1,
    length_worldAfter hr w requests, fun x _ => effect hr x.1 x.2⟩

/-- A process that signs its tokens. -/
def signedProcess : Config :=
  { Config.development with
    security := { Config.development.security with jwtSecret := "s" } }

def memberClaims : Auth.Claims where
  sub := "7"
  role := "member"
  userType := "demo"
  exp := 100
  iat := 0

/-- A request for a contact, in the first second, with a token. -/
def annRequest : Request where
  method := "POST"
  uri := ⟨"/contacts", none⟩
  headers := [("authorization", Auth.bearing (Auth.Jwt.tokenText memberClaims "s")),
    ("content-type", Utf8.encode "application/json")]
  body := Utf8.encode "\x7b\"email\":\"ANN@b.co\",\"name\":\" Ann \",\"tags\":[\"x\"]\x7d"

/-- The contact as it is sent, and as it is bound and normalized. -/
def annBody (name email : String) : Json :=
  .ofPairs [("name", .string name), ("email", .string email), ("age", .int 0),
    ("tags", .array [.string "x"])]

def annVisit (path : List (String × String)) : Visit Book where
  app := contactApp signedProcess
  endpoint := contactEndpoint
  request := annRequest
  path

def emptyBook : World Book := { state := {} }

theorem accepts_ann {ctx : Context} (hheaders : ctx.headers = annRequest.headers)
    (hnow : ctx.now = 0) : Auth.Authorizer.jwt "s" ctx = .done (.ofClaims memberClaims) := by
  have hheader : ctx.headers.first? "authorization" =
      some (Auth.bearing (Auth.Jwt.tokenText memberClaims "s")) := by
    rw [hheaders]
    rfl
  have hvalid : Auth.Jwt.validate "s" (ctx.now / Auth.nanosPerSecond)
      (Auth.Jwt.tokenText memberClaims "s") = .ok memberClaims := by
    refine Auth.Jwt.validate_own ⟨by decide, by decide⟩ (by decide) ?_
    rw [hnow]
    decide
  rw [Auth.Authorizer.jwt, Auth.authorize_tokenText hheader, hvalid]
  rfl

theorem check_newContact (ctx ctx' : Context) (v : Json) :
    newContact.check ctx v = newContact.check ctx' v := rfl

/-- The request for a contact passes all steps. -/
theorem along_ann (path : List (String × String)) :
    ∃ p, Along (annVisit path) Step.order (.start (annVisit path) emptyBook) p ∧
      p.context.bodyOf newContact.type = some (annBody "Ann" "ann@b.co") := by
  have hgate : contactEndpoint.gate annRequest.headers = .ok (some .json) := by decide +kernel
  have hbind : (BodyType.model newContact).bind (.json annRequest.body) =
      .ok (annBody " Ann " "ANN@b.co") := by decide +kernel
  have hnormalize : newContact.transform .normalize (annBody " Ann " "ANN@b.co") =
      .ok (annBody "Ann" "ann@b.co") := by decide +kernel
  have hsanitize : newContact.transform .sanitize (annBody "Ann" "ann@b.co") =
      .ok (annBody "Ann" "ann@b.co") := by decide +kernel
  have hvalidate : ∀ ctx, newContact.check ctx (annBody "Ann" "ann@b.co") = .ok () := fun ctx =>
    (check_newContact ctx (.detached .development) _).trans (by decide +kernel)
  have hsize : (annVisit path).request.body.length ≤ (annVisit path).maxSize := by
    have hrequest : (annVisit path).request = annRequest := rfl
    have hlength : annRequest.body.length = 48 := by decide +kernel
    have hmax : (annVisit path).maxSize = 10485760 := rfl
    rw [hrequest, hlength, hmax]
    decide
  have hrun : ∀ (stage : Schema.Stage) (ctx : Context) (v v' : Json),
      newContact.transform stage v = .ok v' →
        BodyType.run stage ctx (.model newContact) v = ⟨v', none⟩ := by
    intro stage ctx v v' h
    rw [BodyType.run, run_newContact, h]
    rfl
  have hrole : ∀ principal, (Auth.Authorization.ofClaims memberClaims).principal = some principal →
      contactEndpoint.info.roles = [] ∨ principal.role ∈ contactEndpoint.info.roles := by
    rintro _ ⟨⟩
    exact .inr (by decide)
  unfold Step.order
  exact ⟨_, .cons (.untimed rfl) <| .cons (.gate hgate) <| .cons (.json rfl hsize) <|
    .cons (.bound rfl rfl hbind (hrun _ _ _ _ hnormalize) (hrun _ _ _ _ hsanitize) (hvalidate _)) <|
    .cons (.params (List.forall_mem_nil _)) <| .cons (.unfiltered rfl) <|
    .cons (.authorized rfl rfl (accepts_ann rfl rfl)) <| .cons (.roles (.inr hrole)) <|
    .cons (.unlimited rfl) .nil, rfl⟩

/-- The router takes the request to the endpoint for contacts. -/
theorem visit_ann (hr : (contactApp signedProcess).router = .done r) :
    ∃ path, r.visit? annRequest = some (annVisit path) := by
  have hname : (contactApp signedProcess).router.map
      (fun r => (r.visit? annRequest).map (·.endpoint.info.name)) =
        .done (some "create_contact") := by decide +kernel
  rw [hr, Outcome.map, Outcome.done.injEq] at hname
  obtain ⟨v, hvisit, hname⟩ := Option.map_eq_some_iff.1 hname
  obtain ⟨happ, hrequest, hmem⟩ := Router.visit_of_router hr hvisit
  have hendpoint := (contactEndpoint_or_keeps hmem).resolve_right fun h => h.1 hname
  obtain ⟨app, endpoint, request, path⟩ := v
  cases happ
  cases hrequest
  cases hendpoint
  exact ⟨path, hvisit⟩

/-- A sound book to start with, and a request behind which it has a contact. -/
theorem contacts_of_requests_ann :
    emptyBook.state.Sound ∧ ∃ a r, app signedProcess = .ok a ∧ a.router = .done r ∧
      (r.worldAfter emptyBook [annRequest]).state.Sound ∧
      (r.worldAfter emptyBook [annRequest]).state.contacts.map (·.email) = ["ann@b.co"] := by
  have hempty : emptyBook.state.Sound := ⟨.nil, nofun⟩
  obtain ⟨a, r, ha, hr, hsound, -, -⟩ :=
    contacts_of_requests signedProcess emptyBook hempty [annRequest]
  refine ⟨hempty, a, r, ha, hr, hsound, ?_⟩
  cases (app_eq signedProcess).symm.trans ha
  obtain ⟨path, hvisit⟩ := visit_ann hr
  obtain ⟨p, halong, hbody⟩ := along_ann path
  have hnew : ∀ c ∈ emptyBook.state.contacts,
      c.email ≠ (emptyBook.state.next (annBody "Ann" "ann@b.co")).email := nofun
  have hcontacts := (createContact_done (s := p.world.storage) hbody hnew).2
  rw [Router.worldAfter, Router.worldAfter, (handled_of_along hvisit rfl halong).2, hcontacts]
  decide +kernel

end RestKit.Demo
