import RestKit.Endpoint.Pipeline
import RestKit.Proofs.Param.Reading
/-!
# The rules of the steps

What it takes to pass each step before the handler, and what becomes of the request that does not
pass: `Passes` and `Fails` have one rule for each way. The stages do what the rules say, and the
rules say all that they do (`passes_iff`, `fails_iff`).
-/
namespace RestKit

variable {σ : Type} {v : Visit σ} {p p' : Passage σ} {step : Step} {o : Outcome ApiError Unit}

/-- The parameters as the request writes them. -/
def Visit.rawParams (v : Visit σ) (p : Passage σ) : RawParams where
  path := v.path
  query := Http.queryPairs p.context.uri.query
  headers := p.context.headers

def Visit.maxDepth (v : Visit σ) : Nat := v.app.process.query.maxDepth

def Visit.maxSize (v : Visit σ) : Nat := v.app.config.api.maxRequestSize

/-- The files and the form of the request's multipart body. -/
def Visit.received (v : Visit σ) (p : Passage σ) (boundary : String) :
    Except Upload.Error (Upload.Files × Form) × Upload.Storage :=
  Stage.receiveParts v.endpoint.upload v.app.config.api.formMemoryLimit
    (.parse boundary v.request.body) p.world.storage

/-- Count the request under a limit. -/
def Passage.hit (p : Passage σ) (limit : RateLimit.Limit) :
    Outcome RateLimit.StoreError Nat × RateLimit.Store :=
  p.world.counters.hit
    ⟨p.context.now, limit.keyFor p.context.endpointName p.context.remoteIp, limit.window⟩

namespace Passage

def withDeadline (p : Passage σ) (deadline : Nat) : Passage σ :=
  { p with context := { p.context with deadline := some deadline } }

def withBody (p : Passage σ) (body : ParsedBody) : Passage σ :=
  { p with context := { p.context with body := some body } }

def withParams (p : Passage σ) (params : ParamSet) : Passage σ :=
  { p with context := { p.context with params } }

def withFilter (p : Passage σ) (value : ParamValue) : Passage σ :=
  p.withParams (p.context.params.insert .query Context.filterName value)

def withCounters (p : Passage σ) (counters : RateLimit.Store) : Passage σ :=
  { p with world := { p.world with counters } }

def withStorage (p : Passage σ) (storage : Upload.Storage) : Passage σ :=
  { p with world := { p.world with storage } }

end Passage

/-- The ways to pass a step. -/
inductive Passes (v : Visit σ) (p : Passage σ) : Step → Passage σ → Prop
  | untimed (hnone : v.endpoint.info.timeout = none) : Passes v p .opening p
  | timed {timeout deadline : Nat} (htimeout : v.endpoint.info.timeout = some timeout)
    (hreading : Clock.after? v.request.time timeout = some deadline) :
    Passes v p .opening (p.withDeadline deadline)
  | gate {kind : Option BodyKind} (hgate : v.endpoint.gate p.context.headers = .ok kind) :
    Passes v p .gate { p with kind }
  /-- No body is to be read. -/
  | unread (hkind : p.kind = none) : Passes v p .body p
  | json (hkind : p.kind = some .json) (hsize : v.request.body.length ≤ v.maxSize) :
    Passes v p .body { p with source := some (.json v.request.body) }
  | form (hkind : p.kind = some .form) (hsize : v.request.body.length ≤ v.maxSize) :
    Passes v p .body { p with source := some (.form (Body.formOfBytes v.request.body)) }
  | multipart {boundary : String} {files : Upload.Files} {form : Form} {storage : Upload.Storage}
    (hkind : p.kind = some .multipart)
    (hboundary : Http.Multipart.boundary? p.context.headers = some boundary)
    (hreceived : v.received p boundary = (.ok (files, form), storage)) :
    Passes v p .body { p.withStorage storage with
      context := { p.context with files, form }, source := some (.form form) }
  /-- No body is declared, or none was read. -/
  | unbound (hnone : v.endpoint.body = none ∨ p.source = none) : Passes v p .binding p
  | bound {type : Body.BodyType} {source : Body.Source} {value normal clean : Json}
    (htype : v.endpoint.body = some type) (hsource : p.source = some source)
    (hbind : type.bind source = .ok value)
    (hnormalize : type.run .normalize p.context value = ⟨normal, none⟩)
    (hsanitize : type.run .sanitize p.context normal = ⟨clean, none⟩)
    (hvalidate : type.check p.context clean = .ok ()) :
    Passes v p .binding (p.withBody ⟨type.name, clean⟩)
  | params (hparams : ∀ param ∈ v.endpoint.params, ∃ value,
      param.read v.maxDepth (v.rawParams p) = .ok value) :
    Passes v p .params
      (p.withParams (v.endpoint.params.foldl (.readInto v.maxDepth (v.rawParams p)) {}))
  | unfiltered (hnone : p.context.queryParam Context.filterName = none) : Passes v p .filter p
  | filterText {raw : String} {b : Query.FilterBuilder} {f : Query.Filter}
    (hvalue : p.context.queryParam Context.filterName = some (.string raw))
    (hread : Query.FilterBuilder.ofJson v.maxDepth raw = .ok b) (hbuild : b.build = .ok f) :
    Passes v p .filter (p.withFilter (Stage.capFilter v.app.config.query.maxLimit (.filter b)))
  /-- A value that its declaration has read already. -/
  | filterRead {value : ParamValue}
    (hvalue : p.context.queryParam Context.filterName = some value)
    (hread : ∀ raw, value ≠ .string raw) :
    Passes v p .filter (p.withFilter (Stage.capFilter v.app.config.query.maxLimit value))
  | unasked (hopen : v.endpoint.info.isPublic = true ∨ v.app.authorizer = none) :
    Passes v p .authorization p
  | authorized {authorizer : Auth.Authorizer} {a : Auth.Authorization}
    (hpublic : v.endpoint.info.isPublic = false) (hasked : v.app.authorizer = some authorizer)
    (haccepts : authorizer p.context = .done a) :
    Passes v p .authorization
      { p with context := { p.context with principal := a.principal, token := a.token } }
  /-- Roles only bind principals that are known, and on endpoints that are not public. -/
  | roles (hrole : v.endpoint.info.isPublic = true ∨
      ∀ principal, p.context.principal = some principal →
        v.endpoint.info.roles = [] ∨ principal.role ∈ v.endpoint.info.roles) :
    Passes v p .roles p
  | unlimited (hnone : v.endpoint.limiter = none) : Passes v p .rateLimit p
  | noLimit {limiter : Limiter} (hlimiter : v.endpoint.limiter = some limiter)
    (hlimit : limiter p.context = .done none) : Passes v p .rateLimit p
  | counted {limiter : Limiter} {limit : RateLimit.Limit} {n : Nat} {counters : RateLimit.Store}
    (hlimiter : v.endpoint.limiter = some limiter) (hlimit : limiter p.context = .done (some limit))
    (hhit : p.hit limit = (.done n, counters)) (hcount : n ≤ limit.max) :
    Passes v p .rateLimit (p.withCounters counters)

/-- The ways to fail at a step, each with its outcome. -/
inductive Fails (v : Visit σ) (p : Passage σ) : Step → Outcome ApiError Unit → Passage σ → Prop
  /-- The clock has no reading for the deadline. -/
  | untimely {timeout : Nat} (htimeout : v.endpoint.info.timeout = some timeout)
    (hreading : Clock.after? v.request.time timeout = none) :
    Fails v p .opening .crashed p
  | gate {e : ApiError} (hgate : v.endpoint.gate p.context.headers = .error e) :
    Fails v p .gate (.refused e) p
  | tooLarge (hkind : p.kind = some .json ∨ p.kind = some .form)
    (hsize : v.maxSize < v.request.body.length) :
    Fails v p .body (.refused (.payloadTooLarge ("Request body exceeds the limit of "
      ++ toString v.maxSize ++ " bytes"))) p
  | noBoundary (hkind : p.kind = some .multipart)
    (hboundary : Http.Multipart.boundary? p.context.headers = none) :
    Fails v p .body (.refused (.badRequest Http.Multipart.missingBoundary)) p
  | notReceived {boundary : String} {e : Upload.Error} {storage : Upload.Storage}
    (hkind : p.kind = some .multipart)
    (hboundary : Http.Multipart.boundary? p.context.headers = some boundary)
    (hreceived : v.received p boundary = (.error e, storage)) :
    Fails v p .body (.refused e.toApi) (p.withStorage storage)
  | malformed {type : Body.BodyType} {source : Body.Source} {e : ApiError}
    (htype : v.endpoint.body = some type) (hsource : p.source = some source)
    (hbind : type.bind source = .error e) :
    Fails v p .binding (.refused e) p
  | normalize {type : Body.BodyType} {source : Body.Source} {value normal : Json} {e : ApiError}
    (htype : v.endpoint.body = some type) (hsource : p.source = some source)
    (hbind : type.bind source = .ok value)
    (hnormalize : type.run .normalize p.context value = ⟨normal, some e⟩) :
    Fails v p .binding (.refused e) p
  | sanitize {type : Body.BodyType} {source : Body.Source} {value normal clean : Json}
    {e : ApiError} (htype : v.endpoint.body = some type) (hsource : p.source = some source)
    (hbind : type.bind source = .ok value)
    (hnormalize : type.run .normalize p.context value = ⟨normal, none⟩)
    (hsanitize : type.run .sanitize p.context normal = ⟨clean, some e⟩) :
    Fails v p .binding (.refused e) p
  | validate {type : Body.BodyType} {source : Body.Source} {value normal clean : Json}
    {e : ApiError} (htype : v.endpoint.body = some type) (hsource : p.source = some source)
    (hbind : type.bind source = .ok value)
    (hnormalize : type.run .normalize p.context value = ⟨normal, none⟩)
    (hsanitize : type.run .sanitize p.context normal = ⟨clean, none⟩)
    (hvalidate : type.check p.context clean = .error e) :
    Fails v p .binding (.refused e) p
  /-- The error names every parameter that cannot be read. -/
  | params {param : Param} {message : String} (hparam : param ∈ v.endpoint.params)
    (hread : param.read v.maxDepth (v.rawParams p) = .error message) :
    Fails v p .params (.refused (.paramErrors ((v.endpoint.params.filterMap
      (Param.issue? v.maxDepth (v.rawParams p))).map ParamIssue.toJson))) p
  | filterText {raw : String} {e : Query.QueryError}
    (hvalue : p.context.queryParam Context.filterName = some (.string raw))
    (hread : Query.FilterBuilder.ofJson v.maxDepth raw = .error e) :
    Fails v p .filter (.refused e.toApi) p
  | filterBuild {raw : String} {b : Query.FilterBuilder} {e : Query.QueryError}
    (hvalue : p.context.queryParam Context.filterName = some (.string raw))
    (hread : Query.FilterBuilder.ofJson v.maxDepth raw = .ok b) (hbuild : b.build = .error e) :
    Fails v p .filter (.refused e.toApi) p
  | unauthorized {authorizer : Auth.Authorizer} (hpublic : v.endpoint.info.isPublic = false)
    (hasked : v.app.authorizer = some authorizer)
    (haccepts : ∀ a, authorizer p.context ≠ .done a) :
    Fails v p .authorization ((authorizer p.context).map fun _ => ()) p
  | roles {principal : Auth.Principal} (hpublic : v.endpoint.info.isPublic = false)
    (hprincipal : p.context.principal = some principal) (hroles : v.endpoint.info.roles ≠ [])
    (hrole : principal.role ∉ v.endpoint.info.roles) :
    Fails v p .roles (.refused (.forbidden "Insufficient permissions")) p
  | limiter {limiter : Limiter} (hlimiter : v.endpoint.limiter = some limiter)
    (hlimit : ∀ limit, limiter p.context ≠ .done limit) :
    Fails v p .rateLimit ((limiter p.context).map fun _ => ()) p
  /-- The store does not answer with a count. -/
  | store {limiter : Limiter} {limit : RateLimit.Limit}
    {answer : Outcome RateLimit.StoreError Nat} {counters : RateLimit.Store}
    (hlimiter : v.endpoint.limiter = some limiter)
    (hlimit : limiter p.context = .done (some limit)) (hhit : p.hit limit = (answer, counters))
    (hanswer : ∀ n, answer ≠ .done n) :
    Fails v p .rateLimit ((answer.mapError RateLimit.StoreError.toApi).map fun _ => ())
      (p.withCounters counters)
  | tooMany {limiter : Limiter} {limit : RateLimit.Limit} {n : Nat} {counters : RateLimit.Store}
    (hlimiter : v.endpoint.limiter = some limiter) (hlimit : limiter p.context = .done (some limit))
    (hhit : p.hit limit = (.done n, counters)) (hcount : limit.max < n) :
    Fails v p .rateLimit (.refused RateLimit.tooMany) (p.withCounters counters)

/-- A stage ends as the rules of its step say. -/
def Follows (step : Step) (stage : Stage σ) : Prop :=
  ∀ v p, (∃ p', stage v p = (.done (), p') ∧ Passes v p step p') ∨
    ∃ o p', stage v p = (o, p') ∧ o ≠ .done () ∧ Fails v p step o p'

namespace Follows

/-- A stage that passes or refuses follows the rules if both of its results do. -/
theorem ofExcept {f : Visit σ → Passage σ → Except ApiError (Passage σ)}
    (hok : ∀ v p p', f v p = .ok p' → Passes v p step p')
    (herror : ∀ v p e, f v p = .error e → Fails v p step (.refused e) p) :
    Follows step (Stage.ofExcept f) := by
  intro v p
  unfold Stage.ofExcept
  cases h : f v p with
  | ok p' => exact .inl ⟨p', rfl, hok v p p' h⟩
  | error e => exact .inr ⟨.refused e, p, rfl, nofun, herror v p e h⟩

theorem opening : Follows (σ := σ) .opening Stage.opening := by
  intro v p
  unfold Stage.opening
  cases htimeout : v.endpoint.info.timeout with
  | none => exact .inl ⟨p, rfl, .untimed htimeout⟩
  | some timeout =>
    dsimp only
    cases hreading : Clock.after? v.request.time timeout with
    | none => exact .inr ⟨.crashed, p, rfl, nofun, .untimely htimeout hreading⟩
    | some deadline => exact .inl ⟨_, rfl, .timed htimeout hreading⟩

theorem gate : Follows (σ := σ) .gate Stage.gate := by
  refine ofExcept (fun v p p' h => ?_) fun v p e h => ?_
  · obtain ⟨kind, hgate, h⟩ := bind_eq_ok.1 h
    obtain rfl := pure_eq_ok.1 h
    exact .gate hgate
  · rcases bind_eq_error.1 h with hgate | ⟨kind, -, h⟩
    · exact .gate hgate
    · exact absurd h pure_ne_error

theorem wholeBody_eq_ok {bytes : List UInt8}
    (h : Stage.wholeBody v.app.config v.request = .ok bytes) :
    v.request.body.length ≤ v.maxSize ∧ bytes = v.request.body := by
  simp only [Stage.wholeBody] at h
  split at h
  · cases h
  · rename_i hsize
    cases h
    exact ⟨Nat.le_of_not_lt hsize, rfl⟩

theorem wholeBody_eq_error {e : ApiError}
    (h : Stage.wholeBody v.app.config v.request = .error e) :
    v.maxSize < v.request.body.length ∧ e = .payloadTooLarge
      ("Request body exceeds the limit of " ++ toString v.maxSize ++ " bytes") := by
  simp only [Stage.wholeBody] at h
  split at h
  · rename_i hsize
    cases h
    exact ⟨hsize, rfl⟩
  · cases h

theorem body : Follows (σ := σ) .body Stage.body := by
  intro v p
  unfold Stage.body
  cases hkind : p.kind with
  | none => exact .inl ⟨p, rfl, .unread hkind⟩
  | some kind =>
    cases kind with
    | json =>
      dsimp only [Stage.ofExcept]
      cases hwhole : Stage.wholeBody v.app.config v.request with
      | ok bytes =>
        obtain ⟨hsize, rfl⟩ := wholeBody_eq_ok hwhole
        exact .inl ⟨_, rfl, .json hkind hsize⟩
      | error e =>
        obtain ⟨hsize, rfl⟩ := wholeBody_eq_error hwhole
        exact .inr ⟨_, p, rfl, nofun, .tooLarge (.inl hkind) hsize⟩
    | form =>
      dsimp only [Stage.ofExcept]
      cases hwhole : Stage.wholeBody v.app.config v.request with
      | ok bytes =>
        obtain ⟨hsize, rfl⟩ := wholeBody_eq_ok hwhole
        exact .inl ⟨_, rfl, .form hkind hsize⟩
      | error e =>
        obtain ⟨hsize, rfl⟩ := wholeBody_eq_error hwhole
        exact .inr ⟨_, p, rfl, nofun, .tooLarge (.inr hkind) hsize⟩
    | multipart =>
      dsimp only
      unfold Stage.multipart
      cases hboundary : Http.Multipart.boundary? p.context.headers with
      | none => exact .inr ⟨_, p, rfl, nofun, .noBoundary hkind hboundary⟩
      | some boundary =>
        dsimp only
        cases hreceived : v.received p boundary with
        | mk result storage =>
          unfold Visit.received at hreceived
          rw [hreceived]
          cases result with
          | ok received => exact .inl ⟨_, rfl, .multipart hkind hboundary hreceived⟩
          | error e => exact .inr ⟨_, _, rfl, nofun, .notReceived hkind hboundary hreceived⟩

/-- A body is bound, and its stages run one after the other; the first failure ends them. -/
theorem receive_eq (type : Body.BodyType) (ctx : Context) (source : Body.Source) :
    type.receive ctx source =
      match type.bind source with
      | .error e => .error e
      | .ok value =>
        match type.run .normalize ctx value with
        | ⟨_, some e⟩ => .error e
        | ⟨normal, none⟩ =>
          match type.run .sanitize ctx normal with
          | ⟨_, some e⟩ => .error e
          | ⟨clean, none⟩ => (type.check ctx clean).map fun _ => ⟨type.name, clean⟩ := by
  dsimp only [Body.BodyType.receive, Body.BodyType.process, bind, Except.bind]
  cases type.bind source with
  | error e => rfl
  | ok value =>
    dsimp only
    rcases type.run .normalize ctx value with ⟨normal, _ | e⟩
    · dsimp only
      rcases type.run .sanitize ctx normal with ⟨clean, _ | e⟩
      · dsimp only
        cases type.check ctx clean <;> rfl
      · rfl
    · rfl

theorem binding : Follows (σ := σ) .binding Stage.binding := by
  intro v p
  dsimp only [Stage.binding, Stage.ofExcept]
  cases htype : v.endpoint.body with
  | none => exact .inl ⟨p, rfl, .unbound (.inl htype)⟩
  | some type =>
    cases hsource : p.source with
    | none => exact .inl ⟨p, rfl, .unbound (.inr hsource)⟩
    | some source =>
      dsimp only
      rw [receive_eq]
      cases hbind : type.bind source with
      | error e => exact .inr ⟨_, p, rfl, nofun, .malformed htype hsource hbind⟩
      | ok value =>
        dsimp only
        rcases hnormalize : type.run .normalize p.context value with ⟨normal, _ | e⟩
        · dsimp only
          rcases hsanitize : type.run .sanitize p.context normal with ⟨clean, _ | e⟩
          · dsimp only
            cases hvalidate : type.check p.context clean with
            | ok u =>
              refine .inl ⟨p.withBody ⟨type.name, clean⟩, ?_,
                .bound htype hsource hbind hnormalize hsanitize hvalidate⟩
              rw [Passage.withBody, hsource]
              rfl
            | error e =>
              exact .inr ⟨_, p, rfl, nofun,
                .validate htype hsource hbind hnormalize hsanitize hvalidate⟩
          · exact .inr ⟨_, p, rfl, nofun, .sanitize htype hsource hbind hnormalize hsanitize⟩
        · exact .inr ⟨_, p, rfl, nofun, .normalize htype hsource hbind hnormalize⟩

theorem params : Follows (σ := σ) .params Stage.params := by
  refine ofExcept (fun v p p' h => ?_) fun v p e h => ?_
  · obtain ⟨params, hparse, h⟩ := bind_eq_ok.1 h
    obtain rfl := pure_eq_ok.1 h
    simp only [ParamSet.parse] at hparse
    split at hparse
    · rename_i hempty
      cases hparse
      exact .params (issues_isEmpty_iff.1 hempty)
    · cases hparse
  · rcases bind_eq_error.1 h with hparse | ⟨params, -, h⟩
    · simp only [ParamSet.parse] at hparse
      split at hparse
      · cases hparse
      · rename_i hissues
        cases hparse
        have hread := mt issues_isEmpty_iff.2 hissues
        push Not at hread
        obtain ⟨param, hparam, hread⟩ := hread
        cases hmessage : param.read v.maxDepth (v.rawParams p) with
        | ok value => exact absurd hmessage (hread value)
        | error message => exact .params hparam hmessage
    · exact absurd h pure_ne_error

theorem filter : Follows (σ := σ) .filter Stage.filter := by
  intro v p
  dsimp only [Stage.filter, Stage.ofExcept]
  cases hvalue : p.context.queryParam Context.filterName with
  | none => exact .inl ⟨p, rfl, .unfiltered hvalue⟩
  | some value =>
    dsimp only
    cases value with
    | string raw =>
      dsimp only [Stage.filterOf]
      cases hread : Query.FilterBuilder.ofJson v.maxDepth raw with
      | error e =>
        unfold Visit.maxDepth at hread
        rw [hread]
        exact .inr ⟨_, p, rfl, nofun, .filterText hvalue hread⟩
      | ok b =>
        unfold Visit.maxDepth at hread
        rw [hread]
        cases hbuild : b.build with
        | error e =>
          dsimp only [bind, Except.bind]
          rw [hbuild]
          exact .inr ⟨_, p, rfl, nofun, .filterBuild hvalue hread hbuild⟩
        | ok f =>
          dsimp only [bind, Except.bind]
          rw [hbuild]
          exact .inl ⟨_, rfl, .filterText hvalue hread hbuild⟩
    | _ => exact .inl ⟨_, rfl, .filterRead hvalue nofun⟩

theorem authorization : Follows (σ := σ) .authorization Stage.authorization := by
  intro v p
  unfold Stage.authorization
  cases hpublic : v.endpoint.info.isPublic with
  | true => exact .inl ⟨p, rfl, .unasked (.inl hpublic)⟩
  | false =>
    cases hasked : v.app.authorizer with
    | none => exact .inl ⟨p, rfl, .unasked (.inr hasked)⟩
    | some authorizer =>
      -- The rule's outcome is made of the answer, so it is stated before the cases on the answer.
      have hfails := Fails.unauthorized (p := p) hpublic hasked
      dsimp only
      cases haccepts : authorizer p.context with
      | done a => exact .inl ⟨_, rfl, .authorized hpublic hasked haccepts⟩
      | _ =>
        rw [haccepts] at hfails
        exact .inr ⟨_, p, rfl, nofun, hfails nofun⟩

theorem hasRole_iff {roles : List String} {principal : Option Auth.Principal} :
    Stage.hasRole roles principal = true ↔
      ∀ known, principal = some known → roles = [] ∨ known.role ∈ roles := by
  cases principal <;> simp [Stage.hasRole]

theorem roles : Follows (σ := σ) .roles Stage.roles := by
  refine ofExcept (fun v p p' h => ?_) fun v p e h => ?_
  · split at h
    · rename_i hrole
      cases h
      rw [Bool.or_eq_true, hasRole_iff] at hrole
      exact .roles hrole
    · cases h
  · split at h
    · cases h
    · rename_i hrole
      cases h
      rw [Bool.or_eq_true, not_or, hasRole_iff] at hrole
      obtain ⟨hpublic, hrole⟩ := hrole
      push Not at hrole
      obtain ⟨principal, hprincipal, hroles, hrole⟩ := hrole
      exact .roles (Bool.eq_false_iff.2 hpublic) hprincipal hroles hrole

theorem rateLimit : Follows (σ := σ) .rateLimit Stage.rateLimit := by
  intro v p
  unfold Stage.rateLimit
  cases hlimiter : v.endpoint.limiter with
  | none => exact .inl ⟨p, rfl, .unlimited hlimiter⟩
  | some limiter =>
    have hfails := Fails.limiter (p := p) hlimiter
    dsimp only
    cases hlimit : limiter p.context with
    | done limit =>
      cases limit with
      | none => exact .inl ⟨p, rfl, .noLimit hlimiter hlimit⟩
      | some limit =>
        rcases hhit : p.hit limit with ⟨answer, counters⟩
        have hstore := Fails.store hlimiter hlimit hhit
        unfold Passage.hit at hhit
        dsimp only [RateLimit.enforce]
        rw [hhit]
        cases answer with
        | done n =>
          dsimp only [RateLimit.Limit.outcome, RateLimit.Limit.check]
          by_cases hcount : limit.max < n
          · rw [if_pos hcount]
            exact .inr ⟨_, _, rfl, nofun, .tooMany hlimiter hlimit hhit hcount⟩
          · rw [if_neg hcount]
            exact .inl ⟨_, rfl, .counted hlimiter hlimit hhit (Nat.le_of_not_lt hcount)⟩
        | _ => exact .inr ⟨_, _, rfl, nofun, hstore nofun⟩
    | _ =>
      rw [hlimit] at hfails
      exact .inr ⟨_, p, rfl, nofun, hfails nofun⟩

end Follows

/-- What holds of the stage of each step before the handler holds of all stages. -/
theorem of_mem_stages {P : Step → Stage σ → Prop} (opening : P .opening Stage.opening)
    (gate : P .gate Stage.gate) (body : P .body Stage.body) (binding : P .binding Stage.binding)
    (params : P .params Stage.params) (filter : P .filter Stage.filter)
    (authorization : P .authorization Stage.authorization) (roles : P .roles Stage.roles)
    (rateLimit : P .rateLimit Stage.rateLimit) {stage : Stage σ} (h : (step, stage) ∈ stages) :
    P step stage := by
  simp only [stages, List.mem_cons, Prod.mk.injEq, List.not_mem_nil, or_false] at h
  rcases h with ⟨rfl, rfl⟩ | ⟨rfl, rfl⟩ | ⟨rfl, rfl⟩ | ⟨rfl, rfl⟩ | ⟨rfl, rfl⟩ | ⟨rfl, rfl⟩ |
    ⟨rfl, rfl⟩ | ⟨rfl, rfl⟩ | ⟨rfl, rfl⟩ <;> assumption

/-- Every step before the handler follows its rules. -/
theorem stage_follows {stage : Stage σ} (h : (step, stage) ∈ stages) : Follows step stage :=
  of_mem_stages .opening .gate .body .binding .params .filter .authorization .roles .rateLimit h

/-! ## The rules leave no choice

The converse of `stage_follows`: a rule that applies decides how the stage ends. It is proved rule
by rule, since the rules of one step would otherwise have to be told apart in pairs.
-/

theorem wholeBody_of_le (h : v.request.body.length ≤ v.maxSize) :
    Stage.wholeBody v.app.config v.request = .ok v.request.body :=
  if_neg (Nat.not_lt.2 h)

theorem wholeBody_of_lt (h : v.maxSize < v.request.body.length) :
    Stage.wholeBody v.app.config v.request = .error (.payloadTooLarge
      ("Request body exceeds the limit of " ++ toString v.maxSize ++ " bytes")) :=
  if_pos h

theorem ofExcept_eq_done {f : Visit σ → Passage σ → Except ApiError (Passage σ)}
    (h : f v p = .ok p') : Stage.ofExcept f v p = (.done (), p') := by
  unfold Stage.ofExcept
  rw [h]

theorem ofExcept_eq_refused {f : Visit σ → Passage σ → Except ApiError (Passage σ)} {e : ApiError}
    (h : f v p = .error e) : Stage.ofExcept f v p = (.refused e, p) := by
  unfold Stage.ofExcept
  rw [h]

/-- A step that passes by a rule does pass. -/
theorem Passes.stage_eq {stage : Stage σ} (h : Passes v p step p') (hs : (step, stage) ∈ stages) :
    stage v p = (.done (), p') := by
  simp only [stages, List.mem_cons, Prod.mk.injEq, List.not_mem_nil, or_false] at hs
  cases h <;> simp only [reduceCtorEq, false_and, true_and, or_false, false_or] at hs <;> subst hs
  case untimed hnone => simp [Stage.opening, hnone]
  case timed htimeout hreading =>
    simp [Stage.opening, htimeout, hreading, Passage.withDeadline]
  case gate hgate => exact ofExcept_eq_done (by rw [hgate]; rfl)
  case unread hkind => simp [Stage.body, hkind]
  case json hkind hsize =>
    simp [Stage.body, Stage.ofExcept, hkind, wholeBody_of_le hsize, bind, Except.bind, pure,
      Except.pure]
  case form hkind hsize =>
    simp [Stage.body, Stage.ofExcept, hkind, wholeBody_of_le hsize, bind, Except.bind, pure,
      Except.pure]
  case multipart hkind hboundary hreceived =>
    unfold Visit.received at hreceived
    simp [Stage.body, Stage.multipart, hkind, hboundary, hreceived, Passage.withStorage]
  case unbound hnone =>
    refine ofExcept_eq_done ?_
    rcases hnone with hnone | hnone
    · simp [hnone, pure, Except.pure]
    · simp [hnone, pure, Except.pure]
  case bound htype hsource hbind hnormalize hsanitize hvalidate =>
    simp [Stage.binding, Stage.ofExcept, htype, hsource, Follows.receive_eq, hbind, hnormalize,
      hsanitize, hvalidate, Passage.withBody, bind, Except.bind, pure, Except.pure, Except.map]
  case params hparams =>
    have hparse : ParamSet.parse v.maxDepth v.endpoint.params (v.rawParams p) = .ok _ :=
      if_pos (issues_isEmpty_iff.2 hparams)
    unfold Visit.maxDepth Visit.rawParams at hparse
    simp [Stage.params, Stage.ofExcept, hparse, bind, Except.bind, pure, Except.pure,
      Passage.withParams]
    rfl
  case unfiltered hnone => simp [Stage.filter, Stage.ofExcept, hnone, pure, Except.pure]
  case filterText hvalue hread hbuild =>
    unfold Visit.maxDepth at hread
    simp [Stage.filter, Stage.ofExcept, hvalue, Stage.filterOf, hread, hbuild, bind, Except.bind,
      pure, Except.pure]
    rfl
  case filterRead value hvalue hread =>
    cases value with
    | string raw => exact absurd rfl (hread raw)
    | _ => exact ofExcept_eq_done (by rw [hvalue]; rfl)
  case unasked hopen =>
    rcases hopen with hopen | hopen <;> simp [Stage.authorization, hopen]
  case authorized hpublic hasked haccepts =>
    simp [Stage.authorization, hpublic, hasked, haccepts]
  case roles hrole =>
    refine ofExcept_eq_done (if_pos ?_)
    rwa [Bool.or_eq_true, Follows.hasRole_iff]
  case unlimited hnone => simp [Stage.rateLimit, hnone]
  case noLimit hlimiter hlimit => simp [Stage.rateLimit, hlimiter, hlimit, RateLimit.enforce]
  case counted hlimiter hlimit hhit hcount =>
    unfold Passage.hit at hhit
    simp [Stage.rateLimit, hlimiter, hlimit, RateLimit.enforce, hhit, RateLimit.Limit.outcome,
      RateLimit.Limit.check, Nat.not_lt.2 hcount, Passage.withCounters]

/-- A step that fails by a rule does fail, with the rule's outcome. -/
theorem Fails.stage_eq {stage : Stage σ} (h : Fails v p step o p') (hs : (step, stage) ∈ stages) :
    stage v p = (o, p') ∧ o ≠ .done () := by
  simp only [stages, List.mem_cons, Prod.mk.injEq, List.not_mem_nil, or_false] at hs
  cases h <;> simp only [reduceCtorEq, false_and, true_and, or_false, false_or] at hs <;> subst hs
  case untimely htimeout hreading => simp [Stage.opening, htimeout, hreading]
  case gate hgate => exact ⟨ofExcept_eq_refused (by rw [hgate]; rfl), nofun⟩
  case tooLarge hkind hsize =>
    rcases hkind with hkind | hkind
    · simp [Stage.body, Stage.ofExcept, hkind, wholeBody_of_lt hsize, bind, Except.bind]
    · simp [Stage.body, Stage.ofExcept, hkind, wholeBody_of_lt hsize, bind, Except.bind]
  case noBoundary hkind hboundary => simp [Stage.body, Stage.multipart, hkind, hboundary]
  case notReceived hkind hboundary hreceived =>
    unfold Visit.received at hreceived
    simp [Stage.body, Stage.multipart, hkind, hboundary, hreceived, Passage.withStorage]
  case malformed htype hsource hbind =>
    simp [Stage.binding, Stage.ofExcept, htype, hsource, Follows.receive_eq, hbind, bind,
      Except.bind]
  case normalize htype hsource hbind hnormalize =>
    simp [Stage.binding, Stage.ofExcept, htype, hsource, Follows.receive_eq, hbind, hnormalize,
      bind, Except.bind]
  case sanitize htype hsource hbind hnormalize hsanitize =>
    simp [Stage.binding, Stage.ofExcept, htype, hsource, Follows.receive_eq, hbind, hnormalize,
      hsanitize, bind, Except.bind]
  case validate htype hsource hbind hnormalize hsanitize hvalidate =>
    simp [Stage.binding, Stage.ofExcept, htype, hsource, Follows.receive_eq, hbind, hnormalize,
      hsanitize, hvalidate, bind, Except.bind, Except.map]
  case params param message hparam hread =>
    have hissues := mt issues_isEmpty_iff.1 fun hall => by
      obtain ⟨value, hvalue⟩ := hall param hparam
      rw [hread] at hvalue
      cases hvalue
    have hparse : ParamSet.parse v.maxDepth v.endpoint.params (v.rawParams p) = .error _ :=
      if_neg hissues
    unfold Visit.maxDepth Visit.rawParams at hparse
    simp [Stage.params, Stage.ofExcept, hparse, bind, Except.bind]
    rfl
  case filterText hvalue hread =>
    unfold Visit.maxDepth at hread
    simp [Stage.filter, Stage.ofExcept, hvalue, Stage.filterOf, hread, bind, Except.bind]
  case filterBuild hvalue hread hbuild =>
    unfold Visit.maxDepth at hread
    simp [Stage.filter, Stage.ofExcept, hvalue, Stage.filterOf, hread, hbuild, bind, Except.bind]
  case unauthorized authorizer hpublic hasked haccepts =>
    cases hanswer : authorizer p.context with
    | done a => exact absurd hanswer (haccepts a)
    | _ => simp [Stage.authorization, hpublic, hasked, hanswer, Outcome.map]
  case roles principal hpublic hprincipal hroles hrole =>
    refine ⟨ofExcept_eq_refused (if_neg ?_), nofun⟩
    rw [Bool.or_eq_true, Follows.hasRole_iff, hpublic]
    simp [hprincipal, hroles, hrole]
  case limiter limiter hlimiter hlimit =>
    cases hanswer : limiter p.context with
    | done limit => exact absurd hanswer (hlimit limit)
    | _ => simp [Stage.rateLimit, hlimiter, hanswer, Outcome.map]
  case store limiter limit answer counters hlimiter hlimit hhit hanswer =>
    unfold Passage.hit at hhit
    cases answer with
    | done n => exact absurd rfl (hanswer n)
    | _ =>
      simp [Stage.rateLimit, hlimiter, hlimit, RateLimit.enforce, hhit, RateLimit.Limit.outcome,
        Outcome.map, Outcome.mapError, Passage.withCounters]
  case tooMany hlimiter hlimit hhit hcount =>
    unfold Passage.hit at hhit
    simp [Stage.rateLimit, hlimiter, hlimit, RateLimit.enforce, hhit, RateLimit.Limit.outcome,
      RateLimit.Limit.check, hcount, Passage.withCounters]

/-- The rules say when a step is passed, and how. -/
theorem passes_iff {stage : Stage σ} (hs : (step, stage) ∈ stages) :
    Passes v p step p' ↔ stage v p = (.done (), p') := by
  refine ⟨fun h => h.stage_eq hs, fun h => ?_⟩
  rcases stage_follows hs v p with ⟨q, heq, hpasses⟩ | ⟨o, q, heq, hne, -⟩
  · obtain rfl := (Prod.mk.inj (heq.symm.trans h)).2
    exact hpasses
  · exact absurd (Prod.mk.inj (heq.symm.trans h)).1 hne

/-- The rules say when a step is not passed, and what comes of it. -/
theorem fails_iff {stage : Stage σ} (hs : (step, stage) ∈ stages) :
    Fails v p step o p' ↔ stage v p = (o, p') ∧ o ≠ .done () := by
  refine ⟨fun h => h.stage_eq hs, fun ⟨h, hne⟩ => ?_⟩
  rcases stage_follows hs v p with ⟨q, heq, -⟩ | ⟨o', q, heq, -, hfails⟩
  · exact absurd (Prod.mk.inj (heq.symm.trans h)).1.symm hne
  · obtain ⟨rfl, rfl⟩ := Prod.mk.inj (heq.symm.trans h)
    exact hfails

/-! ## The deadline -/

/-- The clock has a reading for the request's deadline, if the endpoint sets one. -/
def Visit.Timely (v : Visit σ) : Prop :=
  ∀ timeout ∈ v.endpoint.info.timeout, v.request.time + timeout < Clock.bound

instance (v : Visit σ) : Decidable v.Timely := Option.decidableForallMem _

theorem Visit.Timely.passes_opening (h : v.Timely) (p : Passage σ) :
    ∃ q, Passes v p .opening q := by
  cases htimeout : v.endpoint.info.timeout with
  | none => exact ⟨p, .untimed htimeout⟩
  | some timeout =>
    have hfits : v.request.time + timeout < Clock.bound := h timeout htimeout
    exact ⟨_, .timed htimeout (if_pos hfits)⟩

theorem Fails.opening_of_not_timely (h : ¬ v.Timely) (p : Passage σ) :
    Fails v p .opening .crashed p := by
  simp only [Visit.Timely, not_forall] at h
  obtain ⟨timeout, htimeout, hbound⟩ := h
  exact .untimely htimeout (if_neg hbound)

end RestKit
