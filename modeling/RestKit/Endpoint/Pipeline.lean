import RestKit.App.Registry
import RestKit.Endpoint.Gate
import RestKit.Http.Remote
import RestKit.Query.Refusal
import RestKit.Time.Clock
import RestKit.Upload.Guard
import RestKit.Upload.Receive
/-!
# The way of a request

A request passes a fixed row of steps, `stages`, before its endpoint's handler; the first step that
does not pass ends it. `dispatch` gives the response and the world as it is once the response is
sent and temporary files have had their time.
-/
namespace RestKit

structure Request where
  method : String
  uri : Http.Uri
  headers : Http.Headers := []
  /-- The address of the peer. -/
  peer : Option String := none
  body : List UInt8 := []
  /-- The reading of the clock, in nanoseconds from 1970. -/
  time : Nat := 0

/-- What requests may change. -/
structure World (σ : Type) where
  counters : RateLimit.Store := .memory {}
  storage : Upload.Storage := {}
  trail : List AuditEntry := []
  /-- The application's own state. -/
  state : σ

/-- The steps of a request. -/
inductive Step where
  | opening
  | gate
  | body
  | binding
  | params
  | filter
  | authorization
  | roles
  | rateLimit
  | handler
deriving DecidableEq, Repr

/-- A request under way. -/
structure Passage (σ : Type) where
  context : Context
  /-- How the body is read, once the gate has admitted it. -/
  kind : Option BodyKind := none
  /-- What the body is bound from, once it has been read. -/
  source : Option Body.Source := none
  world : World σ
  /-- The steps that were taken, in order. -/
  steps : List Step := []

namespace Passage

/-- The files that were stored for the request (`from_uploads`). -/
def guard {σ : Type} (p : Passage σ) : Upload.Guard := .ofFiles p.context.files

/-- Remove the request's files. -/
def dropFiles {σ : Type} (p : Passage σ) : Passage σ :=
  { p with world := { p.world with storage := p.guard.drop p.world.storage } }

end Passage

/-- What a step is taken with. -/
structure Visit (σ : Type) where
  app : App σ
  endpoint : Endpoint σ
  request : Request
  /-- The parameters of the path, as the template names them. -/
  path : List (String × String)

/-- A step: it ends in some way, and leaves the request further on. -/
abbrev Stage (σ : Type) := Visit σ → Passage σ → Outcome ApiError Unit × Passage σ

/-- A step that either takes the request further or refuses it. -/
def Stage.ofExcept {σ : Type} (f : Visit σ → Passage σ → Except ApiError (Passage σ)) : Stage σ :=
  fun v p =>
    match f v p with
    | .ok p => (.done (), p)
    | .error e => (.refused e, p)

namespace Stage

/-- Set the deadline of the request (`RequestContext::new`). It crashes if the clock has no reading
there. -/
def opening {σ : Type} : Stage σ := fun v p =>
  match v.endpoint.info.timeout with
  | none => (.done (), p)
  | some timeout =>
    match Clock.after? v.request.time timeout with
    | some deadline =>
      (.done (), { p with context := { p.context with deadline := some deadline } })
    | none => (.crashed, p)

/-- Admit the body by its content type (`content_type::gate`). -/
def gate {σ : Type} : Stage σ := .ofExcept fun v p => do
  return { p with kind := ← v.endpoint.gate p.context.headers }

/-! ## The body -/

/-- The bytes of a body, if they are not too many (`read_body`). -/
def wholeBody (config : Config) (request : Request) : Except ApiError (List UInt8) :=
  let limit := config.api.maxRequestSize
  if request.body.length > limit then
    .error (.payloadTooLarge ("Request body exceeds the limit of " ++ toString limit ++ " bytes"))
  else .ok request.body

/-- The files and the form of a multipart body; without a policy there may be no files. -/
def receiveParts (upload : Option Upload.Policy) (limit : Nat) (parts : Http.Multipart)
    (s : Upload.Storage) : Except Upload.Error (Upload.Files × Form) × Upload.Storage :=
  match upload with
  | some policy => Upload.receive policy limit parts s
  | none => ((Upload.scanForm limit parts).map fun form => ([], form), s)

/-- Read a multipart body: its files into the storage, its form as the source
(`upload::receive`). -/
def multipart {σ : Type} : Stage σ := fun v p =>
  match Http.Multipart.boundary? p.context.headers with
  | none => (.refused (.badRequest Http.Multipart.missingBoundary), p)
  | some boundary =>
    let parts := Http.Multipart.parse boundary v.request.body
    match receiveParts v.endpoint.upload v.app.config.api.formMemoryLimit parts p.world.storage with
    | (.error e, storage) => (.refused e.toApi, { p with world := { p.world with storage } })
    | (.ok (files, form), storage) =>
      (.done (), { p with
        context := { p.context with files, form }
        source := some (.form form)
        world := { p.world with storage } })

/-- Read the body that the gate has admitted. -/
def body {σ : Type} : Stage σ := fun v p =>
  match p.kind with
  | none => (.done (), p)
  | some .json => Stage.ofExcept (fun v p => do
      let bytes ← wholeBody v.app.config v.request
      return { p with source := some (.json bytes) }) v p
  | some .form => Stage.ofExcept (fun v p => do
      let bytes ← wholeBody v.app.config v.request
      return { p with source := some (.form (Body.formOfBytes bytes)) }) v p
  | some .multipart => multipart v p

/-- Bind the declared body and process it (`BodyBinder::run`). -/
def binding {σ : Type} : Stage σ := .ofExcept fun v p => do
  match v.endpoint.body, p.source with
  | some type, some source =>
    let body ← type.receive p.context source
    return { p with context := { p.context with body := some body } }
  | _, _ => return p

/-! ## Parameters -/

/-- Read the declared parameters (`parse_params`). -/
def params {σ : Type} : Stage σ := .ofExcept fun v p => do
  let raw : RawParams := {
    path := v.path, query := Http.queryPairs p.context.uri.query, headers := p.context.headers }
  let params ← ParamSet.parse v.app.process.query.maxDepth v.endpoint.params raw
  return { p with context := { p.context with params } }

/-- The filter of a parameter's value: one that is declared as a text is read now. -/
def filterOf (maxDepth : Nat) : ParamValue → Except ApiError ParamValue
  | .string raw =>
    match (do let b ← Query.FilterBuilder.ofJson maxDepth raw; let _ ← b.build; pure b) with
    | .ok b => .ok (.filter b)
    | .error e => .error (Query.QueryError.toApi e)
  | v => .ok v

/-- Lower a filter's limit to the greatest that is allowed. -/
def capFilter (max : Option Nat) : ParamValue → ParamValue
  | .filter b => .filter { b with limit := Query.capped b.limit max }
  | v => v

/-- Resolve the parameter that holds a filter (`resolve_filter`). -/
def filter {σ : Type} : Stage σ := .ofExcept fun v p => do
  match p.context.queryParam Context.filterName with
  | none => return p
  | some value =>
    let value ← filterOf v.app.process.query.maxDepth value
    let value := capFilter v.app.config.query.maxLimit value
    let params := p.context.params.insert .query Context.filterName value
    return { p with context := { p.context with params } }

/-! ## Admission -/

/-- Find out who makes the request, unless the endpoint is public. -/
def authorization {σ : Type} : Stage σ := fun v p =>
  if v.endpoint.info.isPublic then (.done (), p)
  else match v.app.authorizer with
    | none => (.done (), p)
    | some authorizer =>
      match authorizer p.context with
      | .done a => (.done (), { p with
          context := { p.context with principal := a.principal, token := a.token } })
      | .refused e => (.refused e, p)
      | .crashed => (.crashed, p)
      | .pending => (.pending, p)

/-- Whether a principal may call an endpoint with these roles; an unknown one may
(`check_roles`). -/
def hasRole (roles : List String) (principal : Option Auth.Principal) : Bool :=
  match principal with
  | some p => roles.isEmpty || roles.contains p.role
  | none => true

def roles {σ : Type} : Stage σ := .ofExcept fun v p =>
  if v.endpoint.info.isPublic || hasRole v.endpoint.info.roles p.context.principal then .ok p
  else .error (.forbidden "Insufficient permissions")

/-- Count the request under the limit that the endpoint decides on (`ratelimit::enforce`). -/
def rateLimit {σ : Type} : Stage σ := fun v p =>
  match v.endpoint.limiter with
  | none => (.done (), p)
  | some limiter =>
    match limiter p.context with
    | .done limit =>
      match RateLimit.enforce limit p.context.endpointName p.context.remoteIp p.context.now
          p.world.counters with
      | (o, counters) => (o, { p with world := { p.world with counters } })
    | .refused e => (.refused e, p)
    | .crashed => (.crashed, p)
    | .pending => (.pending, p)

end Stage

/-- The steps before the handler, in order. -/
def stages {σ : Type} : List (Step × Stage σ) := [
  (.opening, Stage.opening), (.gate, Stage.gate), (.body, Stage.body), (.binding, Stage.binding),
  (.params, Stage.params), (.filter, Stage.filter), (.authorization, Stage.authorization),
  (.roles, Stage.roles), (.rateLimit, Stage.rateLimit)]

/-- The error of a request that has not been answered in time. -/
def timedOut : ApiError := .requestTimeout "Request timed out"

/-- Take steps until one does not pass. -/
def runStages {σ : Type} (v : Visit σ) (p : Passage σ) :
    List (Step × Stage σ) → Outcome ApiError Unit × Passage σ
  | [] => (.done (), p)
  | (step, stage) :: rest =>
    match stage v { p with steps := p.steps ++ [step] } with
    | (.done (), p) => runStages v p rest
    | (o, p) => (o.within v.endpoint.info.timeout timedOut, p)

/-- Take a row of steps before the handler. When one does not pass, the request's files are removed;
while one is still pending they stay. -/
def reachOver {σ : Type} (row : List (Step × Stage σ)) (v : Visit σ) (p : Passage σ) :
    Outcome ApiError Unit × Passage σ :=
  match runStages v p row with
  | (.refused e, p) => (.refused e, p.dropFiles)
  | (.crashed, p) => (.crashed, p.dropFiles)
  | (o, p) => (o, p)

/-- Call the handler. -/
def callHandler {σ : Type} (v : Visit σ) (p : Passage σ) : Outcome ApiError Response × Passage σ :=
  let h := v.endpoint.handler p.context p.world.storage p.world.state
  (h.outcome.within v.endpoint.info.timeout timedOut,
    { p with
      steps := p.steps ++ [.handler]
      world := { p.world with state := h.state, trail := p.world.trail ++ h.trail } })

/-- Whether an endpoint's files outlive the response. -/
def Endpoint.keepsFiles {σ : Type} (e : Endpoint σ) : Bool := (e.upload.map (·.keepFiles)).getD true

/-- Clean up behind a handler: temporary files are removed with the response (`attach_cleanup`). A
crash leaves them. -/
def settle {σ : Type} (e : Endpoint σ) (o : Outcome ApiError Response) (p : Passage σ) :
    Passage σ :=
  match o with
  | .done _ | .refused _ => if e.keepsFiles then p else p.dropFiles
  | .crashed | .pending => p

/-- Take a row of steps and, if all of them pass, the handler's. -/
def runOver {σ : Type} (row : List (Step × Stage σ)) (v : Visit σ) (p : Passage σ) :
    Outcome ApiError Response × Passage σ :=
  match reachOver row v p with
  | (.done (), p) =>
    match callHandler v p with
    | (o, p) => (o, settle v.endpoint o p)
  | (.refused e, p) => (.refused e, p)
  | (.crashed, p) => (.crashed, p)
  | (.pending, p) => (.pending, p)

/-- Take all steps (`run`). -/
def run {σ : Type} (v : Visit σ) (p : Passage σ) : Outcome ApiError Response × Passage σ :=
  runOver stages v p

/-- The context with which a request starts (`RequestContext::new`). -/
def Context.ofRequest {σ : Type} (app : App σ) (e : Endpoint σ) (r : Request) : Context where
  config := app.config
  now := r.time
  auditHandler := app.auditHandler
  endpoint := some e.info
  method := r.method
  uri := r.uri
  headers := r.headers
  remoteIp := Http.remoteIp r.headers r.peer

/-- The request before its first step. -/
def Passage.start {σ : Type} (v : Visit σ) (w : World σ) : Passage σ :=
  { context := .ofRequest v.app v.endpoint v.request, world := w }

/-- What clients see of a crash (`panic_response`). -/
def crashed : ApiError := .internal "An internal error occurred"

/-- The response of an outcome; a pending one has none. -/
def responseOf : Outcome ApiError Response → Option Response
  | .done r => some r
  | .refused e => some e.respond
  | .crashed => some crashed.respond
  | .pending => none

/-- The answer to a request that has no endpoint (`fallback`). -/
def routeNotFound : ApiError := .notFound "Route not found"

/-- Answer a request at its endpoint by a row of steps and the handler's. -/
def dispatchOver {σ : Type} (row : List (Step × Stage σ)) (v : Visit σ) (w : World σ) :
    Option Response × World σ :=
  if v.endpoint.disabled then (some routeNotFound.respond, w)
  else match runOver row v (.start v w) with
    | (o, p) => (responseOf o, p.world)

/-- Answer a request at its endpoint (`dispatch`). -/
def dispatch {σ : Type} (v : Visit σ) (w : World σ) : Option Response × World σ :=
  dispatchOver stages v w

end RestKit
