import RestKit.Auth.Authorizer
import RestKit.Endpoint.Basic
import RestKit.Endpoint.Description
/-!
# Sample handlers

What an application plugs into endpoints: handlers that answer with what they are given, an
authorizer that believes a header, and a counter store that is down.
-/
namespace RestKit.Sample

/-- An uploaded file with its content, and where it lies. -/
def fileJson (place : String → String) (s : Upload.Storage) (f : Upload.File) : Json :=
  let name := f.storedName.toList.take 36
  let isOwnName := name.length == 36 && f.storedName == String.ofList name ++ "." ++ f.extension
    && Http.hasSuffix f.storedName f.path
  .ofPairs [("fieldName", .string f.fieldName), ("originalName", .string f.clientName),
    ("size", .nat f.size), ("extension", .string f.extension), ("mimeType", .string f.mimeType),
    ("stored_name_ok", .bool isOwnName), ("temporary", .bool f.temporary),
    ("dir", .string (place f.path)),
    ("content", match s.content? f.path with
      | some bytes => if bytes.length ≤ 200 then .string (Utf8.lossy bytes) else .null
      | none => .null)]

def filesJson (place : String → String) (s : Upload.Storage) (fs : Upload.Files) : Json :=
  .object (fs.map fun (k, files) => (k, .array (files.map (fileJson place s))))

/-- All that a context holds, and what its accessors give for a few names. -/
def contextJson (place : String → String) (ctx : Context) (s : Upload.Storage) : Json :=
  let param : Option ParamValue → Json := .ofOption ParamValue.toJson
  .ofPairs [("endpoint", .string ctx.endpointName), ("method", .string ctx.method),
    ("uri", .string ctx.uri.text), ("ip", .string ctx.remoteIp),
    ("has_endpoint", .bool ctx.endpoint.isSome),
    ("principal", .ofOption Auth.Principal.toJson ctx.principal),
    ("token", .ofOption Auth.Token.toJson ctx.token), ("params", ctx.params.toJson),
    ("body", .ofOption ParsedBody.value ctx.body), ("files", filesJson place s ctx.files),
    ("form", Form.toJson ctx.form), ("first_title", .ofOption .string (ctx.formValue "title")),
    ("avatars", .nat (ctx.filesOf "avatar").length), ("id", param (ctx.pathParam "id")),
    ("q", param (ctx.queryParam "q")), ("h", param (ctx.headerParam "x-h")),
    ("filter", .ofOption (fun b => builtJson Query.Filter.toValue b.build) ctx.filterParam),
    ("has_deadline", .bool ctx.hasDeadline), ("audited", .bool ctx.auditor.isSome)]

/-- The body taken as another type, and then twice as its own. -/
def takenJson (type : String) (ctx : Context) : Json :=
  let (wrong, ctx) := ctx.takeBody ("not " ++ type)
  let (first, ctx) := ctx.takeBody type
  let (second, _) := ctx.takeBody type
  .ofPairs [("wrong", .bool wrong.isSome), ("first", .ofOption id first),
    ("second", .ofOption id second)]

/-- A handler that ends in one way, whatever the request. -/
def always (outcome : Outcome ApiError Response) : Handler Unit :=
  fun _ _ () => { outcome, state := () }

/-- Answers with its context. -/
def echo (place : String → String) : Handler Unit := fun ctx s () =>
  { outcome := .done (.json 200 (contextJson place ctx s)), state := () }

/-- Answers with a body that it takes out of its context. -/
def taking (type : String) : Handler Unit := fun ctx _ () =>
  { outcome := .done (.json 200 (takenJson type ctx)), state := () }

/-- Renders a value and leaves an audit record of it. -/
def recorded (value : Option Json) (affected : Option String) (format : ResponseFormat)
    (status : Option Nat) : Handler Unit := fun ctx _ () =>
  let (r, trail) := respondAndLog ctx value affected format status
  { outcome := .ofExcept r, state := (), trail }

/-- Takes the identity that a header names, as an id and a role with a colon between them. -/
def headerAuthorizer : Auth.Authorizer := fun ctx =>
  match ctx.header "x-user" with
  | none => .done .anonymous
  | some "deny" => .refused (.unauthorized "denied")
  | some user =>
    let (id, role) := (Text.splitOnce ':' user).getD (user, "")
    .done {
      principal := some ⟨id, role⟩
      token := some { isValid := true, userId := id, userType := "header", expiresAt := none } }

/-- Limits requests by the value of a header; those without it have no limit. -/
def limitedBy (header : String) (max window : Nat) : Limiter := fun ctx =>
  .done ((ctx.header header).map fun k => { max, window, key := some k })

/-- A counter store that is down for all keys but one. -/
def downStore : RateLimit.Store :=
  .remote { answer := fun _ hit =>
    if hit.key == "up" then .done 1 else .refused (.unavailable "store down") }

end RestKit.Sample
