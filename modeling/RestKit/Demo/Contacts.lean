import RestKit.App.Registry
import RestKit.Auth.Authorizer
import RestKit.Query.Document
import RestKit.Query.Refusal
/-!
# A contact book

An application that keeps contacts: tokens are issued on demand, contacts are listed and created by
those who bear one, and pictures may be uploaded for a contact.
-/
namespace RestKit.Demo
open Schema Body

/-- A contact of the book (`Contact`). -/
structure Contact where
  id : String
  name : String
  email : String
  age : Int
  tags : List String
deriving DecidableEq, Repr

def Contact.toJson (c : Contact) : Json :=
  .ofPairs [("id", .string c.id), ("name", .string c.name), ("email", .string c.email),
    ("age", .int c.age), ("tags", .array (c.tags.map .string))]

/-- The contacts in order of creation, and the supply of their ids. -/
structure Book where
  contacts : List Contact := []
  ids : Nat → String := Text.uuidText
  used : Nat := 0

/-! ## Bodies -/

/-- What a new contact is made of (`NewContact`). -/
def newContact : Model where
  type := "NewContact"
  family := {
    registry := .builtin
    types := [("NewContact", [
      { name := "name", kind := .string, normalize := some "trim",
        validate := some "required,min=2,max=100" },
      { name := "email", kind := .string, normalize := some "trim,lowercase",
        sanitize := some "html", validate := some "required,email" },
      { name := "age", kind := .int, validate := some "gte=0,lte=150" },
      { name := "tags", kind := .list .string, normalize := some "dive,trim,lowercase"
        validate := some "max=10,dive,alphanum" }])] }
  shape := .record "NewContact" [("name", .text, none), ("email", .text, none),
    ("age", .int64, some (.int 0)), ("tags", .list .text, some (.array []))]

/-- Whom a token is asked for (`TokenRequest`). -/
def tokenRequest : Model where
  type := "TokenRequest"
  family := {
    registry := .builtin
    types := [("TokenRequest", [
      { name := "user_id", kind := .string, normalize := some "trim", validate := some "required" },
      { name := "role", kind := .string, normalize := some "trim,lowercase"
        validate := some "required,oneof=admin member" }])] }
  shape := .record "TokenRequest" [("user_id", .text, none), ("role", .text, none)]

/-- The text of a field. -/
def textOf (v : Json) (name : String) : String := ((v.get? name).bind Json.string?).getD ""

/-- The contact that a body describes. -/
def Contact.ofBody (id : String) (v : Json) : Contact where
  id
  name := textOf v "name"
  email := textOf v "email"
  age := ((v.get? "age").bind Json.int64?).getD 0
  tags := (((v.get? "tags").bind Json.array?).getD []).map fun t => t.string?.getD ""

/-! ## Handlers -/

/-- A handler's end that leaves the book as it is. -/
def unchanged (book : Book) (outcome : Outcome ApiError Response) : Handled Book :=
  { outcome, state := book }

def version : String := "0.1.0"

def instantOf (nanos : Nat) : Time.Instant := ⟨(nanos / 1000000000 : Nat), nanos % 1000000000⟩

def health : Handler Book := fun ctx _ book =>
  let t := instantOf ctx.now
  unchanged book (.done (Envelope.success (some (.ofPairs [("status", .string "ok"),
    ("version", .string version),
    ("timestamp", .string (t.local ++ Time.fractionText t.nanos ++ "Z"))]))).respond)

/-- Issue a token to whom the body names (`issue`). -/
def issueToken (process : Config) : Handler Book := fun ctx _ book =>
  match ctx.bodyOf tokenRequest.type with
  | none => unchanged book (.refused (.internal "Missing token request"))
  | some v =>
    let now := ctx.now / Auth.nanosPerSecond
    match Auth.Claims.lasting process.security.jwtExpiryHours now (textOf v "user_id")
        (textOf v "role") "demo" with
    | none => unchanged book .crashed
    | some claims =>
      match Auth.Jwt.issue claims ctx.config.security.jwtSecret with
      | .error _ => unchanged book (.refused (.internal "JWT_SECRET is not configured"))
      | .ok token =>
        let data := Json.ofPairs [("token", .string token)]
        unchanged book (.done (Envelope.created (some data)).respond)

/-- What queries may ask of contacts (`contact_schema`). -/
def collection : Query.Collection where
  fields := [("name", .string), ("email", .string), ("age", .number), ("tags", .array),
    ("createdAt", .date)]

/-- The page of the contacts that a query asks for. -/
def page (q : Query.DocumentQuery) (contacts : List Contact) : List Contact :=
  let rest := contacts.drop (q.skip.getD 0)
  match q.limit with
  | some n => rest.take n
  | none => rest

def queryJson (q : Query.DocumentQuery) : Json :=
  .ofPairs [("filter", .object q.filter), ("sort", q.sortJson), ("projection", q.projectionJson)]

/-- The query of a request's filter. -/
def queryOf (ctx : Context) : Except Query.QueryError Query.DocumentQuery := do
  let filter ← (ctx.filterParam.getD {}).build
  filter.toDocument collection

/-- List the contacts of a page, with the query as it is understood. -/
def listContacts : Handler Book := fun ctx _ book =>
  unchanged book <| .ofExcept <|
    match queryOf ctx with
    | .error e => .error e.toApi
    | .ok q => render (some (.ofPairs [("query", queryJson q),
        ("items", .array ((page q book.contacts).map Contact.toJson))])) .json none

/-- Create a contact, unless its email is taken. -/
def createContact : Handler Book := fun ctx _ book =>
  match ctx.bodyOf newContact.type with
  | none => unchanged book (.refused (.internal "Missing contact body"))
  | some v =>
    let contact := Contact.ofBody (book.ids book.used) v
    let book := { book with used := book.used + 1 }
    if book.contacts.any (·.email == contact.email) then
      unchanged book (.refused (.conflict ("Contact '" ++ contact.email ++ "' already exists")))
    else
      let (response, trail) :=
        respondAndLog ctx (some contact.toJson) (some contact.id) .json (some 201)
      { outcome := .ofExcept response
        state := { book with contacts := book.contacts ++ [contact] }
        trail }

/-- Take a picture for a contact. -/
def uploadAvatar : Handler Book := fun ctx _ book =>
  let id := ((ctx.pathParam "id").bind ParamValue.string?).getD ""
  let value := Json.ofPairs [("id", .string id),
    ("files", .array ((ctx.filesOf "avatar").map Upload.File.toJson))]
  let (response, trail) := respondAndLog ctx (some value) (some id) .json none
  { outcome := .ofExcept response, state := book, trail }

/-! ## The application -/

/-- Five tokens in a quarter of an hour for each address. -/
def tokenLimit : Limiter := fun ctx =>
  .done (some { max := 5, window := 15 * 60 * 1000000000, key := some ("token_" ++ ctx.remoteIp) })

def avatarPolicy : Upload.Policy where
  fields := [("avatar", { required := true, maxFileSize := 1048576
                          allowedTypes := ["png", "jpg", "jpeg", "gif"], maxFiles := 1 })]

def declarations (process : Config) : List (Declaration Book) := [
  { info := { name := "health", method := "GET", path := "/health", isPublic := true
              auditDisabled := true }
    handler := some health },
  { info := { name := "issue_token", method := "POST", path := "/auth/token", isPublic := true
              description := some "Issue a bearer token for the demo endpoints" }
    body := some (.model tokenRequest)
    limiter := some tokenLimit
    handler := some (issueToken process) },
  { info := { name := "list_contacts", method := "GET", path := "/contacts"
              description := some "List contacts with a filter" }
    params := [.query "filter" .filter]
    handler := some listContacts },
  { info := { name := "create_contact", method := "POST", path := "/contacts"
              roles := ["admin", "member"], actionType := some "create"
              modelName := some "contact" }
    body := some (.model newContact)
    handler := some createContact },
  { info := { name := "upload_avatar", method := "POST", path := "/contacts/:id/avatar"
              actionType := some "upload", modelName := some "contact"
              timeout := deadlineOf 30000000000 }
    params := [.path "id" .string]
    upload := some avatarPolicy
    handler := some uploadAvatar }]

/-- The application under the configuration of the process. -/
def app (process : Config) : Except EndpointError (App Book) :=
  (declarations process).foldlM App.declare
    { process, authorizer := some (.jwt process.security.jwtSecret), auditHandler := some .log }

end RestKit.Demo
