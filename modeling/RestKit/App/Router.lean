import RestKit.App.Template
import RestKit.Endpoint.Pipeline
/-!
# Routers

A router holds one route for each path of an application's endpoints. It finds the endpoint of a
request and answers the requests that have none. Building it makes the directories of uploads, and
crashes where the paths cannot stand beside each other.
-/
namespace RestKit

/-- A path with its endpoints, which have different methods. -/
structure Route (σ : Type) where
  path : String
  template : List Template.Piece
  endpoints : List (Endpoint σ)

namespace Route

/-- The endpoint of a method. `GET` answers `HEAD` where nothing else does. -/
def endpoint? {σ : Type} (r : Route σ) (method : String) : Option (Endpoint σ) :=
  let answering (m : String) : Option (Endpoint σ) := r.endpoints.find? (·.info.method == m)
  (answering method).or (if method == "HEAD" then answering "GET" else none)

/-- The methods that a route answers, sorted. -/
def methods {σ : Type} (r : Route σ) : List String :=
  let all := r.endpoints.flatMap fun e =>
    if e.info.method == "GET" then ["GET", "HEAD"] else [e.info.method]
  (Json.entriesOf (all.map fun m => (m, ()))).map (·.1)

end Route

structure Router (σ : Type) where
  app : App σ
  routes : List (Route σ)

/-- Whether a template conflicts with one of several. -/
def conflictsWith {σ : Type} (template : List Template.Piece) (routes : List (Route σ)) : Bool :=
  routes.any fun r => Template.conflicts r.template template

/-- Add a route. A malformed template is a crash, and so is one that conflicts with another. -/
def addRoute {σ : Type} (routes : List (Route σ)) (path : String) (endpoints : List (Endpoint σ)) :
    Outcome EndpointError (List (Route σ)) :=
  match Template.parse? path with
  | none => .crashed
  | some template =>
    if conflictsWith template routes then .crashed
    else .done (routes ++ [{ path, template, endpoints }])

/-- Add the routes of some paths. -/
def addRoutes {σ : Type} (routes : List (Route σ)) :
    List (String × List (Endpoint σ)) → Outcome EndpointError (List (Route σ))
  | [] => .done routes
  | (path, endpoints) :: rest =>
    match addRoute routes path endpoints with
    | .done routes => addRoutes routes rest
    | o => o

/-- Why the directory of an endpoint's uploads cannot be made, if it has uploads; `makeDirectory`
tries it and says what is in the way (`prepare`). -/
def Endpoint.directoryError? {σ : Type} (makeDirectory : String → Option String) (e : Endpoint σ) :
    Option String :=
  e.upload.bind fun p => makeDirectory p.destination

/-- Put an endpoint to its path, behind the endpoints that are there (`method_filter`). A method
that one of them has is a crash. -/
def place {σ : Type} (makeDirectory : String → Option String) (groups : Grouped (Endpoint σ))
    (e : Endpoint σ) : Outcome EndpointError (Grouped (Endpoint σ)) :=
  match e.directoryError? makeDirectory with
  | some cause => .refused (.uploadDirectory cause)
  | none =>
    if !supportedMethods.contains e.info.method then
      .refused (.unsupportedMethod e.info.name e.info.method)
    else if (groups.get e.info.path).any (·.info.method == e.info.method) then .crashed
    else .done (groups.add e.info.path e)

/-- Put endpoints to their paths, one after the other. -/
def placeAll {σ : Type} (makeDirectory : String → Option String) (groups : Grouped (Endpoint σ)) :
    List (Endpoint σ) → Outcome EndpointError (Grouped (Endpoint σ))
  | [] => .done groups
  | e :: es =>
    match place makeDirectory groups e with
    | .done groups => placeAll makeDirectory groups es
    | o => o

namespace App

/-- The router of an application (`router`). Its routes are in the order of paths. -/
def router {σ : Type} (app : App σ) (makeDirectory : String → Option String := fun _ => none) :
    Outcome EndpointError (Router σ) :=
  match placeAll makeDirectory [] app.endpoints with
  | .done groups => (addRoutes [] groups).map fun routes => { app, routes }
  | .refused e => .refused e
  | .crashed => .crashed
  | .pending => .pending

end App

namespace Router

/-- A route at a path, with the values of its parameters. -/
abbrev Found (σ : Type) := Route σ × List (String × List Char)

/-- The better of two routes that match a path. -/
def better {σ : Type} (best : Option (Found σ)) (new : Found σ) : Option (Found σ) :=
  match best with
  | some old => if Template.precedes new.1.template old.1.template then some new else some old
  | none => some new

/-- The route of a path. -/
def find? {σ : Type} (r : Router σ) (path : String) : Option (Found σ) :=
  (r.routes.filterMap fun route =>
    (Template.match? route.template path.toList).map fun vs => (route, vs)).foldl better none

/-- A parameter with the text of its value; none if the value's escapes make no text. -/
def pathParam? (value : String × List Char) : Option (String × String) :=
  (Utf8.decode? (Http.percentDecode (Utf8.encode (String.ofList value.2)))).map fun s =>
    (value.1, s)

/-- The parameters of a path; if any makes no text there are none at all. -/
def pathParams (values : List (String × List Char)) : List (String × String) :=
  (values.mapM pathParam?).getD []

/-- The response to a method that a route does not answer. -/
def notAllowed (methods : List String) : Response := { Response.bare 405 with allow := methods }

/-- What an endpoint's response to a method sends; one to `HEAD` has no body. -/
def sent (method : String) (r : Response) : Response :=
  if method == "HEAD" then { r with body := "" } else r

/-- Answer a request at its endpoint, if it has one. -/
def handle {σ : Type} (r : Router σ) (request : Request) (w : World σ) :
    Option Response × World σ :=
  match r.find? request.uri.path with
  | none => (some routeNotFound.respond, w)
  | some (route, values) =>
    match route.endpoint? request.method with
    | none => (some (notAllowed route.methods), w)
    | some endpoint =>
      match dispatch { app := r.app, endpoint, request, path := pathParams values } w with
      | (response, w) => (response.map (sent request.method), w)

end Router
end RestKit
