import RestKit.Proofs.App.Registry
import RestKit.Proofs.Keyed
/-!
# What an application holds after calls of `register`

A call is refused exactly if the name or the route of its endpoint is taken, and what it adds stands
behind what was there (`register_eq_ok`, `register_eq_error`). So no name and no route is taken
twice after a call, if none was before (`Distinct.after`), nor after any row of calls, and the
endpoints are those that were accepted, in their order (`afterAll_eq`). A built endpoint keeps the
rules of declarations (`ruled_of_build`); `registered_of_built` puts the parts together.
-/
namespace RestKit

variable {σ : Type} {a b : App σ} {e old : Endpoint σ} {es : List (Endpoint σ)}
  {d : Declaration σ}

/-! ## Built endpoints -/

/-- The rules of declarations, as they show in an endpoint. -/
structure Endpoint.Ruled (e : Endpoint σ) : Prop where
  method : e.info.method ∈ ["GET", "HEAD", "POST", "PUT", "PATCH", "DELETE"]
  path : e.info.path.toList.head? = some '/'
  upload : e.upload.isSome = true → e.info.method ∈ ["POST", "PUT", "PATCH"]
  body : e.info.method ∈ ["GET", "HEAD", "DELETE"] → e.body = none

theorem readsBody_iff {method : String} :
    readsBody method = true ↔ method ∈ ["POST", "PUT", "PATCH"] := List.contains_iff_mem

/-- What a declaration is built into keeps the rules, whatever was written down. -/
theorem ruled_of_build (h : d.build = .ok e) : e.Ruled := by
  obtain ⟨handler, -, ⟨hmethod, hpath, hupload⟩, rfl⟩ := Declaration.build_eq_ok.1 h
  refine ⟨hmethod, beq_iff_eq.1 hpath, fun h => readsBody_iff.1 (hupload h), fun hbodiless => ?_⟩
  have hread : ¬readsBody d.info.method = true := by
    intro hread
    have hreads := readsBody_iff.1 hread
    change d.info.method ∈ _ at hbodiless
    generalize d.info.method = method at hbodiless hreads
    simp only [List.mem_cons, List.not_mem_nil, or_false] at hbodiless hreads
    rcases hbodiless with rfl | rfl | rfl <;> revert hreads <;> decide
  exact if_neg hread

/-! ## One call -/

/-- The method and the path of an endpoint. -/
def EndpointInfo.route (i : EndpointInfo) : String × String := (i.method, i.path)

namespace App

/-- The names of the registered endpoints. -/
def names (a : App σ) : List String := a.endpoints.map (·.info.name)

/-- The routes of the registered endpoints. -/
def routes (a : App σ) : List (String × String) := a.endpoints.map (·.info.route)

/-- A registered endpoint has the same name, or the same method and path. -/
def Taken (a : App σ) (i : EndpointInfo) : Prop := i.name ∈ a.names ∨ i.route ∈ a.routes

theorem taken_iff {i : EndpointInfo} : a.Taken i ↔ ∃ old ∈ a.endpoints, ¬old.info.Apart i := by
  have happart : ∀ old : Endpoint σ,
      ¬old.info.Apart i ↔ old.info.name = i.name ∨ old.info.route = i.route := by
    intro old
    rw [EndpointInfo.Apart, EndpointInfo.route, EndpointInfo.route, Prod.mk.injEq]
    tauto
  simp only [happart, and_or_left, exists_or]
  rw [Taken, names, routes, List.mem_map, List.mem_map]

/-- What a call that is accepted adds to an application. -/
def add (a : App σ) (e : Endpoint σ) : App σ := { a with endpoints := a.endpoints ++ [e] }

theorem register_of_not_taken (h : ¬a.Taken e.info) : a.register e = .ok (a.add e) := by
  refine register_of_apart fun old hold => ?_
  by_contra happart
  exact h (taken_iff.2 ⟨old, hold, happart⟩)

theorem register_of_taken (h : a.Taken e.info) : ∃ cause, a.register e = .error cause := by
  obtain ⟨old, hold, happart⟩ := taken_iff.1 h
  unfold register
  cases hfind : a.endpoints.findSome? (conflict? e) with
  | some cause => exact ⟨cause, rfl⟩
  | none =>
    rw [List.findSome?_eq_none_iff] at hfind
    exact absurd (conflict?_eq_none.1 (hfind old hold)) happart

theorem register_eq_ok : a.register e = .ok b ↔ ¬a.Taken e.info ∧ a.add e = b := by
  by_cases h : a.Taken e.info
  · obtain ⟨cause, hcause⟩ := register_of_taken h
    simp [hcause, h]
  · simp [register_of_not_taken h, h]

/-- A call is refused exactly if the name or the route is taken. -/
theorem register_eq_error : (∃ cause, a.register e = .error cause) ↔ a.Taken e.info := by
  refine ⟨fun ⟨cause, hcause⟩ => ?_, register_of_taken⟩
  by_contra h
  rw [register_of_not_taken h] at hcause
  cases hcause

/-! ## Rows of calls -/

/-- The application after a call of `register`; one that is refused leaves it as it is. -/
def after (a : App σ) (e : Endpoint σ) : App σ :=
  match a.register e with
  | .ok b => b
  | .error _ => a

/-- The application after a row of calls. -/
def afterAll (a : App σ) (es : List (Endpoint σ)) : App σ := es.foldl after a

theorem afterAll_cons (e : Endpoint σ) : a.afterAll (e :: es) = (a.after e).afterAll es := by
  rw [afterAll, afterAll, List.foldl_cons]

/-- The endpoints of a row of calls that are accepted. -/
def accepted (a : App σ) : List (Endpoint σ) → List (Endpoint σ)
  | [] => []
  | e :: es =>
    match a.register e with
    | .ok b => e :: b.accepted es
    | .error _ => a.accepted es

theorem after_of_taken (h : a.Taken e.info) : a.after e = a := by
  obtain ⟨cause, hcause⟩ := register_of_taken h
  rw [after, hcause]

theorem after_of_not_taken (h : ¬a.Taken e.info) : a.after e = a.add e := by
  rw [after, register_of_not_taken h]

/-- A row of calls adds the accepted endpoints, in their order, and changes nothing else. -/
theorem afterAll_eq (es : List (Endpoint σ)) (a : App σ) :
    a.afterAll es = { a with endpoints := a.endpoints ++ a.accepted es } := by
  induction es generalizing a with
  | nil => simp [afterAll, accepted]
  | cons e es ih =>
    rw [afterAll_cons, ih]
    by_cases h : a.Taken e.info
    · obtain ⟨cause, hcause⟩ := register_of_taken h
      rw [after_of_taken h, accepted, hcause]
    · rw [after_of_not_taken h, accepted, register_of_not_taken h]
      simp [add]

/-- What is accepted was asked for. -/
theorem accepted_sublist (es : List (Endpoint σ)) (a : App σ) : (a.accepted es).Sublist es := by
  induction es generalizing a with
  | nil => exact .slnil
  | cons e es ih =>
    rw [accepted]
    split
    · exact (ih _).cons_cons e
    · exact (ih a).cons e

/-- No name and no route is taken twice. -/
structure Distinct (a : App σ) : Prop where
  names : a.names.Nodup
  routes : a.routes.Nodup

theorem distinct_of_empty (hempty : a.endpoints = []) : a.Distinct := by
  constructor
  · simp [names, hempty]
  · simp [routes, hempty]

/-- A call keeps names and routes distinct: it looks for both before it adds. -/
theorem Distinct.after (h : a.Distinct) (e : Endpoint σ) : (a.after e).Distinct := by
  by_cases htaken : a.Taken e.info
  · rwa [after_of_taken htaken]
  · rw [after_of_not_taken htaken]
    obtain ⟨hname, hroute⟩ := not_or.1 htaken
    exact ⟨nodup_key_concat h.names hname, nodup_key_concat h.routes hroute⟩

theorem Distinct.afterAll (h : a.Distinct) (es : List (Endpoint σ)) : (a.afterAll es).Distinct := by
  induction es generalizing a with
  | nil => exact h
  | cons e es ih =>
    rw [afterAll_cons]
    exact ih (h.after e)

/-- What holds after a row of calls on an application without endpoints. -/
structure Registered (a : App σ) (es : List (Endpoint σ)) : Prop where
  names : (a.afterAll es).names.Nodup
  routes : (a.afterAll es).routes.Nodup
  /-- The next call is refused exactly if its name or its route is taken. -/
  refused : ∀ e, (∃ cause, (a.afterAll es).register e = .error cause) ↔
    e.info.name ∈ (a.afterAll es).names ∨ e.info.route ∈ (a.afterAll es).routes
  /-- A call that is refused changes nothing. -/
  kept : ∀ e, (∃ cause, (a.afterAll es).register e = .error cause) →
    (a.afterAll es).after e = a.afterAll es
  /-- A call that is accepted adds its endpoint at the end and changes nothing else. -/
  added : ∀ e b, (a.afterAll es).register e = .ok b →
    b = { a.afterAll es with endpoints := (a.afterAll es).endpoints ++ [e] }
  /-- The endpoints are the accepted ones, in the order of the calls. -/
  order : (a.afterAll es).endpoints = a.accepted es
  found : ∀ name e, (a.afterAll es).find? name = some e ↔
    e ∈ (a.afterAll es).endpoints ∧ e.info.name = name
  ruled : ∀ e ∈ (a.afterAll es).endpoints, e.Ruled

/-- **Registration.** After any row of calls, accepted and refused, with endpoints that were built:
no name and no route is taken twice, the endpoints are those that were accepted, and each keeps the
rules of declarations. -/
theorem registered_of_built (a : App σ) (es : List (Endpoint σ)) (hempty : a.endpoints = [])
    (hbuilt : ∀ e ∈ es, ∃ d : Declaration σ, d.build = .ok e) : a.Registered es := by
  have hdistinct := (distinct_of_empty hempty).afterAll es
  have horder : (a.afterAll es).endpoints = a.accepted es := by
    rw [afterAll_eq, hempty, List.nil_append]
  refine ⟨hdistinct.names, hdistinct.routes, fun e => register_eq_error, fun e h => ?_,
    fun e b h => (register_eq_ok.1 h).2.symm, horder, fun name e => ?_, fun e he => ?_⟩
  case refine_1 => exact after_of_taken (register_eq_error.1 h)
  case refine_2 => exact find?_key_eq_some hdistinct.names
  case refine_3 =>
    rw [horder] at he
    obtain ⟨d, hd⟩ := hbuilt e ((accepted_sublist es a).subset he)
    exact ruled_of_build hd

/-- A handler that does nothing. -/
def idle : Handler Unit := fun _ _ s => { outcome := .done (.bare 204), state := s }

def idleDeclaration (name method path : String) : Declaration Unit where
  info := { name, method, path }
  handler := some idle

/-- The endpoint that is declared so. -/
def idleEndpoint (name method path : String) : Endpoint Unit :=
  (idleDeclaration name method path).endpoint idle

theorem build_idleDeclaration {name method path : String} (hmethod : method ∈ supportedMethods)
    (hpath : Text.startsWith '/' path = true) :
    (idleDeclaration name method path).build = .ok (idleEndpoint name method path) :=
  Declaration.build_eq_ok.2 ⟨idle, rfl, ⟨hmethod, hpath, nofun⟩, rfl⟩

/-- The second call has a name that is taken, the third a route. -/
theorem registered_of_built_items :
    let a : App Unit := { process := .development }
    let es := [idleEndpoint "list" "GET" "/items", idleEndpoint "list" "POST" "/other",
      idleEndpoint "again" "GET" "/items", idleEndpoint "create" "POST" "/items"]
    (a.endpoints = [] ∧ ∀ e ∈ es, ∃ d : Declaration Unit, d.build = .ok e) ∧ a.Registered es ∧
      (a.afterAll es).names = ["list", "create"] := by
  intro a es
  have hbuilt : ∀ e ∈ es, ∃ d : Declaration Unit, d.build = .ok e := by
    simp only [es, List.forall_mem_cons]
    exact ⟨⟨_, build_idleDeclaration (by decide) (by decide)⟩,
      ⟨_, build_idleDeclaration (by decide) (by decide)⟩,
      ⟨_, build_idleDeclaration (by decide) (by decide)⟩,
      ⟨_, build_idleDeclaration (by decide) (by decide)⟩, List.forall_mem_nil _⟩
  exact ⟨⟨rfl, hbuilt⟩, registered_of_built a es rfl hbuilt, by decide +kernel⟩

end App
end RestKit
