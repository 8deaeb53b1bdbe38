import Mathlib.Data.List.Pairwise
import RestKit.Proofs.App.Router
/-!
# When a router is built

An application whose calls of `register` were all accepted has a router exactly if its endpoints
are ready and their paths can stand beside each other (`router_of_registered`). An endpoint whose
directory cannot be made, or whose method is not one of the supported, is refused with an error.
Paths that cannot stand beside each other are not: `register` compares paths as they are written,
and building the router crashes (`registered_items_crash`).
-/
namespace RestKit

variable {σ : Type} {a b : App σ} {e : Endpoint σ} {routes rs : List (Route σ)}
  {gs : Grouped (Endpoint σ)} {es : List (Endpoint σ)} {paths : List String} {path : String}
  {makeDirectory : String → Option String}

/-! ## Paths beside each other -/

theorem Template.conflicts_comm (ps qs : List Template.Piece) :
    Template.conflicts ps qs = Template.conflicts qs ps := by
  induction ps generalizing qs with
  | nil =>
    cases qs with
    | nil => rfl
    | cons q qs => cases q <;> rfl
  | cons p ps ih =>
    cases qs with
    | nil => cases p <;> rfl
    | cons q qs => cases p <;> cases q <;> simp [Template.conflicts, ih, eq_comm]

theorem routable_iff : routable paths = true ↔ ∀ p ∈ paths, ∃ t, Template.parse? p = some t ∧
    ∀ q ∈ paths, p ≠ q → ∀ u, Template.parse? q = some u → Template.conflicts t u = false := by
  refine ⟨fun h p hp => parse?_of_routable h hp, fun h => ?_⟩
  refine List.all_eq_true.2 fun p hp => ?_
  obtain ⟨t, ht, hall⟩ := h p hp
  refine (Option.any_eq_true _ _).2 ⟨t, ht, List.all_eq_true.2 fun q hq => ?_⟩
  by_cases hpq : p = q
  · simp [hpq]
  · cases hu : Template.parse? q with
    | none => simp
    | some u => simp [hall q hq hpq u hu]

/-! ## Routes beside each other -/

/-- What routes keep as they are added: each has the template of its path, and no two templates
conflict. -/
structure Standing (routes : List (Route σ)) : Prop where
  template : ∀ route ∈ routes, Template.parse? route.path = some route.template
  apart : routes.Pairwise fun r s => Template.conflicts r.template s.template = false

theorem Standing.add {t : List Template.Piece} (h : Standing routes)
    (ht : Template.parse? path = some t) (hfree : conflictsWith t routes = false) :
    Standing (routes ++ [{ path, template := t, endpoints := es }]) := by
  refine ⟨fun route hroute => ?_, List.pairwise_append.2 ⟨h.apart, List.pairwise_singleton ..,
    fun old hold new hnew => ?_⟩⟩
  · rcases List.mem_append.1 hroute with hroute | hroute
    · exact h.template route hroute
    · cases List.mem_singleton.1 hroute
      exact ht
  · cases List.mem_singleton.1 hnew
    simpa using List.any_eq_false.1 hfree old hold

/-- Routes that were added stand beside each other, and each path has one. -/
theorem standing_of_addRoutes (h : addRoutes routes gs = .done rs) (hs : Standing routes) :
    Standing rs ∧ routes.map Route.path ++ gs.map (·.1) = rs.map Route.path := by
  induction gs generalizing routes with
  | nil =>
    cases h
    exact ⟨hs, List.append_nil _⟩
  | cons g gs ih =>
    obtain ⟨path, es⟩ := g
    rw [addRoutes] at h
    cases hadd : addRoute routes path es with
    | done routes' =>
      rw [hadd] at h
      obtain ⟨t, ht, hfree, rfl⟩ := addRoute_eq_done.1 hadd
      obtain ⟨hstanding, hpaths⟩ := ih h (hs.add ht hfree)
      exact ⟨hstanding, by simpa using hpaths⟩
    | _ => simp [hadd] at h

theorem Standing.routable (h : Standing rs) : routable (rs.map Route.path) = true := by
  have : Std.Symm fun r s : Route σ => Template.conflicts r.template s.template = false :=
    ⟨fun r s hrs => by rwa [Template.conflicts_comm]⟩
  refine routable_iff.2 (List.forall_mem_map.2 fun route hroute => ⟨route.template,
    h.template route hroute, List.forall_mem_map.2 fun other hother hne u hu => ?_⟩)
  cases hu.symm.trans (h.template other hother)
  exact h.apart.forall hroute hother fun heq => hne (congrArg Route.path heq)

/-- Adding routes gives the routes or crashes. -/
theorem addRoutes_cases (routes : List (Route σ)) (gs : Grouped (Endpoint σ)) :
    (∃ rs, addRoutes routes gs = .done rs) ∨ addRoutes routes gs = .crashed := by
  induction gs generalizing routes with
  | nil => exact .inl ⟨routes, rfl⟩
  | cons g gs ih =>
    obtain ⟨path, es⟩ := g
    rw [addRoutes, addRoute]
    cases Template.parse? path with
    | none => exact .inr rfl
    | some t =>
      dsimp only
      cases conflictsWith t routes with
      | true => exact .inr rfl
      | false => exact ih _

theorem routable_congr {paths' : List String} (h : ∀ p, p ∈ paths ↔ p ∈ paths') :
    routable paths = routable paths' := by
  rw [Bool.eq_iff_iff, routable_iff, routable_iff]
  simp only [h]

theorem addRoutes_crashed (h : routable (gs.map (·.1)) = false) :
    addRoutes ([] : List (Route σ)) gs = .crashed := by
  refine (addRoutes_cases [] gs).resolve_left fun ⟨rs, hrs⟩ => ?_
  obtain ⟨hstanding, hpaths⟩ := standing_of_addRoutes hrs ⟨nofun, .nil⟩
  have hroutable := hstanding.routable
  rw [← hpaths, List.map_nil, List.nil_append, h] at hroutable
  cases hroutable

/-! ## Registered endpoints -/

namespace App

/-- Endpoints that are ready, with paths that cannot stand beside each other, have no router. -/
theorem router_crashed (hready : ∀ e ∈ a.endpoints, e.Ready makeDirectory)
    (hroutes : a.routes.Nodup) (h : routable (a.endpoints.map (·.info.path)) = false) :
    a.router makeDirectory = .crashed := by
  have hplace := placeAll_of_ready [] hready hroutes
  have hcongr : routable ((groupsOf a.endpoints).map (·.1)) = false := by
    rw [← h]
    exact routable_congr fun p => mem_paths_groupsOf
  rw [router_of_placed hplace, List.nil_append, addRoutes_crashed hcongr]
  rfl

theorem router_refused (hready : ¬∀ e ∈ a.endpoints, e.Ready makeDirectory)
    (hroutes : a.routes.Nodup) : ∃ cause, a.router makeDirectory = .refused cause := by
  obtain ⟨cause, hplace⟩ := placeAll_of_not_ready [] hready hroutes
  exact ⟨cause, router_of_refused hplace⟩

/-- Calls of `register` that are all accepted add their endpoints and keep routes distinct. -/
theorem distinct_of_registered (hdistinct : a.Distinct) (hok : es.foldlM register a = .ok b) :
    b.Distinct ∧ b.endpoints = a.endpoints ++ es := by
  induction es generalizing a with
  | nil =>
    cases hok
    exact ⟨hdistinct, (List.append_nil _).symm⟩
  | cons e es ih =>
    rw [List.foldlM_cons] at hok
    cases hregister : a.register e with
    | error cause => rw [hregister] at hok; cases hok
    | ok c =>
      rw [hregister, ok_bind] at hok
      have hafter := hdistinct.after e
      obtain ⟨-, rfl⟩ := register_eq_ok.1 hregister
      rw [App.after, hregister] at hafter
      obtain ⟨hb, hendpoints⟩ := ih hafter hok
      exact ⟨hb, by simpa [add] using hendpoints⟩

/-- **When a router is built.** After calls of `register` that are all accepted, the router is
refused with an error exactly if an endpoint is not ready; it is built exactly if all are ready and
their paths can stand beside each other, and crashes exactly if all are ready and these cannot. -/
theorem router_of_registered (makeDirectory : String → Option String) (hempty : a.endpoints = [])
    (hok : es.foldlM register a = .ok b) :
    ((∃ cause, b.router makeDirectory = .refused cause) ↔ ¬∀ e ∈ es, e.Ready makeDirectory) ∧
    ((∃ r, b.router makeDirectory = .done r) ↔
      (∀ e ∈ es, e.Ready makeDirectory) ∧ routable (es.map (·.info.path)) = true) ∧
    (b.router makeDirectory = .crashed ↔
      (∀ e ∈ es, e.Ready makeDirectory) ∧ routable (es.map (·.info.path)) = false) ∧
    b.router makeDirectory ≠ .pending := by
  obtain ⟨hdistinct, hendpoints⟩ := distinct_of_registered (distinct_of_empty hempty) hok
  rw [hempty, List.nil_append] at hendpoints
  rw [← hendpoints]
  by_cases hready : ∀ e ∈ b.endpoints, e.Ready makeDirectory
  · have hall := iff_true_intro hready
    cases hroutable : routable (b.endpoints.map (·.info.path)) with
    | true =>
      obtain ⟨r, hr⟩ := exists_router hready hdistinct.routes hroutable
      simp [hr, hall]
    | false =>
      have hcrashed := router_crashed hready hdistinct.routes hroutable
      simp [hcrashed, hall]
  · obtain ⟨cause, hcause⟩ := router_refused hready hdistinct.routes
    simp [hcause, hready]

/-- A fixed segment stands beside a parameter. -/
theorem router_of_registered_items :
    let es := [idleEndpoint "item" "GET" "/items/:id", idleEndpoint "new" "GET" "/items/new"]
    let a : App Unit := { process := .development }
    ∃ b r, (a.endpoints = [] ∧ es.foldlM register a = .ok b) ∧ b.router = .done r := by
  intro es a
  have hok : es.foldlM register a = .ok { a with endpoints := es } := rfl
  have hready : ∀ e ∈ es, e.Ready fun _ => none := by
    simp only [es, List.forall_mem_cons]
    exact ⟨⟨rfl, by decide⟩, ⟨rfl, by decide⟩, List.forall_mem_nil _⟩
  obtain ⟨-, hdone, -, -⟩ := router_of_registered (fun _ => none) rfl hok
  obtain ⟨r, hr⟩ := hdone.2 ⟨hready, by decide +kernel⟩
  exact ⟨_, r, ⟨rfl, hok⟩, hr⟩

/-- Two declared endpoints whose paths differ only in the name of a parameter are both accepted, and
building the router crashes. -/
theorem registered_items_crash :
    let es := [idleEndpoint "item" "GET" "/items/:id", idleEndpoint "named" "GET" "/items/:name"]
    let a : App Unit := { process := .development }
    (∀ e ∈ es, ∃ d : Declaration Unit, d.build = .ok e) ∧
    ∃ b, es.foldlM register a = .ok b ∧ b.router = .crashed := by
  intro es a
  refine ⟨?_, { a with endpoints := es }, rfl, ?_⟩
  · simp only [es, List.forall_mem_cons]
    exact ⟨⟨_, build_idleDeclaration (by decide) (by decide +kernel)⟩,
      ⟨_, build_idleDeclaration (by decide) (by decide +kernel)⟩, List.forall_mem_nil _⟩
  · refine router_crashed ?_ (by decide +kernel) (by decide +kernel)
    simp only [es, List.forall_mem_cons]
    exact ⟨⟨rfl, by decide⟩, ⟨rfl, by decide⟩, List.forall_mem_nil _⟩

end App
end RestKit
