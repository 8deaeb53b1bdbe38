import RestKit.App.Router
import RestKit.Proofs.App.Registration
import RestKit.Proofs.Grouped
/-!
# Routers

Endpoints with different routes are put to their paths (`placeAll_of_ready`), and paths whose
templates can be read, no two of them in conflict, are the routes of a router (`exists_router`). A
router takes a request to one of the application's endpoints, or answers it itself and leaves the
world alone (`handle_of_visit`, `handle_of_none`).
-/
namespace RestKit

variable {σ : Type} {a : App σ} {e : Endpoint σ} {r : Router σ} {route : Route σ}
  {routes rs : List (Route σ)} {gs : Grouped (Endpoint σ)} {q : Request} {v : Visit σ}
  {w : World σ} {paths : List String} {path : String} {olds es : List (Endpoint σ)}
  {makeDirectory : String → Option String}

/-! ## Endpoints by path -/

/-- The endpoints by path, in the order of paths. -/
def groupsOf (es : List (Endpoint σ)) : Grouped (Endpoint σ) :=
  Grouped.ofPairs (es.map fun e => (e.info.path, e))

theorem groupsOf_concat : groupsOf (es ++ [e]) = (groupsOf es).add e.info.path e := by
  rw [groupsOf, List.map_append, List.map_singleton, Grouped.ofPairs_concat]
  rfl

theorem mem_get_groupsOf : e ∈ (groupsOf es).get path ↔ e ∈ es ∧ e.info.path = path := by
  rw [groupsOf, Grouped.get_ofPairs]
  simp

theorem nodup_groupsOf (es : List (Endpoint σ)) : ((groupsOf es).map (·.1)).Nodup :=
  (Grouped.keys_ofPairs _).nodup_iff.2 (List.nodup_dedup _)

theorem mem_paths_groupsOf : path ∈ (groupsOf es).map (·.1) ↔ path ∈ es.map (·.info.path) := by
  rw [groupsOf, Grouped.mem_keys_ofPairs, List.map_map]
  rfl

/-- What a router asks of an endpoint for itself: the directory of its uploads, and a method. -/
structure Endpoint.Ready (makeDirectory : String → Option String) (e : Endpoint σ) : Prop where
  directory : e.directoryError? makeDirectory = none
  method : e.info.method ∈ supportedMethods

theorem place_of_ready (he : e.Ready makeDirectory)
    (hnew : ∀ old ∈ gs.get e.info.path, old.info.method ≠ e.info.method) :
    place makeDirectory gs e = .done (gs.add e.info.path e) := by
  have hfree : (gs.get e.info.path).any (·.info.method == e.info.method) = false :=
    List.any_eq_false.2 fun old hold => by simpa using hnew old hold
  rw [place, he.directory]
  dsimp only
  rw [List.contains_iff_mem.2 he.method, hfree]
  rfl

theorem place_of_not_ready (he : ¬e.Ready makeDirectory) :
    ∃ cause, place makeDirectory gs e = .refused cause := by
  unfold place
  cases hdirectory : e.directoryError? makeDirectory with
  | some cause => exact ⟨_, rfl⟩
  | none =>
    have hmethod : supportedMethods.contains e.info.method = false :=
      Bool.eq_false_iff.2 fun h => he ⟨hdirectory, List.contains_iff_mem.1 h⟩
    rw [hmethod]
    exact ⟨_, rfl⟩

theorem eq_add_of_place {gs' : Grouped (Endpoint σ)} (h : place makeDirectory gs e = .done gs') :
    gs' = gs.add e.info.path e := by
  unfold place at h
  split at h
  · cases h
  · split at h
    · cases h
    · split at h
      · cases h
      · cases h
        rfl

/-- Endpoints are put to their paths and nowhere else. -/
theorem eq_groupsOf_of_placeAll (olds : List (Endpoint σ))
    (h : placeAll makeDirectory (groupsOf olds) es = .done gs) :
    gs = groupsOf (olds ++ es) := by
  induction es generalizing olds with
  | nil =>
    cases h
    rw [List.append_nil]
  | cons e es ih =>
    rw [placeAll] at h
    cases hplace : place makeDirectory (groupsOf olds) e with
    | done gs' =>
      rw [hplace, eq_add_of_place hplace, ← groupsOf_concat] at h
      simpa using ih _ h
    | _ => simp [hplace] at h

theorem ne_method_of_nodup (h : ((olds ++ e :: es).map (·.info.route)).Nodup) :
    ∀ old ∈ (groupsOf olds).get e.info.path, old.info.method ≠ e.info.method := by
  intro old hold hmethod
  obtain ⟨hmem, hpath⟩ := mem_get_groupsOf.1 hold
  rw [List.map_append, List.nodup_append] at h
  exact h.2.2 _ (List.mem_map_of_mem hmem) _ (List.mem_map_of_mem List.mem_cons_self)
    (Prod.ext hmethod hpath)

/-- Endpoints with different routes that are all ready are put to their paths. -/
theorem placeAll_of_ready (olds : List (Endpoint σ)) (hready : ∀ e ∈ es, e.Ready makeDirectory)
    (hroutes : ((olds ++ es).map (·.info.route)).Nodup) :
    placeAll makeDirectory (groupsOf olds) es = .done (groupsOf (olds ++ es)) := by
  induction es generalizing olds with
  | nil => rw [List.append_nil, placeAll]
  | cons e es ih =>
    obtain ⟨he, hes⟩ := List.forall_mem_cons.1 hready
    rw [placeAll, place_of_ready he (ne_method_of_nodup hroutes), ← groupsOf_concat]
    have hrest := ih (olds ++ [e]) hes (by simpa using hroutes)
    simpa using hrest

/-- The first endpoint that is not ready is refused. -/
theorem placeAll_of_not_ready (olds : List (Endpoint σ))
    (hready : ¬∀ e ∈ es, e.Ready makeDirectory)
    (hroutes : ((olds ++ es).map (·.info.route)).Nodup) :
    ∃ cause, placeAll makeDirectory (groupsOf olds) es = .refused cause := by
  induction es generalizing olds with
  | nil => exact absurd (List.forall_mem_nil _) hready
  | cons e es ih =>
    by_cases he : e.Ready makeDirectory
    · rw [placeAll, place_of_ready he (ne_method_of_nodup hroutes), ← groupsOf_concat]
      exact ih _ (fun hes => hready (List.forall_mem_cons.2 ⟨he, hes⟩)) (by simpa using hroutes)
    · obtain ⟨cause, hplace⟩ := place_of_not_ready he
      exact ⟨cause, by rw [placeAll, hplace]⟩

/-! ## Routes -/

/-- Each path has a template, and those of different paths do not conflict. -/
def routable (paths : List String) : Bool :=
  paths.all fun p => (Template.parse? p).any fun t =>
    paths.all fun q => p == q || (Template.parse? q).all fun u => !Template.conflicts t u

theorem parse?_of_routable (h : routable paths = true) (hp : path ∈ paths) :
    ∃ t, Template.parse? path = some t ∧ ∀ q ∈ paths, path ≠ q →
      ∀ u, Template.parse? q = some u → Template.conflicts t u = false := by
  have hpath := List.all_eq_true.1 h path hp
  obtain ⟨t, ht, hall⟩ := (Option.any_eq_true _ _).1 hpath
  refine ⟨t, ht, fun q hq hne u hu => ?_⟩
  simpa [hne, hu] using List.all_eq_true.1 hall q hq

/-- A route of one of the paths. -/
def Route.Of (paths : List String) (route : Route σ) : Prop :=
  route.path ∈ paths ∧ Template.parse? route.path = some route.template

theorem conflictsWith_eq_false {t : List Template.Piece} (h : routable paths = true)
    (hroutes : ∀ route ∈ routes, route.Of paths) (hpath : path ∈ paths)
    (hnew : path ∉ routes.map Route.path) (ht : Template.parse? path = some t) :
    conflictsWith t routes = false := by
  refine List.any_eq_false.2 fun route hroute => ?_
  obtain ⟨hmem, htemplate⟩ := hroutes route hroute
  obtain ⟨u, hu, hall⟩ := parse?_of_routable h hmem
  cases hu.symm.trans htemplate
  have hne : route.path ≠ path := fun heq => hnew (heq ▸ List.mem_map_of_mem hroute)
  exact Bool.not_eq_true _ ▸ hall path hpath hne t ht

theorem addRoute_eq_done {es : List (Endpoint σ)} :
    addRoute routes path es = .done rs ↔ ∃ t, Template.parse? path = some t ∧
      conflictsWith t routes = false ∧
      rs = routes ++ [{ path, template := t, endpoints := es }] := by
  unfold addRoute
  cases Template.parse? path with
  | none => simp
  | some t =>
    simp only [Option.some.injEq, exists_eq_left']
    cases conflictsWith t routes with
    | true => simp
    | false => simp only [Bool.false_eq_true, if_false, Outcome.done.injEq, true_and, eq_comm]

theorem addRoutes_done (h : routable paths = true) (hroutes : ∀ route ∈ routes, route.Of paths)
    (hpaths : ∀ g ∈ gs, g.1 ∈ paths) (hnodup : (routes.map Route.path ++ gs.map (·.1)).Nodup) :
    ∃ rs, addRoutes routes gs = .done rs := by
  induction gs generalizing routes with
  | nil => exact ⟨routes, rfl⟩
  | cons g gs ih =>
    obtain ⟨path, es⟩ := g
    obtain ⟨hpath, hrest⟩ := List.forall_mem_cons.1 hpaths
    obtain ⟨t, ht, -⟩ := parse?_of_routable h hpath
    have hnew : path ∉ routes.map Route.path := fun hmem =>
      (List.nodup_append.1 hnodup).2.2 path hmem path (List.mem_cons_self ..) rfl
    have hadd : addRoute routes path es =
        .done (routes ++ [{ path, template := t, endpoints := es }]) :=
      addRoute_eq_done.2 ⟨t, ht, conflictsWith_eq_false h hroutes hpath hnew ht, rfl⟩
    have hroutes' : ∀ route ∈ routes ++ [{ path, template := t, endpoints := es }],
        route.Of paths := by
      intro route hroute
      rcases List.mem_append.1 hroute with hroute | hroute
      · exact hroutes route hroute
      · cases List.mem_singleton.1 hroute
        exact ⟨hpath, ht⟩
    rw [addRoutes, hadd]
    exact ih hroutes' hrest (by simpa using hnodup)

/-- A route that was added holds the endpoints of its path. -/
theorem mem_of_addRoutes (h : addRoutes routes gs = .done rs) (hroute : route ∈ rs) :
    route ∈ routes ∨ (route.path, route.endpoints) ∈ gs := by
  induction gs generalizing routes with
  | nil =>
    cases h
    exact .inl hroute
  | cons g gs ih =>
    obtain ⟨path, es⟩ := g
    rw [addRoutes] at h
    cases hadd : addRoute routes path es with
    | done routes' =>
      rw [hadd] at h
      rcases ih h with hmem | hmem
      · obtain ⟨t, -, -, rfl⟩ := addRoute_eq_done.1 hadd
        rcases List.mem_append.1 hmem with hmem | hmem
        · exact .inl hmem
        · cases List.mem_singleton.1 hmem
          exact .inr (List.mem_cons_self ..)
      · exact .inr (List.mem_cons_of_mem _ hmem)
    | _ => simp [hadd] at h

/-! ## Routers -/

namespace App

theorem router_of_placed (h : placeAll makeDirectory (groupsOf []) a.endpoints = .done gs) :
    a.router makeDirectory = (addRoutes [] gs).map fun routes => { app := a, routes } := by
  change placeAll makeDirectory [] a.endpoints = .done gs at h
  rw [router, h]

theorem router_of_refused {cause : EndpointError}
    (h : placeAll makeDirectory (groupsOf []) a.endpoints = .refused cause) :
    a.router makeDirectory = .refused cause := by
  change placeAll makeDirectory [] a.endpoints = .refused cause at h
  rw [router, h]

/-- Endpoints that are ready, with different routes and paths that can stand beside each other, have
a router. -/
theorem exists_router (hready : ∀ e ∈ a.endpoints, e.Ready makeDirectory) (hroutes : a.routes.Nodup)
    (h : routable (a.endpoints.map (·.info.path)) = true) :
    ∃ r, a.router makeDirectory = .done r := by
  have hplace := placeAll_of_ready [] hready hroutes
  have hpaths : ∀ g ∈ groupsOf a.endpoints, g.1 ∈ a.endpoints.map (·.info.path) := fun g hg =>
    mem_paths_groupsOf.1 (List.mem_map_of_mem hg)
  have hnone : ∀ route ∈ ([] : List (Route σ)), route.Of (a.endpoints.map (·.info.path)) := nofun
  obtain ⟨rs, hrs⟩ := addRoutes_done h hnone hpaths (nodup_groupsOf a.endpoints)
  refine ⟨⟨a, rs⟩, ?_⟩
  rw [router_of_placed hplace, List.nil_append, hrs]
  rfl

theorem mem_endpoints_of_route (h : a.router makeDirectory = .done r) (hroute : route ∈ r.routes)
    (he : e ∈ route.endpoints) : r.app = a ∧ e ∈ a.endpoints := by
  unfold router at h
  cases hplace : placeAll makeDirectory [] a.endpoints with
  | done gs =>
    rw [hplace] at h
    obtain rfl : gs = groupsOf a.endpoints := eq_groupsOf_of_placeAll [] hplace
    cases hrs : addRoutes [] (groupsOf a.endpoints) with
    | done rs =>
      simp only [hrs, Outcome.map, Outcome.done.injEq] at h
      subst h
      have hgroup := (mem_of_addRoutes hrs hroute).resolve_left List.not_mem_nil
      have hall : e ∈ Grouped.all (groupsOf a.endpoints) := List.mem_flatMap.2 ⟨_, hgroup, he⟩
      have hmem := (Grouped.all_ofPairs _).mem_iff.1 hall
      exact ⟨rfl, by simpa using hmem⟩
    | _ => simp [hrs, Outcome.map] at h
  | _ => simp [hplace] at h

end App

namespace Router

/-- The visit that a request makes, if it has an endpoint. -/
def visit? (r : Router σ) (q : Request) : Option (Visit σ) := do
  let (route, values) ← r.find? q.uri.path
  let endpoint ← route.endpoint? q.method
  return { app := r.app, endpoint, request := q, path := pathParams values }

theorem visit?_eq_some : r.visit? q = some v ↔
    ∃ found, r.find? q.uri.path = some found ∧ ∃ e, found.1.endpoint? q.method = some e ∧
      v = { app := r.app, endpoint := e, request := q, path := pathParams found.2 } := by
  simp only [visit?, Option.bind_eq_bind, Option.bind_eq_some_iff, Option.pure_def,
    Option.some.injEq, eq_comm (a := v)]

theorem handle_of_visit (h : r.visit? q = some v) (w : World σ) :
    r.handle q w = ((dispatch v w).1.map (sent q.method), (dispatch v w).2) := by
  obtain ⟨found, hfind, endpoint, hendpoint, rfl⟩ := visit?_eq_some.1 h
  simp only [handle, hfind, hendpoint]

/-- A request without an endpoint is answered by the router, with an error. -/
theorem handle_of_none (h : r.visit? q = none) (w : World σ) : (r.handle q w).2 = w := by
  unfold handle
  cases hfind : r.find? q.uri.path with
  | none => rfl
  | some found =>
    cases hendpoint : found.1.endpoint? q.method with
    | none => simp only [hendpoint]
    | some e => exact absurd (visit?_eq_some.2 ⟨found, hfind, e, hendpoint, rfl⟩) (by simp [h])

theorem mem_of_foldl_better {founds : List (Found σ)} {best : Option (Found σ)} {found : Found σ}
    (h : founds.foldl better best = some found) : best = some found ∨ found ∈ founds := by
  induction founds generalizing best with
  | nil => exact .inl h
  | cons f founds ih =>
    rcases ih h with hbest | hmem
    · unfold better at hbest
      split at hbest
      · split at hbest
        · cases hbest
          exact .inr (List.mem_cons_self ..)
        · exact .inl hbest
      · cases hbest
        exact .inr (List.mem_cons_self ..)
    · exact .inr (List.mem_cons_of_mem _ hmem)

theorem mem_routes_of_find {path : String} {found : Found σ} (h : r.find? path = some found) :
    found.1 ∈ r.routes := by
  have hmem := (mem_of_foldl_better h).resolve_left nofun
  obtain ⟨route, hroute, hmatch⟩ := List.mem_filterMap.1 hmem
  obtain ⟨values, -, rfl⟩ := Option.map_eq_some_iff.1 hmatch
  exact hroute

theorem mem_of_endpoint {method : String} (h : route.endpoint? method = some e) :
    e ∈ route.endpoints := by
  unfold Route.endpoint? at h
  rcases Option.or_eq_some_iff.1 h with h | ⟨-, h⟩
  · exact List.mem_of_find?_eq_some h
  · split at h
    · exact List.mem_of_find?_eq_some h
    · cases h

/-- A visit is made of the request to an endpoint of the application. -/
theorem visit_of_router (hr : a.router makeDirectory = .done r) (h : r.visit? q = some v) :
    v.app = a ∧ v.request = q ∧ v.endpoint ∈ a.endpoints := by
  obtain ⟨found, hfind, endpoint, hendpoint, rfl⟩ := visit?_eq_some.1 h
  obtain ⟨happ, hmem⟩ :=
    App.mem_endpoints_of_route hr (mem_routes_of_find hfind) (mem_of_endpoint hendpoint)
  exact ⟨happ, rfl, hmem⟩

/-! ## Runs -/

/-- Requests, each with the world that it finds. -/
def found (r : Router σ) (w : World σ) : List Request → List (Request × World σ)
  | [] => []
  | q :: qs => (q, w) :: r.found (r.handle q w).2 qs

/-- The world behind a sequence of requests. -/
def worldAfter (r : Router σ) (w : World σ) : List Request → World σ
  | [] => w
  | q :: qs => r.worldAfter (r.handle q w).2 qs

/-- What holds at first, and what each request keeps, holds behind every sequence of requests and
before each of them. -/
theorem run_keeps {Inv : World σ → Prop} (hstep : ∀ q w, Inv w → Inv (r.handle q w).2)
    (hw : Inv w) (qs : List Request) :
    Inv (r.worldAfter w qs) ∧ ∀ x ∈ r.found w qs, Inv x.2 := by
  induction qs generalizing w with
  | nil => exact ⟨hw, nofun⟩
  | cons q qs ih =>
    obtain ⟨hafter, hfound⟩ := ih (hstep q w hw)
    exact ⟨hafter, List.forall_mem_cons.2 ⟨hw, hfound⟩⟩

end Router
end RestKit
