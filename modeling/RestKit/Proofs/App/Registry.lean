import RestKit.App.Registry
import RestKit.Proofs.Except
/-!
# Applications from declarations

A declaration is built exactly if it has a handler and is valid, and then it is the endpoint that it
writes down (`build_eq_ok`). Declarations that are built one by one, with no two in conflict, make
an application of just their endpoints (`foldlM_declare`).
-/
namespace RestKit

variable {σ : Type} {d : Declaration σ} {ds : List (Declaration σ)} {e old new : Endpoint σ}
  {es : List (Endpoint σ)} {a a' : App σ} {handler : Handler σ}

namespace Declaration

/-- What the check of a declaration asks, besides a handler. -/
structure Valid (d : Declaration σ) : Prop where
  method : d.info.method ∈ supportedMethods
  path : Text.startsWith '/' d.info.path = true
  upload : d.upload.isSome = true → readsBody d.info.method = true

/-- The endpoint that a declaration writes down. -/
def endpoint (d : Declaration σ) (handler : Handler σ) : Endpoint σ where
  info := d.info
  params := d.params
  body := if readsBody d.info.method then d.body else none
  contentTypes := d.contentTypes.map normalType
  upload := d.upload
  limiter := d.limiter
  handler
  disabled := d.disabled

theorem build_eq_ok :
    d.build = .ok e ↔ ∃ handler, d.handler = some handler ∧ d.Valid ∧ e = d.endpoint handler := by
  unfold build
  cases d.handler with
  | none => simp
  | some handler =>
    dsimp only
    constructor
    · intro h
      split at h
      · cases h
      · rename_i hmethod
        split at h
        · cases h
        · rename_i hpath
          split at h
          · cases h
          · rename_i hupload
            cases h
            exact ⟨handler, rfl, ⟨by simpa using hmethod, by simpa using hpath,
              by simpa using hupload⟩, rfl⟩
    · rintro ⟨handler', hhandler, ⟨hmethod, hpath, hupload⟩, rfl⟩
      cases hhandler
      rw [if_neg (by simpa using hmethod), if_neg (by simpa using hpath),
        if_neg (by simpa using hupload)]
      rfl

end Declaration

/-- Two endpoints with these names, methods and paths may stand beside each other. -/
def EndpointInfo.Apart (i j : EndpointInfo) : Prop :=
  i.name ≠ j.name ∧ ¬ (i.method = j.method ∧ i.path = j.path)

instance (i j : EndpointInfo) : Decidable (i.Apart j) :=
  inferInstanceAs (Decidable (i.name ≠ j.name ∧ ¬ (i.method = j.method ∧ i.path = j.path)))

namespace App

theorem conflict?_eq_none : conflict? new old = none ↔ old.info.Apart new.info := by
  unfold conflict? EndpointInfo.Apart
  split
  · rename_i hname
    simp [hname]
  · rename_i hname
    split
    · rename_i hroute
      simp [hroute]
    · rename_i hroute
      simp [hname, hroute]

theorem register_of_apart (h : ∀ old ∈ a.endpoints, old.info.Apart e.info) :
    a.register e = .ok { a with endpoints := a.endpoints ++ [e] } := by
  have hnone : a.endpoints.findSome? (conflict? e) = none :=
    List.findSome?_eq_none_iff.2 fun old hold => conflict?_eq_none.2 (h old hold)
  rw [register, hnone]

/-- Declarations that are built, with no two in conflict, add just their endpoints. -/
theorem foldlM_declare (hbuild : List.Forall₂ (fun d e => Declaration.build d = .ok e) ds es)
    (hapart : ((a.endpoints ++ es).map (·.info)).Pairwise EndpointInfo.Apart) :
    ds.foldlM declare a = .ok { a with endpoints := a.endpoints ++ es } := by
  induction hbuild generalizing a with
  | nil => simp [pure, Except.pure]
  | @cons d e ds es hd _ ih =>
    have hfirst : ∀ old ∈ a.endpoints, old.info.Apart e.info := by
      rw [List.map_append, List.pairwise_append] at hapart
      exact fun old hold => hapart.2.2 _ (List.mem_map_of_mem hold) _ (List.mem_cons_self ..)
    have hdeclare : a.declare d = .ok { a with endpoints := a.endpoints ++ [e] } := by
      rw [declare, hd]
      exact register_of_apart hfirst
    rw [List.foldlM_cons, hdeclare, ok_bind, ih (by simpa using hapart)]
    simp

end App
end RestKit
