import Mathlib.Data.List.Forall2
/-!
# Results that are an error or a value

What it means for a sequence of steps in `Except` to succeed: one lemma for each way of putting
steps together. A function built of checks is taken apart by these lemmas and not by its
branches. `ResultRel` compares two results, and two sequences of steps that are related one by one
have results that are.
-/
namespace RestKit

variable {ε α β : Type}

theorem ok_bind {a : α} {f : α → Except ε β} : (Except.ok a >>= f) = f a := rfl

theorem bind_eq_ok {x : Except ε α} {f : α → Except ε β} {b : β} :
    (x >>= f) = .ok b ↔ ∃ a, x = .ok a ∧ f a = .ok b := by
  cases x <;> simp [bind, Except.bind]

theorem bind_eq_error {x : Except ε α} {f : α → Except ε β} {e : ε} :
    (x >>= f) = .error e ↔ x = .error e ∨ ∃ a, x = .ok a ∧ f a = .error e := by
  cases x <;> simp [bind, Except.bind]

theorem pure_ne_error {a : α} {e : ε} : (pure a : Except ε α) ≠ .error e := by
  simp [pure, Except.pure]

/-- A check that gives nothing only lets what follows go on. -/
theorem check_eq_ok {x : Except ε Unit} {f : Unit → Except ε β} {b : β} :
    (x >>= f) = .ok b ↔ x = .ok () ∧ f () = .ok b := by
  cases x <;> simp [bind, Except.bind]

theorem pure_eq_ok {a b : α} : (pure a : Except ε α) = .ok b ↔ a = b := by
  simp [pure, Except.pure]

theorem map_eq_ok {x : Except ε α} {f : α → β} {b : β} :
    x.map f = .ok b ↔ ∃ a, x = .ok a ∧ f a = b := by
  cases x <;> simp [Except.map]

theorem map_eq_error {x : Except ε α} {f : α → β} {e : ε} :
    x.map f = .error e ↔ x = .error e := by
  cases x <;> simp [Except.map]

theorem mapError_eq_ok {δ : Type} {x : Except ε α} {f : ε → δ} {a : α} :
    x.mapError f = .ok a ↔ x = .ok a := by
  cases x <;> simp [Except.mapError]

theorem fmap_eq_ok {x : Except ε α} {f : α → β} {b : β} :
    f <$> x = .ok b ↔ ∃ a, x = .ok a ∧ f a = b := by
  cases x <;> simp [Functor.map, Except.map]

theorem fmap_eq_error {x : Except ε α} {f : α → β} {e : ε} :
    f <$> x = .error e ↔ x = .error e := by
  cases x <;> simp [Functor.map, Except.map]

theorem throw_eq_ok {e : ε} {a : α} : (throw e : Except ε α) = .ok a ↔ False := by
  simp [throw, throwThe, MonadExceptOf.throw]

theorem isOk_iff {x : Except ε α} : x.isOk = true ↔ ∃ a, x = .ok a := by
  cases x <;> simp [Except.isOk, Except.toBool]

/-- A check on every element succeeds if it does on each. -/
theorem forM_eq_ok {f : α → Except ε Unit} {u : Unit} {xs : List α} :
    xs.forM f = .ok u ↔ ∀ x ∈ xs, f x = .ok () := by
  induction xs with
  | nil => simp [List.forM, pure_eq_ok]
  | cons x xs ih => simp only [List.forM, check_eq_ok, ih, List.forall_mem_cons]

/-- A step on every element gives the results one by one. -/
theorem mapM_eq_ok {f : α → Except ε β} {xs : List α} {ys : List β} :
    xs.mapM f = .ok ys ↔ List.Forall₂ (fun x y => f x = .ok y) xs ys := by
  induction xs generalizing ys with
  | nil => rw [List.mapM_nil, pure_eq_ok, List.forall₂_nil_left_iff, eq_comm]
  | cons x xs ih =>
    simp only [List.mapM_cons, bind_eq_ok, pure_eq_ok, ih, List.forall₂_cons_left_iff]
    constructor
    · rintro ⟨y, hy, ys', hys, rfl⟩; exact ⟨y, ys', hy, hys, rfl⟩
    · rintro ⟨y, ys', hy, hys, rfl⟩; exact ⟨y, hy, ys', hys, rfl⟩

theorem mapM_congr {f g : α → Except ε β} {xs : List α} (h : ∀ x ∈ xs, f x = g x) :
    xs.mapM f = xs.mapM g := by
  induction xs with
  | nil => rfl
  | cons x xs ih =>
    obtain ⟨hx, hxs⟩ := List.forall_mem_cons.1 h
    rw [List.mapM_cons, List.mapM_cons, hx, ih hxs]

/-- A step on every element fails as it does on one of them. -/
theorem mapM_eq_error {f : α → Except ε β} {xs : List α} {e : ε} (h : xs.mapM f = .error e) :
    ∃ x ∈ xs, f x = .error e := by
  induction xs with
  | nil => exact absurd h pure_ne_error
  | cons x xs ih =>
    rw [List.mapM_cons, bind_eq_error] at h
    rcases h with h | ⟨y, -, h⟩
    · exact ⟨x, List.mem_cons_self .., h⟩
    · rcases bind_eq_error.1 h with h | ⟨ys, -, h⟩
      · obtain ⟨z, hz, h⟩ := ih h
        exact ⟨z, List.mem_cons_of_mem _ hz, h⟩
      · exact absurd h pure_ne_error

/-- Each result of a step on every element comes from one of them. -/
theorem mem_of_forall₂ {R : α → β → Prop} {xs : List α} {ys : List β} {y : β}
    (h : List.Forall₂ R xs ys) (hy : y ∈ ys) : ∃ x ∈ xs, R x y := by
  induction h with
  | nil => cases hy
  | cons hxy _ ih =>
    rcases List.mem_cons.1 hy with rfl | hy
    · exact ⟨_, List.mem_cons_self .., hxy⟩
    · obtain ⟨x, hx, h⟩ := ih hy
      exact ⟨x, List.mem_cons_of_mem _ hx, h⟩

theorem mem_of_forall₂_left {R : α → β → Prop} {xs : List α} {ys : List β} {x : α}
    (h : List.Forall₂ R xs ys) (hx : x ∈ xs) : ∃ y ∈ ys, R x y :=
  mem_of_forall₂ (List.Forall₂.flip h) hx

/-- Two lists put together are empty if both are. -/
theorem append_eq_ok_nil {x y : Except ε (List α)} :
    (do return (← x) ++ (← y)) = Except.ok [] ↔ x = .ok [] ∧ y = .ok [] := by
  simp only [bind_eq_ok, pure_eq_ok, List.append_eq_nil_iff]
  constructor
  · rintro ⟨_, hx, _, hy, rfl, rfl⟩; exact ⟨hx, hy⟩
  · rintro ⟨hx, hy⟩; exact ⟨[], hx, [], hy, rfl, rfl⟩

/-- The lists of all elements put together are empty if each is. -/
theorem flatten_mapM_eq_ok_nil {f : α → Except ε (List β)} {xs : List α} :
    (do return (← xs.mapM f).flatten) = Except.ok [] ↔ ∀ x ∈ xs, f x = .ok [] := by
  simp only [bind_eq_ok, pure_eq_ok, mapM_eq_ok, List.flatten_eq_nil_iff]
  constructor
  · rintro ⟨yss, h, hnil⟩ x hx
    obtain ⟨ys, hys, hxys⟩ := mem_of_forall₂_left h hx
    rw [hxys, hnil ys hys]
  · intro h
    refine ⟨xs.map fun _ => [], ?_, by simp⟩
    rw [List.forall₂_map_right_iff]
    exact List.forall₂_same.2 h

theorem append_ok_nil {x : Except ε (List α)} : (do return (← x) ++ (← .ok [])) = x := by
  cases x with
  | ok xs => exact congrArg Except.ok (List.append_nil xs)
  | error e => rfl

/-- A result is an error if it is no value. -/
theorem exists_error_iff {x : Except ε α} : (∃ e, x = .error e) ↔ ¬ ∃ a, x = .ok a := by
  cases x <;> simp

/-! ## Related results -/

/-- Both results are values that are related, or both are errors that are. -/
def ResultRel {α β : Type} (E : ε → ε → Prop) (R : α → β → Prop) : Except ε α → Except ε β → Prop
  | .ok a, .ok b => R a b
  | .error e, .error f => E e f
  | _, _ => False

namespace ResultRel

variable {γ δ : Type} {E : ε → ε → Prop} {R : α → β → Prop} {S : γ → δ → Prop}

theorem refl {R : α → α → Prop} (hE : ∀ e, E e e) (hR : ∀ a, R a a) (x : Except ε α) :
    ResultRel E R x x := by
  cases x with
  | ok a => exact hR a
  | error e => exact hE e

theorem bind {x : Except ε α} {y : Except ε β} {f : α → Except ε γ} {g : β → Except ε δ}
    (h : ResultRel E R x y) (hfg : ∀ a b, R a b → ResultRel E S (f a) (g b)) :
    ResultRel E S (x >>= f) (y >>= g) := by
  cases x with
  | ok a =>
    cases y with
    | ok b => exact hfg a b h
    | error e => cases h
  | error e =>
    cases y with
    | ok b => cases h
    | error e => exact h

theorem map {x : Except ε α} {y : Except ε β} {f : α → γ} {g : β → δ}
    (h : ResultRel E R x y) (hfg : ∀ a b, R a b → S (f a) (g b)) :
    ResultRel E S (x.map f) (y.map g) := by
  cases x with
  | ok a =>
    cases y with
    | ok b => exact hfg a b h
    | error e => cases h
  | error e =>
    cases y with
    | ok b => cases h
    | error e => exact h

theorem mapM {P : α → β → Prop} {f : α → Except ε γ} {g : β → Except ε δ} {xs : List α}
    {ys : List β} (h : List.Forall₂ P xs ys) (hfg : ∀ x y, P x y → ResultRel E S (f x) (g y)) :
    ResultRel E (List.Forall₂ S) (xs.mapM f) (ys.mapM g) := by
  induction h with
  | nil => exact .nil
  | cons hxy _ ih =>
    simp only [List.mapM_cons]
    refine (hfg _ _ hxy).bind fun a b hab => ?_
    exact ih.bind fun as bs has => .cons hab has

end ResultRel
end RestKit
