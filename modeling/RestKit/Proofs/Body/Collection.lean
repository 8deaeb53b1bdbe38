import RestKit.Body.Model
import RestKit.Proofs.Except
/-!
# Collections of bodies

A collection is taken through each stage as a whole: all its elements are normalized before the
first one is sanitized. It makes no difference. A stage over the items succeeds if it does on each
(`runItems_eq_none_iff`), and taking a row through several steps is taking each element of it
through them in turn (`forall₂_in_turn`). So a collection is processed as its elements are, each
alone, and a collection of collections as the models' bodies in it (`collections_elementwise`).
-/
namespace RestKit.Body

variable {α β γ : Type} {c t : BodyType} {ctx : Context} {stage : Schema.Stage} {v w : Json}
  {xs ys : List Json} {es fs : List (String × Json)} {make : List Json → Json} {n : Nat}

/-! ## Rows of steps -/

/-- A row goes through two steps and a test exactly if each of its elements does. -/
theorem forall₂_in_turn {R : α → β → Prop} {S : β → γ → Prop} {T : γ → Prop} {xs : List α}
    {zs : List γ} :
    (∃ ys, List.Forall₂ R xs ys ∧ List.Forall₂ S ys zs ∧ ∀ z ∈ zs, T z) ↔
      List.Forall₂ (fun x z => ∃ y, R x y ∧ S y z ∧ T z) xs zs := by
  constructor
  · rintro ⟨ys, hR, hS, hT⟩
    induction hR generalizing zs with
    | nil =>
      cases hS
      exact .nil
    | cons hxy _ ih =>
      cases hS with
      | cons hyz hS =>
        obtain ⟨hz, hT⟩ := List.forall_mem_cons.1 hT
        exact .cons ⟨_, hxy, hyz, hz⟩ (ih hS hT)
  · intro h
    induction h with
    | nil => exact ⟨[], .nil, .nil, List.forall_mem_nil _⟩
    | cons hxz _ ih =>
      obtain ⟨y, hxy, hyz, hz⟩ := hxz
      obtain ⟨ys, hR, hS, hT⟩ := ih
      exact ⟨y :: ys, .cons hxy hR, .cons hyz hS, List.forall_mem_cons.2 ⟨hz, hT⟩⟩

theorem exists_forall₂ {R : α → β → Prop} {xs : List α} :
    (∃ ys, List.Forall₂ R xs ys) ↔ ∀ x ∈ xs, ∃ y, R x y := by
  constructor
  · rintro ⟨ys, h⟩ x hx
    obtain ⟨y, -, hy⟩ := mem_of_forall₂_left h hx
    exact ⟨y, hy⟩
  · intro h
    induction xs with
    | nil => exact ⟨[], .nil⟩
    | cons x xs ih =>
      obtain ⟨hx, hxs⟩ := List.forall_mem_cons.1 h
      obtain ⟨y, hy⟩ := hx
      obtain ⟨ys, hys⟩ := ih hxs
      exact ⟨y :: ys, .cons hy hys⟩

/-- Entries are related key by key if their values are, and the keys are the same. -/
theorem forall₂_entries {R : Json → Json → Prop} :
    (∃ ys, fs = (es.map (·.1)).zip ys ∧ List.Forall₂ R (es.map (·.2)) ys) ↔
      List.Forall₂ (fun e f => e.1 = f.1 ∧ R e.2 f.2) es fs := by
  constructor
  · rintro ⟨ys, rfl, h⟩
    induction es generalizing ys with
    | nil => exact .nil
    | cons e es ih =>
      obtain ⟨y, ys', hy, hys, rfl⟩ := List.forall₂_cons_left_iff.1 h
      exact .cons ⟨rfl, hy⟩ (ih ys' hys)
  · intro h
    induction h with
    | nil => exact ⟨[], rfl, .nil⟩
    | cons hef _ ih =>
      obtain ⟨hkey, hvalue⟩ := hef
      obtain ⟨ys, hzip, hys⟩ := ih
      refine ⟨_ :: ys, ?_, .cons hvalue hys⟩
      rw [List.map_cons, List.zip_cons_cons, hzip, hkey]

/-! ## One stage -/

/-- A stage over the items succeeds exactly if it does on each of them. -/
theorem runItems_eq_none_iff {f : Json → Staged} :
    runItems f xs = (ys, none) ↔ List.Forall₂ (fun x y => f x = ⟨y, none⟩) xs ys := by
  induction xs generalizing ys with
  | nil =>
    rw [runItems, List.forall₂_nil_left_iff, Prod.mk.injEq]
    exact ⟨fun h => h.1.symm, fun h => ⟨h.symm, rfl⟩⟩
  | cons x xs ih =>
    rw [runItems, List.forall₂_cons_left_iff]
    rcases hx : f x with ⟨y, _ | e⟩
    · simp only [Staged.mk.injEq, and_true, Prod.mk.injEq]
      constructor
      · rintro ⟨rfl, herror⟩
        exact ⟨y, _, rfl, ih.1 (Prod.ext rfl herror), rfl⟩
      · rintro ⟨_, ys', rfl, hys, rfl⟩
        rw [ih.2 hys]
        exact ⟨rfl, rfl⟩
    · simp

namespace BodyType

/-- Processing succeeds exactly if both stages and the validation do. -/
theorem process_eq_ok :
    t.process ctx v = .ok w ↔ ∃ normal, t.run .normalize ctx v = ⟨normal, none⟩ ∧
      t.run .sanitize ctx normal = ⟨w, none⟩ ∧ t.check ctx w = .ok () := by
  unfold process
  rcases t.run .normalize ctx v with ⟨normal, _ | e⟩
  · rcases hsanitize : t.run .sanitize ctx normal with ⟨clean, _ | e⟩
    · simp only [hsanitize, check_eq_ok, pure_eq_ok, Staged.mk.injEq, and_true,
        exists_eq_left']
      constructor
      · rintro ⟨hcheck, rfl⟩
        exact ⟨rfl, hcheck⟩
      · rintro ⟨rfl, hcheck⟩
        exact ⟨hcheck, rfl⟩
    · simp [hsanitize, bind_eq_ok, throw_eq_ok]
  · simp [bind_eq_ok, throw_eq_ok]

/-! ## Collections -/

/-- The values of a body type that `make` makes of `n` items are collections of bodies of another
type: stages and validation go through the items. -/
structure Collects (c t : BodyType) (n : Nat) (make : List Json → Json) : Prop where
  run : ∀ stage ctx xs, xs.length = n → c.run stage ctx (make xs) =
    ⟨make (runItems (t.run stage ctx) xs).1, (runItems (t.run stage ctx) xs).2⟩
  check : ∀ ctx xs, xs.length = n → c.check ctx (make xs) = xs.forM (t.check ctx)

theorem collects_list (t : BodyType) (n : Nat) : Collects (.list t) t n .array := by
  constructor
  · intro stage ctx xs _
    rw [BodyType.run]
  · intro ctx xs _
    rw [BodyType.check]

theorem collects_map (t : BodyType) (keys : List String) :
    Collects (.map t) t keys.length fun xs => .object (keys.zip xs) := by
  have hkeys {xs : List Json} (h : xs.length = keys.length) : (keys.zip xs).map (·.1) = keys :=
    List.map_fst_zip (Nat.le_of_eq h.symm)
  have hvalues {xs : List Json} (h : xs.length = keys.length) : (keys.zip xs).map (·.2) = xs :=
    List.map_snd_zip (Nat.le_of_eq h)
  constructor
  · intro stage ctx xs h
    rw [BodyType.run, hkeys h, hvalues h]
  · intro ctx xs h
    rw [BodyType.check, hvalues h]

theorem Collects.run_eq_none_iff (h : Collects c t n make) (hxs : xs.length = n) :
    c.run stage ctx (make xs) = ⟨w, none⟩ ↔
      ∃ ys, w = make ys ∧ List.Forall₂ (fun x y => t.run stage ctx x = ⟨y, none⟩) xs ys := by
  rw [h.run stage ctx xs hxs, Staged.mk.injEq]
  constructor
  · rintro ⟨rfl, herror⟩
    exact ⟨_, rfl, runItems_eq_none_iff.1 (Prod.ext rfl herror)⟩
  · rintro ⟨ys, rfl, hys⟩
    rw [runItems_eq_none_iff.2 hys]
    exact ⟨rfl, rfl⟩

/-- **A collection is processed as its elements are**, each of them alone. -/
theorem Collects.process_eq_ok (h : Collects c t n make) (hxs : xs.length = n) :
    c.process ctx (make xs) = .ok w ↔
      ∃ ys, w = make ys ∧ List.Forall₂ (fun x y => t.process ctx x = .ok y) xs ys := by
  simp only [BodyType.process_eq_ok (t := t), ← forall₂_in_turn]
  rw [BodyType.process_eq_ok]
  constructor
  · rintro ⟨_, hnormalize, hsanitize, hcheck⟩
    obtain ⟨ns, rfl, hns⟩ := (h.run_eq_none_iff hxs).1 hnormalize
    have hlength : ns.length = n := hns.length_eq.symm.trans hxs
    obtain ⟨ys, rfl, hys⟩ := (h.run_eq_none_iff hlength).1 hsanitize
    rw [h.check ctx ys (hys.length_eq.symm.trans hlength), forM_eq_ok] at hcheck
    exact ⟨ys, rfl, ns, hns, hys, hcheck⟩
  · rintro ⟨ys, rfl, ns, hns, hys, hcheck⟩
    have hlength : ns.length = n := hns.length_eq.symm.trans hxs
    refine ⟨make ns, (h.run_eq_none_iff hxs).2 ⟨ns, rfl, hns⟩,
      (h.run_eq_none_iff hlength).2 ⟨ys, rfl, hys⟩, ?_⟩
    rw [h.check ctx ys (hys.length_eq.symm.trans hlength), forM_eq_ok]
    exact hcheck

theorem process_list_eq_ok :
    (BodyType.list t).process ctx (.array xs) = .ok w ↔
      ∃ ys, w = .array ys ∧ List.Forall₂ (fun x y => t.process ctx x = .ok y) xs ys :=
  (collects_list t xs.length).process_eq_ok rfl

theorem process_map_eq_ok :
    (BodyType.map t).process ctx (.object es) = .ok w ↔
      ∃ fs, w = .object fs ∧
        List.Forall₂ (fun e f => e.1 = f.1 ∧ t.process ctx e.2 = .ok f.2) es fs := by
  have hzip : (es.map (·.1)).zip (es.map (·.2)) = es := by
    rw [List.zip_map', List.map_id']
  have hlength : (es.map (·.2)).length = (es.map (·.1)).length := by
    rw [List.length_map, List.length_map]
  have hprocess := @Collects.process_eq_ok _ _ ctx w _ _ _ (collects_map t (es.map (·.1))) hlength
  rw [hzip] at hprocess
  rw [hprocess]
  simp only [← forall₂_entries (R := fun x y => t.process ctx x = .ok y)]
  constructor
  · rintro ⟨ys, rfl, hys⟩
    exact ⟨_, rfl, ys, rfl, hys⟩
  · rintro ⟨_, rfl, ys, rfl, hys⟩
    exact ⟨ys, rfl, hys⟩

/-! ## Collections of collections -/

/-- A value has an array where the type has a list, and an object where it has a map. -/
def Holds : BodyType → Json → Prop
  | .model _, _ => True
  | .list t, v => ∃ xs, v = .array xs ∧ ∀ x ∈ xs, t.Holds x
  | .map t, v => ∃ es, v = .object es ∧ ∀ e ∈ es, t.Holds e.2

/-- Each model's body in a value was processed alone, and the result stands in its place. -/
def Alone (ctx : Context) : BodyType → Json → Json → Prop
  | .model m, v, w => (BodyType.model m).process ctx v = .ok w
  | .list t, v, w => ∃ xs ys, v = .array xs ∧ w = .array ys ∧ List.Forall₂ (t.Alone ctx) xs ys
  | .map t, v, w => ∃ es fs, v = .object es ∧ w = .object fs ∧
      List.Forall₂ (fun e f => e.1 = f.1 ∧ t.Alone ctx e.2 f.2) es fs

/-- However deep a collection is, it is processed as the models' bodies in it are. -/
theorem alone_iff : t.Alone ctx v w ↔ t.Holds v ∧ t.process ctx v = .ok w := by
  induction t generalizing v w with
  | model m => simp [Alone, Holds]
  | list t ih =>
    have hsplit (xs ys : List Json) : List.Forall₂ (t.Alone ctx) xs ys ↔
        (∀ x ∈ xs, t.Holds x) ∧ List.Forall₂ (fun x y => t.process ctx x = .ok y) xs ys := by
      rw [← List.forall₂_and_left]
      simp only [← ih]
    simp only [Alone, Holds, hsplit]
    constructor
    · rintro ⟨xs, ys, rfl, rfl, hholds, hys⟩
      exact ⟨⟨xs, rfl, hholds⟩, process_list_eq_ok.2 ⟨ys, rfl, hys⟩⟩
    · rintro ⟨⟨xs, rfl, hholds⟩, hprocess⟩
      obtain ⟨ys, rfl, hys⟩ := process_list_eq_ok.1 hprocess
      exact ⟨xs, ys, rfl, rfl, hholds, hys⟩
  | map t ih =>
    have hsplit (es fs : List (String × Json)) :
        List.Forall₂ (fun e f => e.1 = f.1 ∧ t.Alone ctx e.2 f.2) es fs ↔
          (∀ e ∈ es, t.Holds e.2) ∧
            List.Forall₂ (fun e f => e.1 = f.1 ∧ t.process ctx e.2 = .ok f.2) es fs := by
      rw [← List.forall₂_and_left]
      simp only [ih, and_left_comm]
    simp only [Alone, Holds, hsplit]
    constructor
    · rintro ⟨es, fs, rfl, rfl, hholds, hfs⟩
      exact ⟨⟨es, rfl, hholds⟩, process_map_eq_ok.2 ⟨fs, rfl, hfs⟩⟩
    · rintro ⟨⟨es, rfl, hholds⟩, hprocess⟩
      obtain ⟨fs, rfl, hfs⟩ := process_map_eq_ok.1 hprocess
      exact ⟨es, fs, rfl, rfl, hholds, hfs⟩

end BodyType

open BodyType

/-- **Collections are processed elementwise.** Whatever the hooks of the models do, processing a
list or a map succeeds exactly if processing each of its elements alone does, and gives these
results in their places. As the elements may be collections themselves, a collection of any depth is
processed as the models' bodies in it are. -/
theorem collections_elementwise (t : BodyType) (ctx : Context) :
    (∀ xs, ((∃ w, (BodyType.list t).process ctx (.array xs) = .ok w) ↔
        ∀ x ∈ xs, ∃ y, t.process ctx x = .ok y) ∧
      ∀ w, (BodyType.list t).process ctx (.array xs) = .ok w ↔
        ∃ ys, w = .array ys ∧ List.Forall₂ (fun x y => t.process ctx x = .ok y) xs ys) ∧
    (∀ es, ((∃ w, (BodyType.map t).process ctx (.object es) = .ok w) ↔
        ∀ e ∈ es, ∃ y, t.process ctx e.2 = .ok y) ∧
      ∀ w, (BodyType.map t).process ctx (.object es) = .ok w ↔
        ∃ fs, w = .object fs ∧
          List.Forall₂ (fun e f => e.1 = f.1 ∧ t.process ctx e.2 = .ok f.2) es fs) ∧
    ∀ v w, t.Holds v ∧ t.process ctx v = .ok w ↔ t.Alone ctx v w := by
  refine ⟨fun xs => ⟨?_, fun _ => process_list_eq_ok⟩, fun es => ⟨?_, fun _ => process_map_eq_ok⟩,
    fun v w => alone_iff.symm⟩
  · simp only [process_list_eq_ok]
    rw [exists_comm]
    simp only [exists_eq_left, exists_forall₂]
  · simp only [process_map_eq_ok]
    rw [exists_comm]
    simp only [exists_eq_left, exists_forall₂, Prod.exists, exists_and_left, exists_eq_left']

/-- Texts whose hook trims them and leaves the stage to the operators; an empty one is refused. -/
def trimmed : Model where
  type := "Trimmed"
  family := ⟨⟨[]⟩, []⟩
  shape := .any
  normalize := fun _ v =>
    match v with
    | .string s => .ok ⟨.string (Text.trim s), false⟩
    | v => .ok ⟨v, false⟩
  validate := fun _ v =>
    if v = .string "" then .error (.badRequest "Text is empty") else .ok true

/-- A list of maps is trimmed text by text, and refused for one blank text deep in it. -/
theorem collections_elementwise_trimmed :
    let t := BodyType.map (.model trimmed)
    let ctx : Context := .detached .development
    t.list.process ctx (.array [.object [("a", .string " x "), ("b", .string "y")], .object []]) =
        .ok (.array [.object [("a", .string "x"), ("b", .string "y")], .object []]) ∧
      ¬ ∃ w, t.list.process ctx (.array [.object [], .object [("a", .string " ")]]) = .ok w := by
  intro t ctx
  have hlist := fun xs => (collections_elementwise t ctx).1 xs
  have hmap := fun es => (collections_elementwise (.model trimmed) ctx).2.1 es
  have hx : (BodyType.model trimmed).process ctx (.string " x ") = .ok (.string "x") := by
    rfl
  have hy : (BodyType.model trimmed).process ctx (.string "y") = .ok (.string "y") := by
    rfl
  have hblank : (BodyType.model trimmed).process ctx (.string " ") =
      .error (.badRequest "Text is empty") := by
    rfl
  constructor
  · refine ((hlist _).2 _).2 ⟨_, rfl, .cons ?full (.cons ?empty .nil)⟩
    case full => exact ((hmap _).2 _).2 ⟨_, rfl, .cons ⟨rfl, hx⟩ (.cons ⟨rfl, hy⟩ .nil)⟩
    case empty => exact ((hmap []).2 _).2 ⟨_, rfl, .nil⟩
  · intro hok
    obtain ⟨_, hrefused⟩ := (hlist _).1.1 hok (.object [("a", .string " ")]) (by simp)
    obtain ⟨y, hy⟩ := (hmap _).1.1 ⟨_, hrefused⟩ ("a", .string " ") (by simp)
    rw [hblank] at hy
    cases hy

end RestKit.Body
