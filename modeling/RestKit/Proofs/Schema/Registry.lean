import RestKit.Proofs.Except
import RestKit.Proofs.Keyed
import RestKit.Proofs.Text.Blank
import RestKit.Schema.Compile
/-!
# What calls of `register` keep

A call binds a new name of one stage and leaves all other names as they are (`find?_of_register`),
so a registry after some calls binds all that it bound before, to the same operators (`Extends`).
Schemas are compiled by what names are bound to: one that a registry accepts is the same in every
registry that extends it (`compile_of_extends`). A name as `register` binds it is a token of every
tag that lists it (`mem_tagTokens`), so the tag's chain has its operator (`mem_of_compileChain`).
-/
namespace RestKit.Schema

variable {r q b : Registry} {stage s : Stage} {op bound : TextOperator} {name type : String}
  {calls : List (Stage × TextOperator)}

/-- What the name of an operator is, without blanks around it. -/
structure IsOperatorName (name : String) : Prop where
  nonempty : name ≠ ""
  ne_dive : name ≠ "dive"
  plain : ',' ∉ name.toList

/-- An operator as it is bound: under its name without blanks around it. -/
def TextOperator.trimmed (op : TextOperator) : TextOperator :=
  { op with name := Text.trim op.name }

namespace Registry

/-! ## Looking up -/

/-- What an operator is bound under. -/
def key (e : Stage × TextOperator) : Stage × String := (e.1, e.2.name)

def keys (r : Registry) : List (Stage × String) := r.operators.map key

theorem find?_eq_find?_key :
    r.find? stage name = (r.operators.find? fun e => key e == (stage, name)).map (·.2) := rfl

theorem find?_eq_none : r.find? stage name = none ↔ (stage, name) ∉ r.keys := by
  rw [find?_eq_find?_key, Option.map_eq_none_iff, List.find?_eq_none, keys, List.mem_map]
  simp only [beq_iff_eq, not_exists, not_and]

theorem find?_concat :
    (⟨r.operators ++ [(s, bound)]⟩ : Registry).find? stage name =
      (r.find? stage name).or (if s = stage ∧ bound.name = name then some bound else none) := by
  rw [find?_eq_find?_key, find?_eq_find?_key, List.find?_append, Option.map_or,
    List.find?_singleton]
  congr 1
  by_cases h : s = stage ∧ bound.name = name
  · obtain ⟨rfl, rfl⟩ := h
    simp [key]
  · have hne : (key (s, bound) == (stage, name)) = false := by
      simpa [key] using not_and.1 h
    rw [if_neg h, hne]
    rfl

/-! ## One call -/

/-- **What a call does.** It binds the name if it is one and is not bound in the stage. -/
theorem register_eq_ok :
    r.register s op = .ok b ↔ IsOperatorName op.trimmed.name ∧ r.find? s op.trimmed.name = none ∧
      b = ⟨r.operators ++ [(s, op.trimmed)]⟩ := by
  have hname : ((op.trimmed.name.isEmpty || op.trimmed.name == "dive" ||
      op.trimmed.name.toList.contains ',') = true) ↔ ¬IsOperatorName op.trimmed.name := by
    simp only [Bool.or_eq_true, String.isEmpty_iff, beq_iff_eq, List.contains_iff_mem]
    constructor
    · rintro ((h | h) | h) ⟨hempty, hdive, hplain⟩
      · exact hempty h
      · exact hdive h
      · exact hplain h
    · intro h
      by_contra hnone
      simp only [not_or] at hnone
      exact h ⟨hnone.1.1, hnone.1.2, hnone.2⟩
  have hunfold : r.register s op =
      if op.trimmed.name.isEmpty || op.trimmed.name == "dive" ||
          op.trimmed.name.toList.contains ',' then .error (.invalidName op.trimmed.name)
      else if (r.find? s op.trimmed.name).isSome then .error (.alreadyRegistered s op.trimmed.name)
      else .ok ⟨r.operators ++ [(s, op.trimmed)]⟩ := rfl
  rw [hunfold]
  by_cases h : IsOperatorName op.trimmed.name
  · rw [if_neg (mt hname.1 (not_not_intro h))]
    cases hfind : r.find? s op.trimmed.name with
    | some found => simp
    | none => simp [h, eq_comm]
  · rw [if_pos (hname.2 h)]
    simp [h]

/-- A call is refused exactly if its name is none or is bound in its stage. -/
theorem register_eq_error :
    (∃ e, r.register s op = .error e) ↔
      IsOperatorName op.trimmed.name → (s, op.trimmed.name) ∈ r.keys := by
  rw [exists_error_iff]
  simp only [register_eq_ok, find?_eq_none]
  constructor
  · intro h hname
    by_contra hfree
    exact h ⟨_, hname, hfree, rfl⟩
  · rintro h ⟨b, hname, hfree, -⟩
    exact hfree (h hname)

/-- A call binds one name of one stage and leaves all others as they are. -/
theorem find?_of_register (h : r.register s op = .ok b) :
    b.find? stage name =
      if s = stage ∧ op.trimmed.name = name then some op.trimmed else r.find? stage name := by
  obtain ⟨-, hfree, rfl⟩ := register_eq_ok.1 h
  rw [find?_concat]
  split
  · rename_i hkey
    obtain ⟨rfl, rfl⟩ := hkey
    rw [hfree, Option.none_or]
  · exact Option.or_none

/-- A call keeps the names of a stage distinct. -/
theorem nodup_of_register (hr : r.keys.Nodup) (h : r.register s op = .ok b) : b.keys.Nodup := by
  obtain ⟨-, hfree, rfl⟩ := register_eq_ok.1 h
  exact nodup_key_concat hr (find?_eq_none.1 hfree)

/-! ## Rows of calls -/

/-- The registry after a call of `register`; one that is refused leaves it as it is. -/
@[irreducible]
def after (r : Registry) (c : Stage × TextOperator) : Registry :=
  match r.register c.1 c.2 with
  | .ok b => b
  | .error _ => r

def afterAll (r : Registry) (calls : List (Stage × TextOperator)) : Registry :=
  calls.foldl after r

theorem afterAll_cons (c : Stage × TextOperator) :
    r.afterAll (c :: calls) = (r.after c).afterAll calls := by
  rw [afterAll, afterAll, List.foldl_cons]

/-- A call either is accepted or changes nothing. -/
theorem after_cases (r : Registry) (c : Stage × TextOperator) :
    r.register c.1 c.2 = .ok (r.after c) ∨
      (∃ e, r.register c.1 c.2 = .error e) ∧ r.after c = r := by
  unfold after
  cases h : r.register c.1 c.2 with
  | ok b => exact .inl rfl
  | error e => exact .inr ⟨⟨e, rfl⟩, rfl⟩

theorem nodup_afterAll (hr : r.keys.Nodup) : (r.afterAll calls).keys.Nodup := by
  induction calls generalizing r with
  | nil => exact hr
  | cons c calls ih =>
    rw [afterAll_cons]
    refine ih ?_
    rcases after_cases r c with h | ⟨-, h⟩
    · exact nodup_of_register hr h
    · rwa [h]

theorem nodup_builtin : builtin.keys.Nodup := by decide

/-- All that `r` binds, `q` binds to the same operators. -/
def Extends (q r : Registry) : Prop :=
  ∀ stage name op, r.find? stage name = some op → q.find? stage name = some op

theorem Extends.refl (r : Registry) : r.Extends r := fun _ _ _ h => h

theorem Extends.trans {p : Registry} (h : p.Extends q) (h' : q.Extends r) : p.Extends r :=
  fun stage name op hop => h stage name op (h' stage name op hop)

theorem extends_after (r : Registry) (c : Stage × TextOperator) : (r.after c).Extends r := by
  rcases after_cases r c with h | ⟨-, h⟩
  · intro stage name op hop
    rw [find?_of_register h, if_neg]
    · exact hop
    · rintro ⟨rfl, rfl⟩
      have hfree := (register_eq_ok.1 h).2.1
      rw [hfree] at hop
      cases hop
  · rw [h]
    exact .refl r

theorem extends_afterAll (calls : List (Stage × TextOperator)) (r : Registry) :
    (r.afterAll calls).Extends r := by
  induction calls generalizing r with
  | nil => exact .refl r
  | cons c calls ih =>
    rw [afterAll_cons]
    exact (ih (r.after c)).trans (extends_after r c)

/-! ## The two stages -/

/-- Two registries have the same operators for a stage. -/
def Alike (stage : Stage) (r q : Registry) : Prop :=
  ∀ name, r.find? stage name = q.find? stage name

/-- A call for another stage changes nothing in a stage. -/
theorem alike_after_of_ne {c : Stage × TextOperator} (hc : c.1 ≠ stage) :
    Alike stage (r.after c) r := by
  intro name
  rcases after_cases r c with h | ⟨-, h⟩
  · rw [find?_of_register h, if_neg fun hkey => hc hkey.1]
  · rw [h]

/-- A call looks at the names of its own stage only. -/
theorem Alike.after {c : Stage × TextOperator} (h : Alike c.1 r q) :
    Alike c.1 (r.after c) (q.after c) := by
  intro name
  have hfind := h c.2.trimmed.name
  have haccept : (∃ b, r.register c.1 c.2 = .ok b) ↔ ∃ b, q.register c.1 c.2 = .ok b := by
    simp only [register_eq_ok, hfind, exists_and_left, exists_eq, and_true]
  rcases after_cases r c with hr | ⟨⟨e, hr⟩, hkept⟩
  · rcases after_cases q c with hq | ⟨⟨e, hq⟩, -⟩
    · rw [find?_of_register hr, find?_of_register hq, h name]
    · obtain ⟨b, hb⟩ := haccept.1 ⟨_, hr⟩
      rw [hq] at hb
      cases hb
  · rcases after_cases q c with hq | ⟨-, hkept'⟩
    · obtain ⟨b, hb⟩ := haccept.2 ⟨_, hq⟩
      rw [hr] at hb
      cases hb
    · rw [hkept, hkept', h name]

/-- The operators of a stage are those that the calls for this stage alone would give. -/
theorem Alike.afterAll (h : Alike stage r q) (calls : List (Stage × TextOperator)) :
    Alike stage (r.afterAll calls) (q.afterAll (calls.filter (·.1 = stage))) := by
  induction calls generalizing r q with
  | nil => exact h
  | cons c calls ih =>
    by_cases hc : c.1 = stage
    · subst hc
      rw [List.filter_cons_of_pos (by simp), afterAll_cons, afterAll_cons]
      exact ih h.after
    · rw [List.filter_cons_of_neg (by simpa using hc), afterAll_cons]
      exact ih fun name => (alike_after_of_ne hc name).trans (h name)

end Registry

/-! ## Compiling -/

namespace TypeSchema

variable {field tag : String} {names : List String} {operators : List TextOperator}
  {f : FieldRule} {c : Option Chain}

/-- The operators of a tag are what its names are bound to, one by one. -/
theorem resolveAll_eq_ok :
    resolveAll r type field stage names = .ok operators ↔
      List.Forall₂ (fun name op => r.find? stage name = some op) names operators := by
  induction names generalizing operators with
  | nil => simp [resolveAll, eq_comm]
  | cons name names ih =>
    rw [resolveAll, List.forall₂_cons_left_iff]
    cases hfind : r.find? stage name with
    | none => simp
    | some op =>
      simp only [bind_eq_ok, pure_eq_ok, ih, Option.some.injEq]
      constructor
      · rintro ⟨ops, hops, rfl⟩
        exact ⟨op, ops, rfl, hops, rfl⟩
      · rintro ⟨_, ops, rfl, hops, rfl⟩
        exact ⟨ops, hops, rfl⟩

/-- A tag is refused for a name in it that is not bound. -/
theorem resolveAll_eq_error {e : SchemaError}
    (h : resolveAll r type field stage names = .error e) :
    ∃ name ∈ names, r.find? stage name = none ∧ e = .unknownOperator type field stage name := by
  induction names with
  | nil => cases h
  | cons name names ih =>
    rw [resolveAll] at h
    cases hfind : r.find? stage name with
    | none =>
      rw [hfind] at h
      cases h
      exact ⟨name, List.mem_cons_self .., hfind, rfl⟩
    | some op =>
      simp only [hfind, bind_eq_error, pure_ne_error, and_false, exists_false, or_false] at h
      obtain ⟨name', hmem, h⟩ := ih h
      exact ⟨name', List.mem_cons_of_mem _ hmem, h⟩

theorem compileChain_of_extends {tag : Option String} (hq : q.Extends r)
    (h : compileChain r type f stage tag = .ok c) : compileChain q type f stage tag = .ok c := by
  cases tag with
  | none => exact h
  | some tag =>
    simp only [compileChain, bind_eq_ok] at h ⊢
    obtain ⟨operators, hoperators, h⟩ := h
    refine ⟨operators, ?_, h⟩
    rw [resolveAll_eq_ok] at hoperators ⊢
    exact hoperators.imp fun name op => hq stage name op

theorem compileField_of_extends {s : FieldSchema} (hq : q.Extends r)
    (h : compileField r type f = .ok s) : compileField q type f = .ok s := by
  simp only [compileField, bind_eq_ok] at h ⊢
  obtain ⟨normalize, hnormalize, sanitize, hsanitize, h⟩ := h
  exact ⟨normalize, compileChain_of_extends hq hnormalize, sanitize,
    compileChain_of_extends hq hsanitize, h⟩

theorem compileFields_of_extends {seen : List String} {fs : List FieldRule}
    {ss : List FieldSchema} (hq : q.Extends r) (h : compileFields r type seen fs = .ok ss) :
    compileFields q type seen fs = .ok ss := by
  induction fs generalizing seen ss with
  | nil => exact h
  | cons f fs ih =>
    simp only [compileFields] at h ⊢
    split at h
    · simp only [bind_eq_ok, throw_eq_ok, false_and, exists_false] at h
    · rename_i hnew
      rw [if_neg hnew]
      simp only [bind_eq_ok, pure_eq_ok] at h ⊢
      obtain ⟨s, hs, ss', hss', rfl⟩ := h
      exact ⟨s, compileField_of_extends hq hs, ss', ih hss', rfl⟩

/-- A schema that is accepted is the same for a registry that binds more. -/
theorem compile_of_extends {rules : List FieldRule} {schema : TypeSchema} (hq : q.Extends r)
    (h : compile r type rules = .ok schema) : compile q type rules = .ok schema := by
  simp only [compile, bind_eq_ok] at h ⊢
  obtain ⟨fields, hfields, h⟩ := h
  exact ⟨fields, compileFields_of_extends hq hfields, h⟩

/-! ## Tags that list a name -/

/-- The name stands between commas of the tag, with blanks around it or without. -/
def Lists (tag name : String) : Prop :=
  ∃ before behind, Text.isBlankText before = true ∧ Text.isBlankText behind = true ∧
    before ++ name ++ behind ∈ Text.splitOn ',' tag

/-- A trimmed name that a tag lists is one of its tokens. -/
theorem mem_tagTokens (h : Lists tag name) (htrim : Text.trim name = name) (hne : name ≠ "") :
    name ∈ tagTokens tag := by
  obtain ⟨before, behind, hbefore, hbehind, hpart⟩ := h
  refine List.mem_filter.2 ⟨List.mem_map.2 ⟨_, hpart, ?_⟩, by simpa using hne⟩
  rw [Text.trim_padded hbefore hbehind, htrim]

/-- What a tag asks for is there: its names are bound, and it dives just where there is something to
dive into. -/
structure Served (q : Registry) (stage : Stage) (kind : Kind) (tag : String) : Prop where
  names : ∀ name ∈ tagTokens tag, name = "dive" ∨ (stage, name) ∈ q.keys
  kind : if "dive" ∈ tagTokens tag then kind.canDive = true else kind.isString = true

variable {found : TextOperator}

/-- A name that is bound is not what a tag is refused for. -/
theorem compileChain_ne_unknown (hfind : q.find? stage name = some found) :
    compileChain q type f stage (some tag) ≠ .error (.unknownOperator type f.name stage name) := by
  intro h
  simp only [compileChain, bind_eq_error] at h
  rcases h with h | ⟨operators, -, h⟩
  · obtain ⟨name', -, hnone, heq⟩ := resolveAll_eq_error h
    cases heq
    rw [hfind] at hnone
    cases hnone
  · split at h
    · cases h
    · split at h
      · cases h
      · cases h

/-- The chain of a tag has the operator of each name that the tag lists. -/
theorem mem_of_compileChain (hfind : q.find? stage name = some found)
    (htoken : name ∈ tagTokens tag) (hdive : name ≠ "dive")
    (h : compileChain q type f stage (some tag) = .ok c) :
    ∃ chain, c = some chain ∧ found ∈ chain.operators := by
  simp only [compileChain, bind_eq_ok] at h
  obtain ⟨operators, hoperators, h⟩ := h
  rw [resolveAll_eq_ok] at hoperators
  obtain ⟨op, hop, hname⟩ := mem_of_forall₂_left hoperators
    (List.mem_filter.2 ⟨htoken, by simpa using hdive⟩)
  cases hfind.symm.trans hname
  have hsome : operators.isEmpty = false := by
    cases operators with
    | nil => cases hop
    | cons => rfl
  split at h
  · cases h
  · split at h
    · cases h
    · simp only [hsome, Bool.false_and, Bool.false_eq_true, if_false, pure_eq_ok] at h
      exact ⟨_, h.symm, hop⟩

/-- A tag that asks only for what is there is accepted. -/
theorem compileChain_of_served (h : Served q stage f.kind tag) :
    ∃ c, compileChain q type f stage (some tag) = .ok c := by
  obtain ⟨hnames, hkind⟩ := h
  cases hresolve : resolveAll q type f.name stage ((tagTokens tag).filter (· != "dive")) with
  | error e =>
    obtain ⟨name, hmem, hnone, -⟩ := resolveAll_eq_error hresolve
    obtain ⟨htoken, hdive⟩ := List.mem_filter.1 hmem
    have hkey := (hnames name htoken).resolve_left (by simpa using hdive)
    exact absurd hkey (Registry.find?_eq_none.1 hnone)
  | ok operators =>
    simp only [compileChain, hresolve, ok_bind]
    by_cases hdive : "dive" ∈ tagTokens tag
    · rw [if_pos hdive] at hkind
      simp [hdive, hkind, pure, Except.pure]
    · rw [if_neg hdive] at hkind
      simp [hdive, hkind, pure, Except.pure]

end TypeSchema
end RestKit.Schema
