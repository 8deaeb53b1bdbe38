import Mathlib.Logic.Relation
import RestKit.Proofs.Json.Entries
import RestKit.Proofs.Schema.Registry
import RestKit.Schema.Memo
/-!
# Kept schemas are never stale

Calls of `register` and calls for schemas are made side by side (`System.Step`): between the
compilation of a schema and the offer of it, operators may be bound and other calls may compile the
same type. In every state each schema that is kept, waits to be offered or was given is the one that
the type compiles to now (`Fresh`), since a registry only grows and compiling does not see what is
added. So a kept schema is what its type compiles to (`schema_eq`), and compilations of one type
agree. `bound_for_good` adds what calls of `register` keep.
-/
namespace RestKit.Schema

/-- The operators and types of a process, the schemas that are kept, and those that calls have
compiled and not yet offered. `given` holds what calls have given. -/
structure System where
  family : Family
  memo : Memo := []
  waiting : List (String × TypeSchema) := []
  given : List (String × TypeSchema) := []

namespace System

variable {σ τ : System} {type : String} {schema kept : TypeSchema}

/-- The system after a call of `register`. -/
def register (σ : System) (c : Stage × TextOperator) : System :=
  { σ with family := { σ.family with registry := σ.family.registry.after c } }

/-- The system after the offer of a schema that has waited; `rest` still waits. -/
def offer (σ : System) (type : String) (schema : TypeSchema) (rest : List (String × TypeSchema)) :
    System where
  family := σ.family
  memo := (σ.memo.offer type schema).2
  waiting := rest
  given := (type, (σ.memo.offer type schema).1) :: σ.given

/-- What happens to the operators and the schemas. A compilation looks up one name after the other
while others register, so it sees some of what is bound in the end: `seen` is extended by the
registry. -/
inductive Step : System → System → Prop
  | register {σ : System} (c : Stage × TextOperator) : Step σ (σ.register c)
  | reuse {σ : System} {type : String} {schema : TypeSchema}
    (h : Json.lookup σ.memo type = some schema) :
    Step σ { σ with given := (type, schema) :: σ.given }
  | compile {σ : System} {type : String} {schema : TypeSchema} {seen : Registry}
    (hseen : σ.family.registry.Extends seen)
    (h : Family.schema { σ.family with registry := seen } type = .ok schema) :
    Step σ { σ with waiting := (type, schema) :: σ.waiting }
  | offer {σ : System} {type : String} {schema : TypeSchema}
    {before behind : List (String × TypeSchema)}
    (h : σ.waiting = before ++ (type, schema) :: behind) :
    Step σ (σ.offer type schema (before ++ behind))

/-- Any number of steps. -/
abbrev Run : System → System → Prop := Relation.ReflTransGen Step

/-- Each schema is what its type compiles to now. -/
structure Fresh (σ : System) : Prop where
  memo : ∀ e ∈ σ.memo, σ.family.schema e.1 = .ok e.2
  waiting : ∀ e ∈ σ.waiting, σ.family.schema e.1 = .ok e.2
  given : ∀ e ∈ σ.given, σ.family.schema e.1 = .ok e.2

/-- What a type compiles to does not change by a call of `register`. -/
theorem schema_register (c : Stage × TextOperator) (h : σ.family.schema type = .ok schema) :
    (σ.register c).family.schema type = .ok schema :=
  TypeSchema.compile_of_extends (Registry.extends_after σ.family.registry c) h

/-- What is offered is kept or was kept before; nothing else changes. -/
theorem of_mem_offer {m : Memo} {e : String × TypeSchema} (h : e ∈ (m.offer type schema).2) :
    e ∈ m ∨ e = (type, schema) := by
  unfold Memo.offer at h
  split at h
  · exact .inl h
  · simpa using h

theorem offer_fst (m : Memo) (type : String) (schema : TypeSchema) :
    (type, (m.offer type schema).1) ∈ m ∨ (m.offer type schema).1 = schema := by
  unfold Memo.offer
  split
  · rename_i h
    exact .inl (Json.mem_of_lookup h)
  · exact .inr rfl

/-- Every step keeps schemas fresh. -/
theorem Fresh.step (hσ : σ.Fresh) (h : Step σ τ) : τ.Fresh := by
  cases h with
  | register c =>
    exact ⟨fun e he => schema_register c (hσ.memo e he),
      fun e he => schema_register c (hσ.waiting e he),
      fun e he => schema_register c (hσ.given e he)⟩
  | reuse h =>
    exact ⟨hσ.memo, hσ.waiting, List.forall_mem_cons.2 ⟨hσ.memo _ (Json.mem_of_lookup h), hσ.given⟩⟩
  | compile hseen h =>
    exact ⟨hσ.memo, List.forall_mem_cons.2 ⟨TypeSchema.compile_of_extends hseen h, hσ.waiting⟩,
      hσ.given⟩
  | @offer type schema before behind h =>
    have hwaiting := hσ.waiting
    rw [h] at hwaiting
    have hschema := hwaiting (type, schema) (by simp)
    refine ⟨fun e he => ?_, fun e he => ?_, List.forall_mem_cons.2 ⟨?_, hσ.given⟩⟩
    · rcases of_mem_offer he with he | rfl
      · exact hσ.memo e he
      · exact hschema
    · refine hwaiting e ?_
      rcases List.mem_append.1 he with he | he
      · exact List.mem_append_left _ he
      · exact List.mem_append_right _ (List.mem_cons_of_mem _ he)
    · rcases offer_fst σ.memo type schema with hmem | heq
      · exact hσ.memo _ hmem
      · exact (congrArg (fun s => σ.family.schema type = .ok s) heq).mpr hschema

theorem Fresh.run (hσ : σ.Fresh) (h : Run σ τ) : τ.Fresh := by
  induction h with
  | refl => exact hσ
  | tail _ hstep ih => exact ih.step hstep

/-- A call for a schema gives what the type compiles to now, or is refused as the type is. -/
theorem Fresh.schema_eq (hσ : σ.Fresh) (type : String) :
    (σ.memo.schema σ.family type).map (·.1) = σ.family.schema type := by
  unfold Memo.schema
  cases hkept : Json.lookup σ.memo type with
  | some kept => exact (hσ.memo _ (Json.mem_of_lookup hkept)).symm
  | none =>
    cases hschema : σ.family.schema type with
    | error e => rfl
    | ok schema => simp [Memo.offer, hkept, bind, Except.bind, pure, Except.pure, Except.map]

/-- A call without others in between takes the kept schema, or compiles and offers it. -/
theorem run_of_schema {m : Memo} (h : σ.memo.schema σ.family type = .ok (schema, m)) :
    Run σ { σ with memo := m, given := (type, schema) :: σ.given } := by
  unfold Memo.schema at h
  split at h
  · rename_i hkept
    cases h
    exact .single (.reuse hkept)
  · simp only [bind_eq_ok, pure_eq_ok] at h
    obtain ⟨compiled, hcompiled, hoffer⟩ := h
    have hoffered : Step { σ with waiting := (type, compiled) :: σ.waiting }
        (System.offer { σ with waiting := (type, compiled) :: σ.waiting } type compiled
          ([] ++ σ.waiting)) := .offer rfl
    rw [offer, hoffer] at hoffered
    exact .head (.compile (.refl _) hcompiled) (.single hoffered)

end System

/-! ## Rows of calls -/

open TypeSchema in
/-- What holds after a row of calls of `register` on the built-in operators. -/
structure BoundForGood (calls : List (Stage × TextOperator)) : Prop where
  /-- A name is bound once in a stage. -/
  once : (Registry.builtin.afterAll calls).keys.Nodup
  builtin : (Registry.builtin.afterAll calls).Extends .builtin
  /-- What is bound stays bound to the same operator. -/
  lasting : ∀ more, ((Registry.builtin.afterAll calls).afterAll more).Extends
    (Registry.builtin.afterAll calls)
  refused : ∀ stage op, (∃ e, (Registry.builtin.afterAll calls).register stage op = .error e) ↔
    IsOperatorName op.trimmed.name →
      (stage, op.trimmed.name) ∈ (Registry.builtin.afterAll calls).keys
  /-- A call that is refused changes nothing. -/
  kept : ∀ stage op, (∃ e, (Registry.builtin.afterAll calls).register stage op = .error e) →
    (Registry.builtin.afterAll calls).after (stage, op) = Registry.builtin.afterAll calls
  /-- A call that is accepted binds one name of one stage. -/
  bound : ∀ stage op b, (Registry.builtin.afterAll calls).register stage op = .ok b →
    ∀ s name, b.find? s name =
      if stage = s ∧ op.trimmed.name = name then some op.trimmed
      else (Registry.builtin.afterAll calls).find? s name
  /-- The operators of a stage are those of the calls for this stage. -/
  apart : ∀ stage name, (Registry.builtin.afterAll calls).find? stage name =
    (Registry.builtin.afterAll (calls.filter (·.1 = stage))).find? stage name
  /-- An accepted name is found, then and later, by every tag of its stage that lists it. -/
  listed : ∀ stage op b, (Registry.builtin.afterAll calls).register stage op = .ok b →
    ∀ more tag, Lists tag op.trimmed.name → ∀ type f,
      compileChain (b.afterAll more) type f stage (some tag) ≠
        .error (.unknownOperator type f.name stage op.trimmed.name) ∧
      (∀ c, compileChain (b.afterAll more) type f stage (some tag) = .ok c →
        ∃ chain, c = some chain ∧ op.trimmed ∈ chain.operators) ∧
      (Served (b.afterAll more) stage f.kind tag →
        ∃ c, compileChain (b.afterAll more) type f stage (some tag) = .ok c)
  /-- A schema that is accepted stays the same. -/
  stable : ∀ more type rules schema,
    compile (Registry.builtin.afterAll calls) type rules = .ok schema →
      compile ((Registry.builtin.afterAll calls).afterAll more) type rules = .ok schema
  /-- In every state of a process that goes on from there, a call for a schema gives what the type
  compiles to now, and schemas of one type are the same, be they given or compiled side by side. -/
  fresh : ∀ types σ, System.Run { family := ⟨Registry.builtin.afterAll calls, types⟩ } σ →
    (∀ type, (σ.memo.schema σ.family type).map (·.1) = σ.family.schema type) ∧
    ∀ e ∈ σ.waiting ++ σ.given, ∀ f ∈ σ.waiting ++ σ.given, e.1 = f.1 → e.2 = f.2

/-- **Names are bound for good.** Whatever is registered, accepted or refused, a name of a stage is
bound once and for all, tags that list it find it, and schemas do not change any more once they are
accepted, so that they can be kept. -/
theorem bound_for_good (calls : List (Stage × TextOperator)) : BoundForGood calls := by
  constructor
  case once => exact Registry.nodup_afterAll Registry.nodup_builtin
  case builtin => exact Registry.extends_afterAll calls _
  case lasting => exact fun more => Registry.extends_afterAll more _
  case refused => exact fun stage op => Registry.register_eq_error
  case kept =>
    rintro stage op ⟨e, he⟩
    rcases Registry.after_cases (Registry.builtin.afterAll calls) (stage, op) with h | ⟨-, h⟩
    · cases he.symm.trans h
    · exact h
  case bound => exact fun stage op b h s name => Registry.find?_of_register h
  case apart =>
    intro stage name
    have hstart : Registry.Alike stage .builtin .builtin := fun _ => rfl
    exact hstart.afterAll calls name
  case listed =>
    intro stage op b h more tag hlists type f
    have hname := (Registry.register_eq_ok.1 h).1
    have hbound : b.find? stage op.trimmed.name = some op.trimmed := by
      rw [Registry.find?_of_register h, if_pos ⟨rfl, rfl⟩]
    have hfind := Registry.extends_afterAll more b stage _ _ hbound
    have htoken := TypeSchema.mem_tagTokens hlists (Text.trim_trim op.name) hname.nonempty
    exact ⟨TypeSchema.compileChain_ne_unknown hfind,
      fun c => TypeSchema.mem_of_compileChain hfind htoken hname.ne_dive,
      TypeSchema.compileChain_of_served⟩
  case stable =>
    intro more type rules schema
    exact TypeSchema.compile_of_extends (Registry.extends_afterAll more _)
  case fresh =>
    intro types σ hrun
    have hstart : System.Fresh { family := ⟨Registry.builtin.afterAll calls, types⟩ } :=
      ⟨List.forall_mem_nil _, List.forall_mem_nil _, List.forall_mem_nil _⟩
    have hfresh := hstart.run hrun
    have hall : ∀ e ∈ σ.waiting ++ σ.given, σ.family.schema e.1 = .ok e.2 := by
      intro e he
      rcases List.mem_append.1 he with he | he
      · exact hfresh.waiting e he
      · exact hfresh.given e he
    refine ⟨hfresh.schema_eq, fun e he f hf hef => ?_⟩
    have heq := hall e he
    rw [hef, hall f hf] at heq
    exact (Except.ok.inj heq).symm

end RestKit.Schema
