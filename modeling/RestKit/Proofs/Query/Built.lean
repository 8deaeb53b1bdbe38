import RestKit.Proofs.Json.Entries
import RestKit.Proofs.Query.Building
import RestKit.Proofs.Query.RoundTrip
/-!
# Built predicates

Every condition that a fluent call pushes belongs to the grammar, and joining conditions stays in
it (`wellFormed_of_build`). So a built predicate fails to survive rendering and parsing for one
reason only, which `built_equivalent_iff` states: a value under an implicit equality that looks
like a map of operators.
-/
namespace RestKit.Query

open WhereBuilder

/-! ## Fluent calls -/

/-- Whether a comparing call of the operator takes the value: patterns are texts. -/
def Operator.Compares : Operator → Json → Prop
  | .eq, _ | .neq, _ | .gt, _ | .gte, _ | .lt, _ | .lte, _ => True
  | .like, v | .nlike, v => ∃ s, v = .string s
  | .inq, _ | .nin, _ | .and, _ | .or, _ | .exists, _ => False

mutual
/-- A call of a method with a typed operand; children start from empty builders. -/
def WhereCall.Fluent : WhereCall → Prop
  | .compare op _ value => op.Compares value
  | .among op _ _ => op = .inq ∨ op = .nin
  | .logical _ children => WhereCall.FluentChildren children
  | .raw _ => False
  | .likeWithOptions .. | .exists .. | .between .. | .reset => True
def WhereCall.FluentAll : List WhereCall → Prop
  | [] => True
  | c :: cs => c.Fluent ∧ WhereCall.FluentAll cs
def WhereCall.FluentChildren : List (WhereBuilder × List WhereCall) → Prop
  | [] => True
  | (b, cs) :: rest =>
    (b = .empty ∨ b = .strictEmpty) ∧ WhereCall.FluentAll cs ∧ WhereCall.FluentChildren rest
end

/-! ## Single conditions -/

theorem checkField_eq_ok {field : String} {u : Unit} :
    checkField field = .ok u ↔
      Text.isBlankText field = false ∧ isDollar field = false ∧ Operator.parse? field = none := by
  unfold checkField
  cases Text.isBlankText field with
  | true => simp [check_eq_ok, throw_eq_ok]
  | false =>
    cases hp : Operator.parse? field with
    | some op => simp [check_eq_ok, throw_eq_ok]
    | none => simp [rejectDollar_eq_ok]

/-- A condition on a checked field belongs to the grammar if its operand does. -/
theorem wellFormed_single {field : String} {x : Operand} (h : checkField field = .ok ())
    (hx : x.WellFormed field) : Where.WellFormed (Where.single field x) := by
  obtain ⟨hb, hd, -⟩ := checkField_eq_ok.1 h
  refine ⟨hd, ?_, hx, trivial⟩
  rintro rfl
  exact absurd hb (by decide)

theorem operatorMap_pattern (pattern options : String) :
    OperatorMap [(Operator.like.name, .string pattern), (optionsKey, .string options)] := by
  have hp : Operator.parse? Operator.like.name = some .like := parse?_eq_some.2 rfl
  refine ⟨by simp, ?_, fun _ => ⟨_, List.mem_cons_self .., .like, hp, rfl⟩⟩
  simp only [List.mem_cons, List.not_mem_nil, or_false, forall_eq_or_imp, forall_eq]
  exact ⟨Or.inr ⟨.like, hp, pattern, rfl⟩, Or.inl ⟨rfl, options, rfl⟩⟩

theorem operands_eq_ok {field : String} {ops : List (String × Json)}
    {es : List (String × Operand)} :
    operands field ops = .ok es ↔
      checkField field = .ok () ∧ (∀ e ∈ ops, DollarFree e.2) ∧
        es = scalars (Json.entriesOf ops) := by
  unfold operands
  simp only [check_eq_ok, forM_eq_ok, rejectDollarDeep_eq_ok, pure_eq_ok]
  have hmap : Json.entriesOf (ops.map fun e => (e.1, Operand.scalar e.2)) =
      scalars (Json.entriesOf ops) := Json.entriesOf_mapValues (fun _ => Operand.scalar) ops
  rw [hmap, eq_comm (a := es)]

/-! ## Builders -/

/-- Every condition belongs to the grammar. -/
def WhereBuilder.Sound (b : WhereBuilder) : Prop := ∀ w ∈ b.conditions, Where.WellFormed w

theorem sound_start {b : WhereBuilder} (h : b = .empty ∨ b = .strictEmpty) : b.Sound := by
  rcases h with rfl | rfl <;> intro w hw <;> cases hw

namespace WhereBuilder

theorem Sound.push {b : WhereBuilder} {w : Where} (hb : b.Sound) (hw : Where.WellFormed w) :
    (b.push w).Sound := by
  intro v hv
  rcases List.mem_append.1 hv with hv | hv
  · exact hb v hv
  · rw [List.mem_singleton.1 hv]; exact hw

theorem Sound.whereRaw {b : WhereBuilder} {w : Where} (hb : b.Sound) (hw : Where.WellFormed w) :
    (b.whereRaw w).Sound := by
  unfold WhereBuilder.whereRaw
  split
  · exact hb
  · exact hb.push hw

theorem Sound.attempt {b : WhereBuilder} (hb : b.Sound) {r : Except QueryError Where}
    (h : ∀ w, r = .ok w → Where.WellFormed w) : (b.attempt r).Sound := by
  cases r with
  | ok w => exact hb.push (h w rfl)
  | error e => exact hb

/-- A condition of operators is pushed if its operands make a map of operators. -/
theorem Sound.opWith {b : WhereBuilder} (hb : b.Sound) {field : String}
    {ops : List (String × Json)}
    (h : (∀ e ∈ ops, DollarFree e.2) → OperatorMap (Json.entriesOf ops)) :
    (b.opWith field ops).Sound := by
  refine hb.attempt fun w hw => ?_
  simp only [map_eq_ok, operands_eq_ok] at hw
  obtain ⟨es, ⟨hf, hd, rfl⟩, rfl⟩ := hw
  exact wellFormed_single hf ⟨(checkField_eq_ok.1 hf).2.2, _, h hd, rfl⟩

theorem Sound.op {b : WhereBuilder} (hb : b.Sound) {field : String} {o : Operator} {v : Json}
    (h : DollarFree v → o.Takes v) : (b.op field o v).Sound :=
  hb.opWith fun hd => operatorMap_single (h (hd (o.name, v) (List.mem_singleton_self _)))

theorem Sound.eq {b : WhereBuilder} (hb : b.Sound) {field : String} {v : Json} :
    (b.eq field v).Sound := by
  unfold WhereBuilder.eq
  split
  · exact hb.op id
  · refine hb.attempt fun w hw => ?_
    simp only [check_eq_ok, rejectDollarDeep_eq_ok, pure_eq_ok] at hw
    obtain ⟨hf, hd, rfl⟩ := hw
    exact wellFormed_single hf ⟨(checkField_eq_ok.1 hf).2.2, hd⟩

theorem Sound.likeWithOptions {b : WhereBuilder} (hb : b.Sound) {field pattern options : String} :
    (b.likeWithOptions field pattern options).Sound := by
  refine hb.opWith fun _ => ?_
  have ho : ¬ optionsKey < Operator.like.name ∧ Operator.like.name ≠ optionsKey := by decide
  simpa [Json.entriesOf, Json.insert, ho.1, ho.2.symm] using operatorMap_pattern pattern options

/-- A list of predicates of the grammar under `and` or `or` belongs to it. -/
theorem wellFormed_logical {o : Operator} {ws : List Where} (ho : o.isLogical = true)
    (h : ∀ w ∈ ws, Where.WellFormed w) : Where.WellFormed (Where.logical o ws) := by
  have hp : Operator.parse? o.name = some o := parse?_eq_some.2 rfl
  exact ⟨isDollar_name o, ne_empty_of_parse? hp, ⟨⟨o, hp, ho⟩, wellFormedList_iff.2 h⟩, trivial⟩

theorem Sound.between {b : WhereBuilder} (hb : b.Sound) {field : String} {min max : Json}
    {exclusive : Bool} : (b.between field min max exclusive).Sound := by
  unfold WhereBuilder.between
  split
  · exact hb
  · have he : empty.Sound := sound_start (Or.inl rfl)
    cases exclusive <;> dsimp only <;> split
    · exact hb
    · exact hb.push (wellFormed_logical rfl ((he.op id).op id))
    · exact hb
    · exact hb.push (wellFormed_logical rfl ((he.op id).op id))

/-! ## Lists of children -/

theorem wellFormed_of_flattened {ws : List Where} (h : ∀ w ∈ ws, Where.WellFormed w) :
    ∀ w ∈ flattened ws, Where.WellFormed w := by
  intro w hw
  obtain ⟨v, hv, hwv⟩ := List.mem_flatMap.1 hw
  have hvw := h v hv
  cases hc : v.conjuncts? with
  | none =>
    rw [hc] at hwv
    rw [List.mem_singleton.1 hwv]
    exact hvw
  | some children =>
    rw [hc] at hwv
    rw [Where.conjuncts?_eq_some.1 hc] at hvw
    exact wellFormedList_iff.1 hvw.2.2.1.2 w hwv

/-- Joining conditions stays in the grammar, in each of the three ways. -/
theorem wellFormed_joined {ws : List Where} (h : ∀ w ∈ ws, Where.WellFormed w) :
    Where.WellFormed (joined ws) := by
  unfold joined
  split
  · trivial
  · exact h _ (List.mem_singleton_self _)
  · cases hm : mergeDisjoint ws with
    | none => exact wellFormed_logical rfl (wellFormed_of_flattened h)
    | some w =>
      obtain ⟨-, rfl⟩ := mergeDisjoint_eq_some.1 hm
      refine wellFormed_iff.2 fun e he => ?_
      obtain ⟨v, hv, hev⟩ := List.mem_flatten.1 (Json.mem_of_mem_entriesOf he)
      exact wellFormed_iff.1 (h v hv) e hev

/-- **Building stays in the grammar.** -/
theorem wellFormed_of_build {b : WhereBuilder} (hb : b.Sound) {w : Where} (h : b.build = .ok w) :
    Where.WellFormed w := by
  obtain ⟨-, rfl⟩ := build_eq_ok.1 h
  exact wellFormed_joined hb

theorem wellFormed_of_itemsOf {flatten : Bool} {v w : Where} (hv : Where.WellFormed v)
    (h : w ∈ itemsOf flatten v) : Where.WellFormed w := by
  have hs : ∀ u ∈ [v], Where.WellFormed u := by
    intro u hu
    rw [List.mem_singleton.1 hu]; exact hv
  unfold itemsOf at h
  split at h
  · cases h
  · split at h
    · exact wellFormed_of_flattened hs w h
    · exact hs w h

theorem Sound.logical {b : WhereBuilder} (hb : b.Sound) {o : Operator}
    {children : List WhereBuilder} {flatten : Bool} (ho : o.isLogical = true)
    (hc : ∀ c ∈ children, c.Sound) : (b.logical o children flatten).Sound := by
  have hitems : ∀ w ∈ listItems flatten children, Where.WellFormed w := by
    intro w hw
    obtain ⟨c, hcm, hw⟩ := List.mem_flatMap.1 hw
    split at hw
    · cases hw
    · exact wellFormed_of_itemsOf (wellFormed_joined (hc c hcm)) hw
  rw [logical_eq]
  intro w hw
  rcases List.mem_append.1 hw with hw | hw
  · exact hb w hw
  · unfold group at hw
    split at hw
    · cases hw
    · rw [List.mem_singleton.1 hw]
      exact wellFormed_logical ho hitems

end WhereBuilder

/-! ## Sequences of calls -/

mutual
/-- One fluent call keeps every condition in the grammar. -/
theorem sound_apply {b : WhereBuilder} (hb : b.Sound) :
    ∀ {c : WhereCall}, c.Fluent → (c.apply b).Sound
  | .compare op field value, h => by
    cases op with
    | eq => exact hb.eq
    | neq | gt | gte | lt | lte => exact hb.op id
    | like | nlike => exact hb.op fun _ => h
    | _ => exact h.elim
  | .likeWithOptions .., _ => hb.likeWithOptions
  | .exists _ value, _ => hb.op fun _ => ⟨value, rfl⟩
  | .among _ _ values, h => by
    rcases h with rfl | rfl <;> exact hb.op fun hd => ⟨⟨values, rfl⟩, hd⟩
  | .between .., _ => hb.between
  | .logical isOr children, h => by
    have hc := sound_applyChildren h
    cases isOr with
    | true => exact hb.logical rfl hc
    | false => exact hb.logical rfl hc
  | .reset, _ => by intro w hw; cases hw
theorem sound_applyAll {b : WhereBuilder} (hb : b.Sound) :
    ∀ {cs : List WhereCall}, WhereCall.FluentAll cs → (WhereCall.applyAll b cs).Sound
  | [], _ => hb
  | _ :: _, h => sound_applyAll (sound_apply hb h.1) h.2
theorem sound_applyChildren :
    ∀ {children : List (WhereBuilder × List WhereCall)}, WhereCall.FluentChildren children →
      ∀ c ∈ WhereCall.applyChildren children, c.Sound
  | [], _, _, hc => by cases hc
  | (b, cs) :: rest, h, c, hc => by
    rcases List.mem_cons.1 hc with rfl | hc
    · exact sound_applyAll (sound_start h.1) h.2.1
    · exact sound_applyChildren h.2.2 c hc
end

/-- **What a builder gives survives rendering and parsing** up to equivalence exactly if no value
under an implicit equality in it looks like a map of operators. -/
theorem built_equivalent_iff {start : WhereBuilder} {calls : List WhereCall} {w : Where} {max : Nat}
    (hs : start = .empty ∨ start = .strictEmpty) (hc : WhereCall.FluentAll calls)
    (hw : (WhereCall.applyAll start calls).build = .ok w) (hn : Where.nesting w ≤ max) :
    (∃ v, Where.parse max w.toValue = .ok v ∧ w.equivalent v = true) ↔ Where.Unambiguous w :=
  parse_toValue_equivalent_iff (wellFormed_of_build (sound_applyAll (sound_start hs) hc) hw) hn

/-- A chain with a pattern, a range and a list of children, each built by a builder of its own. -/
theorem built_equivalent_iff_chain :
    let calls : List WhereCall :=
      [.likeWithOptions "name" "^a" "i", .between "age" (.nat 1) (.nat 9) false,
        .logical true [(.empty, [.compare .eq "a" .null]), (.strictEmpty, [.among .inq "b" []])]]
    ∃ w, (WhereCall.applyAll .empty calls).build = .ok w ∧ Where.nesting w ≤ 2 ∧
      ((∃ v, Where.parse 2 w.toValue = .ok v ∧ w.equivalent v = true) ↔ Where.Unambiguous w) := by
  intro calls
  have hf : WhereCall.FluentAll calls :=
    ⟨trivial, trivial, ⟨Or.inl rfl, ⟨trivial, trivial⟩, Or.inr rfl, ⟨Or.inl rfl, trivial⟩, trivial⟩,
      trivial⟩
  have hw : (WhereCall.applyAll .empty calls).build = .ok
      [("and", .list [[("age", .nested [("gte", .scalar (.nat 1))])],
          [("age", .nested [("lte", .scalar (.nat 9))])]]),
        ("name", .nested [("like", .scalar (.string "^a")), ("options", .scalar (.string "i"))]),
        ("or", .list [[("a", .scalar .null)],
          [("b", .nested [("inq", .scalar (.array []))])]])] := by
    decide +kernel
  exact ⟨_, hw, by decide, built_equivalent_iff (Or.inl rfl) hf hw (by decide)⟩

/-- An equality with a document that has the key of pattern options: its rendering is refused. -/
theorem built_options_refused :
    ∃ w, WhereCall.FluentAll [.compare .eq "a" (.object [("options", .string "i")])] ∧
      (WhereCall.applyAll .empty
        [.compare .eq "a" (.object [("options", .string "i")])]).build = .ok w ∧
      Where.nesting w ≤ 10 ∧
      Where.parse 10 w.toValue = .error (.optionsWithoutPattern "a") ∧
      ¬ ∃ v, Where.parse 10 w.toValue = .ok v ∧ w.equivalent v = true := by
  have hp : Where.parse 10 (Where.toValue [("a", .scalar (.object [("options", .string "i")]))]) =
      .error (.optionsWithoutPattern "a") := by decide +kernel
  refine ⟨[("a", .scalar (.object [("options", .string "i")]))], ⟨trivial, trivial⟩,
    by decide +kernel, by decide, hp, ?_⟩
  rintro ⟨v, hv, -⟩
  rw [hp] at hv
  cases hv

end RestKit.Query
