import RestKit.Proofs.Json.Read
import RestKit.Proofs.Query.Equivalence
import RestKit.Proofs.Query.Recheck
/-!
# Faithful translation

Two predicates with the same document are equivalent, if no field of theirs converts its operands:
no operator is dropped, merged with another or mistaken for one. Each entry of a document is found
again in what it came from, by its key (`documentKey_inj`, `operator_of_same`); the pattern options,
which have no entry of their own, are read off the pattern that they stand beside.
`toDocument_faithful` puts this together with the converse of the module on equivalence.
-/
namespace RestKit.Query

variable {c : Collection}

/-! ## Keys of documents -/

theorem isDollar_document (op : Operator) : isDollar op.document = true := by cases op <;> decide

theorem document_inj {op op' : Operator} (h : op.document = op'.document) : op = op' := by
  revert h
  cases op <;> cases op' <;> decide

theorem document_ne_options (op : Operator) : op.document ≠ "$options" := by cases op <;> decide

/-- The key of an entry's document: the operator for `and` and `or`, the field else. -/
def documentKey (key : String) : String :=
  match Operator.parse? key with
  | some op => op.document
  | none => key

/-- Entries with different keys have documents with different keys. -/
theorem documentKey_inj {k l : String} (hk : isDollar k = false) (hl : isDollar l = false)
    (h : documentKey k = documentKey l) : k = l := by
  unfold documentKey at h
  cases hp : Operator.parse? k with
  | some op =>
    cases hq : Operator.parse? l with
    | some op' =>
      rw [hp, hq] at h
      rw [← parse?_eq_some.1 hp, ← parse?_eq_some.1 hq, document_inj h]
    | none =>
      rw [hp, hq] at h
      simp only at h
      rw [← h, isDollar_document] at hl
      cases hl
  | none =>
    cases hq : Operator.parse? l with
    | some op =>
      rw [hp, hq] at h
      simp only at h
      rw [h, isDollar_document] at hk
      cases hk
    | none => rwa [hp, hq] at h

theorem key_of_translateMember {key : String} {x : Operand} {e : String × Json}
    (h : translateMember c key x = .ok e) : e.1 = documentKey key := by
  unfold documentKey
  cases x with
  | scalar v =>
    obtain ⟨hp, j, -, rfl⟩ := translateMember_scalar_eq_ok.1 h
    rw [hp]
  | nested ops =>
    obtain ⟨hp, js, -, rfl⟩ := translateMember_nested_eq_ok.1 h
    rw [hp]
  | list ws =>
    obtain ⟨op, hp, -, ds, -, rfl⟩ := translateMember_list_eq_ok.1 h
    rw [hp]

/-! ## Maps of operators at a field that converts nothing -/

/-- What stands at the key of an operator in the document. -/
def storedOperand (options : Option String) (op : Operator) (v : Json) : Json :=
  match op with
  | .nlike => .object (patternEntries v options)
  | _ => v

/-- The document entries of an operator; only a pattern has its options beside it. -/
def operatorEntries (options : Option String) (op : Operator) (v : Json) : List (String × Json) :=
  match op with
  | .like => patternEntries v options
  | op => [(op.document, storedOperand options op v)]

theorem mem_operatorEntries {options : Option String} {op : Operator} {v : Json}
    {e : String × Json} :
    e ∈ operatorEntries options op v ↔
      e = (op.document, storedOperand options op v) ∨
        op = .like ∧ ∃ o, options = some o ∧ e = ("$options", .string o) := by
  cases op with
  | like =>
    cases options <;>
      simp [operatorEntries, patternEntries, storedOperand, Operator.document, or_comm]
  | _ => simp [operatorEntries]

theorem coerceOperand_asIs {field : String} (hs : c.StoresAsIs field) (v : Json) :
    coerceOperand c field v = .ok v :=
  coerceOperand_eq_ok.2 (Or.inr (Or.inr (Or.inr ⟨hs.1, hs.2, rfl⟩)))

theorem translateOperator_asIs {field key : String} {options : Option String} {op : Operator}
    {v : Json} (hs : c.StoresAsIs field) (ht : op.Takes v) :
    translateOperator c field key options v op = .ok (operatorEntries options op v) := by
  have hxs (xs : List Json) : xs.mapM (coerceOperand c field) = .ok xs :=
    mapM_eq_ok.2 (List.forall₂_same.2 fun x _ => coerceOperand_asIs hs x)
  rw [translateOperator_eq_ok]
  cases op with
  | and | or => exact ht.elim
  | inq | nin =>
    obtain ⟨⟨xs, rfl⟩, -⟩ := ht
    exact Or.inr (Or.inl ⟨by simp, xs, rfl, xs, mapM_eq_ok.1 (hxs xs), rfl⟩)
  | like => exact Or.inr (Or.inr (Or.inl ⟨rfl, rfl⟩))
  | nlike => exact Or.inr (Or.inr (Or.inr (Or.inl ⟨rfl, rfl⟩)))
  | «exists» => exact Or.inr (Or.inr (Or.inr (Or.inr ⟨rfl, rfl⟩)))
  | eq | neq | gt | gte | lt | lte =>
    exact Or.inl ⟨rfl, v, coerceOperand_asIs hs v, rfl⟩

/-- The entries of one key of a map of operators. -/
def keyEntries (options : Option String) (e : String × Json) : List (String × Json) :=
  match Operator.parse? e.1 with
  | some op => operatorEntries options op e.2
  | none => []

/-- The document of a map of operators: the entries of its keys. -/
def operatorDocument (js : List (String × Json)) : List (String × Json) :=
  Json.entriesOf (js.map (keyEntries (patternOptions (scalars js)))).flatten

theorem translateOperators_asIs {field : String} {js : List (String × Json)}
    (hs : c.StoresAsIs field) (hm : OperatorMap js) :
    translateOperators c field (scalars js) = .ok (operatorDocument js) := by
  rw [translateOperators_eq_ok]
  refine ⟨_, ?_, rfl⟩
  rw [scalars, List.forall₂_map_left_iff, List.forall₂_map_right_iff, List.forall₂_same]
  rintro ⟨k, v⟩ he
  rw [translateEntry_eq_ok]
  rcases hm.takes _ he with ⟨hk, -⟩ | ⟨op, hop, ht⟩
  · exact Or.inl ⟨hk, by simp only at hk; simp [keyEntries, hk, parse?_optionsKey]⟩
  · refine Or.inr ⟨op, v, hop, rfl, dollarFree_of_takes ht, ?_⟩
    simp only at hop
    simp only [keyEntries, hop]
    exact translateOperator_asIs hs ht

theorem mem_keyEntries {options : Option String} {js : List (String × Json)} {e : String × Json} :
    e ∈ (js.map (keyEntries options)).flatten ↔
      ∃ op v, (op.name, v) ∈ js ∧ e ∈ operatorEntries options op v := by
  simp only [List.mem_flatten, List.mem_map]
  constructor
  · rintro ⟨_, ⟨⟨k, v⟩, hm, rfl⟩, he⟩
    unfold keyEntries at he
    cases hp : Operator.parse? k with
    | some op =>
      simp only [hp] at he
      exact ⟨op, v, parse?_eq_some.1 hp ▸ hm, he⟩
    | none => simp [hp] at he
  · rintro ⟨op, v, hm, he⟩
    refine ⟨_, ⟨_, hm, rfl⟩, ?_⟩
    have hp : Operator.parse? op.name = some op := parse?_eq_some.2 rfl
    simpa only [keyEntries, hp] using he

/-- The document of a map of operators loses no entry: one key never comes from two of them. -/
theorem mem_operatorDocument {js : List (String × Json)} (hjs : Json.KeyOrdered js)
    {e : String × Json} :
    e ∈ operatorDocument js ↔
      ∃ op v, (op.name, v) ∈ js ∧ e ∈ operatorEntries (patternOptions (scalars js)) op v := by
  rw [← mem_keyEntries, operatorDocument]
  constructor
  · exact Json.mem_of_mem_entriesOf
  · intro he
    refine (Json.mem_entriesOf fun p hp hk => ?_).2 he
    obtain ⟨op, v, hm, he⟩ := mem_keyEntries.1 he
    obtain ⟨op', v', hm', hp⟩ := mem_keyEntries.1 hp
    rcases mem_operatorEntries.1 he with rfl | ⟨rfl, o, ho, rfl⟩
    · rcases mem_operatorEntries.1 hp with rfl | ⟨-, o, -, rfl⟩
      · obtain rfl := document_inj hk
        rw [hjs.value_unique hm hm']
      · exact absurd hk.symm (document_ne_options op)
    · rcases mem_operatorEntries.1 hp with rfl | ⟨-, o', ho', rfl⟩
      · exact absurd hk (document_ne_options op')
      · rw [ho] at ho'
        rw [Option.some.inj ho']

theorem patternEntries_of_same {v u : Json} {o o' : Option String}
    (h : SameEntries (patternEntries v o) (patternEntries u o')) : v.Same u ∧ o = o' := by
  cases o <;> cases o' <;>
    simp_all [SameEntries, patternEntries, Json.sameEntries, Json.same, Json.Same]

theorem keyOrdered_scalars {js : List (String × Json)} :
    Json.KeyOrdered (scalars js) ↔ Json.KeyOrdered js := by
  unfold scalars
  exact Json.keyOrdered_map (g := fun e => (e.1, Operand.scalar e.2)) fun _ => rfl

theorem patternOptions_eq_some {js : List (String × Json)} (hjs : Json.KeyOrdered js) {o : String} :
    patternOptions (scalars js) = some o ↔ (optionsKey, .string o) ∈ js := by
  have hord : Json.KeyOrdered (scalars js) := keyOrdered_scalars.2 hjs
  have hmem : (optionsKey, Operand.scalar (.string o)) ∈ scalars js ↔
      (optionsKey, .string o) ∈ js := by
    rw [mem_scalars]
    constructor
    · rintro ⟨v, hv, hm⟩
      cases hv
      exact hm
    · exact fun hm => ⟨_, rfl, hm⟩
  rw [← hmem, ← hord.lookup_eq_some]
  unfold patternOptions
  constructor
  · intro h
    split at h
    · rename_i hl
      cases h
      exact hl
    · cases h
  · intro h
    rw [h]

/-- What an operator stores is found under its key in the other document, and came from the same
operator there. -/
theorem operator_of_same {js js' : List (String × Json)} (hjs : Json.KeyOrdered js)
    (hjs' : Json.KeyOrdered js') (h : SameEntries (operatorDocument js) (operatorDocument js'))
    {op : Operator} {v : Json} (hv : (op.name, v) ∈ js) :
    ∃ u, (op.name, u) ∈ js' ∧ (storedOperand (patternOptions (scalars js)) op v).Same
      (storedOperand (patternOptions (scalars js')) op u) := by
  have he : (op.document, storedOperand (patternOptions (scalars js)) op v) ∈
      operatorDocument js :=
    (mem_operatorDocument hjs).2 ⟨op, v, hv, mem_operatorEntries.2 (Or.inl rfl)⟩
  obtain ⟨f, hf, hk, hsame⟩ := mem_of_forall₂_left (Json.sameEntries_iff.1 h) he
  obtain ⟨op', u, hu, hf⟩ := (mem_operatorDocument hjs').1 hf
  rcases mem_operatorEntries.1 hf with rfl | ⟨-, s, -, rfl⟩
  · obtain rfl := document_inj hk
    exact ⟨u, hu, hsame⟩
  · exact absurd hk (document_ne_options op)

theorem storedOperand_same {o o' : Option String} {op : Operator} {v u : Json}
    (h : (storedOperand o op v).Same (storedOperand o' op u)) : v.Same u := by
  cases op with
  | nlike => exact (patternEntries_of_same h).1
  | _ => exact h

/-- The options beside a pattern are found again beside it, or inside its negation. -/
theorem options_of_same {js js' : List (String × Json)}
    (hjs : Json.KeyOrdered js) (hjs' : Json.KeyOrdered js') (hm : OperatorMap js)
    (h : SameEntries (operatorDocument js) (operatorDocument js')) {s : String}
    (hs : (optionsKey, .string s) ∈ js) : (optionsKey, .string s) ∈ js' := by
  have ho : patternOptions (scalars js) = some s := (patternOptions_eq_some hjs).2 hs
  rw [← patternOptions_eq_some hjs']
  obtain ⟨⟨k, v⟩, hv, op, hop, hpat⟩ := hm.pattern ⟨_, hs, rfl⟩
  rw [← show op.name = k from parse?_eq_some.1 hop] at hv
  cases op with
  | like =>
    have he : ("$options", Json.string s) ∈ operatorDocument js :=
      (mem_operatorDocument hjs).2
        ⟨.like, v, hv, mem_operatorEntries.2 (Or.inr ⟨rfl, s, ho, rfl⟩)⟩
    obtain ⟨f, hf, hk, hsame⟩ := mem_of_forall₂_left (Json.sameEntries_iff.1 h) he
    obtain ⟨op', u, hu, hf⟩ := (mem_operatorDocument hjs').1 hf
    rcases mem_operatorEntries.1 hf with rfl | ⟨-, s', ho', rfl⟩
    · exact absurd hk.symm (document_ne_options op')
    · cases same_string hsame
      exact ho'
  | nlike =>
    obtain ⟨u, -, hsame⟩ := operator_of_same hjs hjs' h hv
    rw [← (patternEntries_of_same hsame).2, ho]
  | _ => cases hpat

/-- Every key of a map of operators is found in another with the same document. -/
theorem key_of_same {js js' : List (String × Json)}
    (hjs : Json.KeyOrdered js) (hjs' : Json.KeyOrdered js') (hm : OperatorMap js)
    (h : SameEntries (operatorDocument js) (operatorDocument js')) {k : String}
    {v : Json} (hv : (k, v) ∈ js) : ∃ u, (k, u) ∈ js' ∧ v.Same u := by
  rcases hm.takes _ hv with ⟨hk, s, hs⟩ | ⟨op, hop, -⟩
  · simp only at hk hs
    subst hk hs
    exact ⟨_, options_of_same hjs hjs' hm h hv, Json.same_refl _⟩
  · rw [← show op.name = k from parse?_eq_some.1 hop] at hv ⊢
    obtain ⟨u, hu, hsame⟩ := operator_of_same hjs hjs' h hv
    exact ⟨u, hu, storedOperand_same hsame⟩

/-- **Operators are kept.** Maps of operators with the same document are the same. -/
theorem operators_of_same {field : String} {js js' d d' : List (String × Json)}
    (hs : c.StoresAsIs field) (hjs : Json.KeyOrdered js) (hjs' : Json.KeyOrdered js')
    (hm : OperatorMap js) (hm' : OperatorMap js')
    (hd : translateOperators c field (scalars js) = .ok d)
    (hd' : translateOperators c field (scalars js') = .ok d') (h : SameEntries d d') :
    Where.same (scalars js) (scalars js') = true := by
  rw [translateOperators_asIs hs hm] at hd
  rw [translateOperators_asIs hs hm'] at hd'
  cases hd
  cases hd'
  have hjj : List.Forall₂ (Json.EntryRel Json.Same) js js' := by
    refine Json.forall₂_of_keyOrdered hjs hjs' (fun k v hv => key_of_same hjs hjs' hm h hv) ?_
    intro k u hu
    obtain ⟨v, hv, -⟩ := key_of_same hjs' hjs hm' (Json.sameEntries_symm h) hu
    exact ⟨v, hv⟩
  rw [whereSame_iff, scalars, scalars, List.forall₂_map_left_iff, List.forall₂_map_right_iff]
  exact hjj.imp fun _ _ he => he

/-! ## Predicates -/

/-- A predicate of the grammar with its keys in order, at whose fields operands are stored as they
are. -/
structure Where.Plain (c : Collection) (w : List (String × Operand)) : Prop where
  wellFormed : Where.WellFormed w
  ordered : (Where.toValue w).Ordered
  asIs : ∀ k x, Where.HasEntry w k x → Operator.parse? k = none → c.StoresAsIs k

theorem entriesToValue_eq_map (w : List (String × Operand)) :
    Where.entriesToValue w = w.map fun e => (e.1, e.2.toValue) := by
  induction w with
  | nil => rfl
  | cons e w ih => rw [Where.entriesToValue, ih, List.map_cons]

theorem listToValue_eq_map (ws : List (List (String × Operand))) :
    Where.listToValue ws = ws.map Where.toValue := by
  induction ws with
  | nil => rfl
  | cons w ws ih => rw [Where.listToValue, ih, List.map_cons, Where.toValue]

namespace Where.Plain

variable {w : List (String × Operand)}

theorem keyOrdered (h : Plain c w) : Json.KeyOrdered w := by
  have hes := (Json.ordered_object.1 h.ordered).1
  rw [entriesToValue_eq_map] at hes
  exact (Json.keyOrdered_map (g := fun e => (e.1, e.2.toValue)) fun _ => rfl).1 hes

theorem ordered_of_mem (h : Plain c w) {k : String} {x : Operand} (hx : (k, x) ∈ w) :
    x.toValue.Ordered := by
  refine (Json.ordered_object.1 h.ordered).2 (k, x.toValue) ?_
  rw [entriesToValue_eq_map]
  exact List.mem_map.2 ⟨_, hx, rfl⟩

theorem of_mem (h : Plain c w) {k : String} {x : Operand} (hx : (k, x) ∈ w) :
    isDollar k = false ∧ x.WellFormed k := by
  obtain ⟨hd, -, hw⟩ := wellFormed_iff.1 h.wellFormed _ hx
  exact ⟨hd, hw⟩

theorem of_list (h : Plain c w) {k : String} {ws : List (List (String × Operand))}
    (hx : (k, .list ws) ∈ w) : ∀ v ∈ ws, Plain c v := by
  intro v hv
  refine ⟨wellFormedList_iff.1 (h.of_mem hx).2.2 v hv, ?_, fun k' x' he => ?_⟩
  · have ho := Json.ordered_array.1 (h.ordered_of_mem hx)
    refine ho (Where.toValue v) ?_
    rw [listToValue_eq_map]
    exact List.mem_map.2 ⟨v, hv, rfl⟩
  · exact h.asIs k' x' (.inside hx hv he)

end Where.Plain

/-- What stands at a field is a map of operators, once an implicit equality is written out. -/
theorem normalized_field {key : String} {x : Operand} (hx : x.WellFormed key)
    (hp : Operator.parse? key = none) (ho : x.toValue.Ordered) :
    ∃ js, x.normalized key = .nested (scalars js) ∧ OperatorMap js ∧ Json.KeyOrdered js := by
  cases x with
  | scalar v =>
    refine ⟨[(Operator.eq.name, v)], by simp [Operand.normalized, hp, scalars],
      operatorMap_single hx.2, List.pairwise_singleton ..⟩
  | nested es =>
    obtain ⟨-, js, hm, rfl⟩ := hx
    simp only [Operand.toValue, entriesToValue_scalars] at ho
    exact ⟨js, rfl, hm, (Json.ordered_object.1 ho).1⟩
  | list ws =>
    obtain ⟨⟨op, hop, -⟩, -⟩ := hx
    rw [hp] at hop
    cases hop

/-- An operand is told by its document among those that may stand at the same key. -/
def Operand.Recoverable (c : Collection) (key : String) (x : Operand) : Prop :=
  ∀ ⦃w w' : List (String × Operand)⦄ ⦃y : Operand⦄ ⦃e f : String × Json⦄, Where.Plain c w →
    Where.Plain c w' → (key, x) ∈ w → (key, y) ∈ w' → translateMember c key x = .ok e →
      translateMember c key y = .ok f → e.2.Same f.2 →
        (x.normalized key).same (y.normalized key) = true

/-- At a field that stores its operands as they are, maps of operators are told apart. -/
theorem recoverable_field {key : String} (hp : Operator.parse? key = none) (x : Operand) :
    x.Recoverable c key := by
  intro w w' y e f hw hw' hx hy he hf hef
  have hs : c.StoresAsIs key := hw.asIs key x (.here hx) hp
  have hwx := (hw.of_mem hx).2
  have hwy := (hw'.of_mem hy).2
  obtain ⟨js, hjs, hm, hord⟩ := normalized_field hwx hp (hw.ordered_of_mem hx)
  obtain ⟨js', hjs', hm', hord'⟩ := normalized_field hwy hp (hw'.ordered_of_mem hy)
  rw [← translateMember_normalized hwx, hjs, translateMember_nested_eq_ok] at he
  rw [← translateMember_normalized hwy, hjs', translateMember_nested_eq_ok] at hf
  obtain ⟨-, d, hd, rfl⟩ := he
  obtain ⟨-, d', hd', rfl⟩ := hf
  rw [hjs, hjs']
  exact operators_of_same hs hord hord' hm hm' hd hd' hef

theorem translateEntries_eq_ok {w : List (String × Operand)} {d : List (String × Json)} :
    translateEntries c w = .ok d ↔ (∀ e ∈ w, isDollar e.1 = false) ∧
      List.Forall₂ (fun e f => translateMember c e.1 e.2 = .ok f) w d := by
  induction w generalizing d with
  | nil => cases d <;> simp [translateEntries]
  | cons e w ih =>
    obtain ⟨k, x⟩ := e
    rw [translateEntries_cons_eq_ok]
    simp only [ih, List.forall_mem_cons, List.forall₂_cons_left_iff]
    constructor
    · rintro ⟨hk, f, hf, rest, ⟨hw, hrest⟩, rfl⟩
      exact ⟨⟨hk, hw⟩, f, rest, hf, hrest, rfl⟩
    · rintro ⟨⟨hk, hw⟩, f, rest, hf, hrest, rfl⟩
      exact ⟨hk, f, hf, rest, ⟨hw, hrest⟩, rfl⟩

/-- Sorting the document of a predicate loses no entry. -/
theorem mem_document {w : List (String × Operand)} {d : List (String × Json)}
    (hw : Where.Plain c w) (hd : translateEntries c w = .ok d) {f : String × Json} :
    f ∈ Json.entriesOf d ↔ ∃ k x, (k, x) ∈ w ∧ translateMember c k x = .ok f := by
  have hall := (translateEntries_eq_ok.1 hd).2
  have hmem : ∀ {f}, f ∈ d ↔ ∃ k x, (k, x) ∈ w ∧ translateMember c k x = .ok f := by
    intro f
    constructor
    · intro hf
      obtain ⟨⟨k, x⟩, hx, hxf⟩ := mem_of_forall₂ hall hf
      exact ⟨k, x, hx, hxf⟩
    · rintro ⟨k, x, hx, hxf⟩
      obtain ⟨f', hf', hxf'⟩ := mem_of_forall₂_left hall hx
      rw [hxf] at hxf'
      exact Except.ok.inj hxf' ▸ hf'
  rw [← hmem]
  constructor
  · exact Json.mem_of_mem_entriesOf
  · intro hf
    refine (Json.mem_entriesOf fun p hp hk => ?_).2 hf
    obtain ⟨k, x, hx, hxf⟩ := hmem.1 hf
    obtain ⟨l, y, hy, hyp⟩ := hmem.1 hp
    rw [key_of_translateMember hxf, key_of_translateMember hyp] at hk
    obtain rfl := documentKey_inj (hw.of_mem hy).1 (hw.of_mem hx).1 hk
    rw [hw.keyOrdered.value_unique hy hx, hxf] at hyp
    exact (Except.ok.inj hyp).symm

/-- An entry of a predicate is found in another one with the same document. -/
theorem entry_of_same {w w' : List (String × Operand)} {d d' : List (String × Json)}
    (hw : Where.Plain c w) (hw' : Where.Plain c w') (hd : translateEntries c w = .ok d)
    (hd' : translateEntries c w' = .ok d')
    (h : SameEntries (Json.entriesOf d) (Json.entriesOf d')) {k : String} {x : Operand}
    (hx : (k, x) ∈ w) :
    ∃ y e f, (k, y) ∈ w' ∧ translateMember c k x = .ok e ∧ translateMember c k y = .ok f ∧
      e.2.Same f.2 := by
  obtain ⟨e, -, hxe⟩ := mem_of_forall₂_left (translateEntries_eq_ok.1 hd).2 hx
  have he : e ∈ Json.entriesOf d := (mem_document hw hd).2 ⟨k, x, hx, hxe⟩
  obtain ⟨f, hf, hkey, hef⟩ := mem_of_forall₂_left (Json.sameEntries_iff.1 h) he
  obtain ⟨l, y, hy, hyf⟩ := (mem_document hw' hd').1 hf
  rw [key_of_translateMember hxe, key_of_translateMember hyf] at hkey
  obtain rfl := documentKey_inj (hw.of_mem hx).1 (hw'.of_mem hy).1 hkey
  exact ⟨y, e, f, hy, hxe, hyf, hef⟩

/-- Predicates with the same document are the same in normal form, if each operand of one of them is
told by its document. -/
theorem same_of_recoverable {w w' : List (String × Operand)} {d d' : List (String × Json)}
    (hw : Where.Plain c w) (hw' : Where.Plain c w') (hrec : ∀ e ∈ w, e.2.Recoverable c e.1)
    (hd : translateEntries c w = .ok d) (hd' : translateEntries c w' = .ok d')
    (h : SameEntries (Json.entriesOf d) (Json.entriesOf d')) :
    Where.same (Where.normalized w) (Where.normalized w') = true := by
  have hord {w : List (String × Operand)} (hw : Json.KeyOrdered w) :
      Json.KeyOrdered (w.map fun e => (e.1, e.2.normalized e.1)) :=
    (Json.keyOrdered_map (g := fun e => (e.1, e.2.normalized e.1)) fun _ => rfl).2 hw
  rw [whereSame_iff, normalized_eq_map, normalized_eq_map]
  refine Json.forall₂_of_keyOrdered (hord hw.keyOrdered) (hord hw'.keyOrdered) ?_ ?_
  · intro k x' hx'
    obtain ⟨⟨l, x⟩, hx, heq⟩ := List.mem_map.1 hx'
    obtain ⟨rfl, rfl⟩ := Prod.mk.inj heq
    obtain ⟨y, e, f, hy, hxe, hyf, hef⟩ := entry_of_same hw hw' hd hd' h hx
    refine ⟨y.normalized l, List.mem_map.2 ⟨_, hy, rfl⟩, ?_⟩
    exact hrec _ hx hw hw' hx hy hxe hyf hef
  · intro k y' hy'
    obtain ⟨⟨l, y⟩, hy, heq⟩ := List.mem_map.1 hy'
    obtain ⟨rfl, rfl⟩ := Prod.mk.inj heq
    obtain ⟨x, -, -, hx, -⟩ := entry_of_same hw' hw hd' hd (Json.sameEntries_symm h) hy
    exact ⟨x.normalized l, List.mem_map.2 ⟨_, hx, rfl⟩⟩

theorem sameList_of_recoverable {ws vs : List (List (String × Operand))} {ds ds' : List Json}
    (hws : ∀ w ∈ ws, Where.Plain c w) (hvs : ∀ v ∈ vs, Where.Plain c v)
    (hrec : ∀ w ∈ ws, ∀ e ∈ w, e.2.Recoverable c e.1) (hds : translateList c ws = .ok ds)
    (hds' : translateList c vs = .ok ds') (h : List.Forall₂ Json.Same ds ds') :
    Where.sameList (Where.normalizedList ws) (Where.normalizedList vs) = true := by
  induction ws generalizing vs ds ds' with
  | nil =>
    simp only [translateList, Except.ok.injEq] at hds
    subst hds
    cases h
    cases vs with
    | nil => rfl
    | cons v vs =>
      obtain ⟨d, -, rest, -, hnil⟩ := translateList_cons_eq_ok.1 hds'
      cases hnil
  | cons w ws ih =>
    obtain ⟨d, hd, rest, hrest, rfl⟩ := translateList_cons_eq_ok.1 hds
    obtain ⟨hws₁, hws⟩ := List.forall_mem_cons.1 hws
    obtain ⟨hrec₁, hrec⟩ := List.forall_mem_cons.1 hrec
    cases vs with
    | nil =>
      simp only [translateList, Except.ok.injEq] at hds'
      subst hds'
      cases h
    | cons v vs =>
      obtain ⟨d', hd', rest', hrest', rfl⟩ := translateList_cons_eq_ok.1 hds'
      obtain ⟨hvs₁, hvs⟩ := List.forall_mem_cons.1 hvs
      obtain ⟨hdd, hrr⟩ := List.forall₂_cons.1 h
      simp only [Where.normalizedList, Where.sameList, Bool.and_eq_true]
      exact ⟨same_of_recoverable hws₁ hvs₁ hrec₁ hd hd' hdd, ih hws hvs hrec hrest hrest' hrr⟩

-- The induction is on the nesting of `and` and `or`; a field's operand ends it.
mutual
theorem recoverable : ∀ (x : Operand) (key : String), x.Recoverable c key
  | .scalar v, key => by
    cases hp : Operator.parse? key with
    | none => exact recoverable_field hp _
    | some op =>
      intro w w' y e f hw _ hx
      rw [(hw.of_mem hx).2.1] at hp
      cases hp
  | .nested es, key => by
    cases hp : Operator.parse? key with
    | none => exact recoverable_field hp _
    | some op =>
      intro w w' y e f hw _ hx
      rw [(hw.of_mem hx).2.1] at hp
      cases hp
  | .list ws, key => by
    intro w w' y e f hw hw' hx hy he hf hef
    obtain ⟨op, hop, -, ds, hds, rfl⟩ := translateMember_list_eq_ok.1 he
    obtain ⟨-, vs, rfl, -⟩ := (wellFormed_keyword hop).1 (hw'.of_mem hy).2
    obtain ⟨op', -, -, ds', hds', rfl⟩ := translateMember_list_eq_ok.1 hf
    exact sameList_of_recoverable (hw.of_list hx) (hw'.of_list hy) (recoverableList ws) hds hds'
      (Json.sameItems_iff.1 hef)
theorem recoverableEntries : ∀ w : List (String × Operand), ∀ e ∈ w, e.2.Recoverable c e.1
  | [] => by simp
  | (k, x) :: w => List.forall_mem_cons.2 ⟨recoverable x k, recoverableEntries w⟩
theorem recoverableList : ∀ ws : List (List (String × Operand)),
    ∀ w ∈ ws, ∀ e ∈ w, e.2.Recoverable c e.1
  | [] => by simp
  | w :: ws => List.forall_mem_cons.2 ⟨recoverableEntries w, recoverableList ws⟩
end

/-- **Nothing is lost.** Plain predicates with the same document are equivalent. -/
theorem equivalent_of_document {a b : Where} {d e : List (String × Json)} (ha : Where.Plain c a)
    (hb : Where.Plain c b) (hd : a.toDocument c = .ok d) (he : b.toDocument c = .ok e)
    (h : SameEntries d e) : a.equivalent b = true := by
  obtain ⟨_, hd', rfl⟩ := map_eq_ok.1 hd
  obtain ⟨_, he', rfl⟩ := map_eq_ok.1 he
  exact same_of_recoverable ha hb (recoverableEntries a) hd' he' h

/-! ## Parsed predicates -/

/-- A parsed predicate belongs to the grammar and is in order if its document is. -/
theorem wellFormed_ordered_of_parse {max : Nat} {v : Json} {w : Where}
    (h : Where.parse max v = .ok w) (hv : v.Ordered) :
    Where.WellFormed w ∧ w.toValue.Ordered := by
  cases v with
  | object es =>
    obtain ⟨hw, -, -, heq⟩ := parse_eq_ok.1 h
    exact ⟨hw, heq ▸ hv⟩
  | null =>
    simp only [Where.parse, Where.parseAt, Nat.not_lt_zero, if_false, Except.ok.injEq] at h
    subst h
    exact ⟨trivial, Json.ordered_object.2 ⟨Json.keyOrdered_nil, by simp [Where.entriesToValue]⟩⟩
  | _ => simp [Where.parse, Where.parseAt] at h

/-- **Faithful translation.** Equivalent predicates have documents that are the same, or are
refused for the same cause. If no field in them holds object ids or dates, predicates with documents
that are the same are equivalent. -/
theorem toDocument_faithful {m n : Nat} {v u : Json} {a b : Where} (hv : v.Ordered)
    (hu : u.Ordered) (ha : Where.parse m v = .ok a) (hb : Where.parse n u = .ok b) :
    (a.equivalent b = true → SameResult SameEntries (a.toDocument c) (b.toDocument c)) ∧
      ((∀ k x, Where.HasEntry a k x ∨ Where.HasEntry b k x → Operator.parse? k = none →
          c.StoresAsIs k) →
        ∀ d e, a.toDocument c = .ok d → b.toDocument c = .ok e → SameEntries d e →
          a.equivalent b = true) := by
  obtain ⟨hwa, hoa⟩ := wellFormed_ordered_of_parse ha hv
  obtain ⟨hwb, hob⟩ := wellFormed_ordered_of_parse hb hu
  refine ⟨toDocument_same hwa hwb, fun hs d e hd he hde => ?_⟩
  have hpa : Where.Plain c a := ⟨hwa, hoa, fun k x hx => hs k x (Or.inl hx)⟩
  have hpb : Where.Plain c b := ⟨hwb, hob, fun k x hx => hs k x (Or.inr hx)⟩
  exact equivalent_of_document hpa hpb hd he hde

/-- Two texts of one predicate: an implicit equality and one that is written out, zeros of both
signs, and options whose pattern is negated. -/
theorem toDocument_faithful_spellings :
    let c : Collection := { fields := [("_id", .string)] }
    ∃ v u a b,
      Json.read "\x7b\"z\":0.0,\"n\":\x7b\"nlike\":\"y\",\"options\":\"i\"\x7d\x7d" = .ok v ∧
      Json.read ("\x7b\"n\":\x7b\"options\":\"i\",\"nlike\":\"y\"\x7d,"
        ++ "\"z\":\x7b\"eq\":-0.0\x7d\x7d") = .ok u ∧
      Where.parse 0 v = .ok a ∧ Where.parse 0 u = .ok b ∧ a ≠ b ∧ a.equivalent b = true ∧
      SameResult SameEntries (a.toDocument c) (b.toDocument c) := by
  intro c
  have hs (k : String) : c.StoresAsIs k := by
    by_cases hk : k = "_id"
    · simp [c, Collection.StoresAsIs, Collection.typeOf, hk, Json.lookup]
    · simp [c, Collection.StoresAsIs, Collection.typeOf, hk, Json.lookup, Ne.symm hk]
  have hv : Json.read "\x7b\"z\":0.0,\"n\":\x7b\"nlike\":\"y\",\"options\":\"i\"\x7d\x7d" =
      .ok (.object [("n", .object [("nlike", .string "y"), ("options", .string "i")]),
        ("z", .number (.double Double.zero))]) := by decide +kernel
  have hu : Json.read ("\x7b\"n\":\x7b\"options\":\"i\",\"nlike\":\"y\"\x7d,"
      ++ "\"z\":\x7b\"eq\":-0.0\x7d\x7d") =
      .ok (.object [("n", .object [("nlike", .string "y"), ("options", .string "i")]),
        ("z", .object [("eq", .number (.double Double.zero.neg))])]) := by decide +kernel
  have ha : Where.parse 0 (.object [("n", .object [("nlike", .string "y"),
      ("options", .string "i")]), ("z", .number (.double Double.zero))]) =
      .ok [("n", .nested [("nlike", .scalar (.string "y")), ("options", .scalar (.string "i"))]),
        ("z", .scalar (.number (.double Double.zero)))] := by decide +kernel
  have hb : Where.parse 0 (.object [("n", .object [("nlike", .string "y"),
      ("options", .string "i")]), ("z", .object [("eq", .number (.double Double.zero.neg))])]) =
      .ok [("n", .nested [("nlike", .scalar (.string "y")), ("options", .scalar (.string "i"))]),
        ("z", .nested [("eq", .scalar (.number (.double Double.zero.neg)))])] := by decide +kernel
  have hd : Where.toDocument { fields := [("_id", .string)] }
      [("n", .nested [("nlike", .scalar (.string "y")), ("options", .scalar (.string "i"))]),
        ("z", .scalar (.number (.double Double.zero)))] =
      .ok [("n", .object [("$not", .object [("$options", .string "i"), ("$regex", .string "y")])]),
        ("z", .object [("$eq", .number (.double Double.zero))])] := by decide +kernel
  have he : Where.toDocument { fields := [("_id", .string)] }
      [("n", .nested [("nlike", .scalar (.string "y")), ("options", .scalar (.string "i"))]),
        ("z", .nested [("eq", .scalar (.number (.double Double.zero.neg)))])] =
      .ok [("n", .object [("$not", .object [("$options", .string "i"), ("$regex", .string "y")])]),
        ("z", .object [("$eq", .number (.double Double.zero.neg))])] := by decide +kernel
  have hfaithful := toDocument_faithful (c := c) (Json.ordered_of_read hv) (Json.ordered_of_read hu)
    ha hb
  have hequiv := hfaithful.2 (fun k _ _ _ => hs k) _ _ hd he (by decide +kernel)
  exact ⟨_, _, _, _, hv, hu, ha, hb, by decide +kernel, hequiv, hfaithful.1 hequiv⟩

/-- Zeros of both signs are equivalent operands, and the errors that refuse them quote them as they
are written. -/
theorem refusals_of_zeros_differ :
    let c : Collection := { fields := [("a", .objectId)] }
    ∃ a b e f, Where.parse 10 (.object [("a", .number (.double Double.zero))]) = .ok a ∧
      Where.parse 10 (.object [("a", .number (.double Double.zero.neg))]) = .ok b ∧
      a.equivalent b = true ∧ a.toDocument c = .error e ∧ b.toDocument c = .error f ∧
      e.message ≠ f.message := by
  refine ⟨[("a", .scalar (.number (.double Double.zero)))],
    [("a", .scalar (.number (.double Double.zero.neg)))],
    .notObjectId "a" (.number (.double Double.zero)),
    .notObjectId "a" (.number (.double Double.zero.neg)), ?_, ?_, ?_, ?_, ?_, ?_⟩ <;>
    decide +kernel

end RestKit.Query
