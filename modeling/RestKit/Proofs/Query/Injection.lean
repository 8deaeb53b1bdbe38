import RestKit.Proofs.Json.Entries
import RestKit.Proofs.Query.Grammar
import RestKit.Proofs.Query.Translation
/-!
# No operators from outside

`DocumentEntry c v` is the grammar of the documents that the store may be sent for the filter `v`.
It says where each value comes from: an operand is a value of `v` without dollar keys, or the
object id or date that a text or number of `v` stands for. So every dollar key in a document was
written by the translation (`adapterKey_of_documentEntry`), and `toDocument_parse_safe` says that a
parsed filter gives no other document.
-/
namespace RestKit.Query

variable {c : Collection} {v : Json}

/-! ## Documents for the store -/

/-- What a field may store for an operand of `v`. -/
inductive Stored (c : Collection) (v : Json) (field : String) : Json → Prop
  /-- A value as it stands, without dollar keys. -/
  | copied {j : Json} : j.Within v → DollarFree j → Stored c v field j
  | objectId {s : String} : (Json.string s).Within v → c.typeOf field = .objectId →
      isObjectId s = true → Stored c v field (.object [("$oid", .string (Text.asciiLower s))])
  | date {j : Json} {t : Time.Instant} : j.Within v → c.typeOf field = .date →
      instantOf j = some t → Stored c v field (.object [("$date", .string t.utcText)])

/-- A pattern or its options: a text of `v`. -/
def PatternEntry (v : Json) (e : String × Json) : Prop :=
  (e.1 = "$regex" ∨ e.1 = "$options") ∧ ∃ s, e.2 = .string s ∧ (Json.string s).Within v

/-- An entry of the document of a field. -/
inductive FieldEntry (c : Collection) (v : Json) (field : String) : String × Json → Prop
  | compare {op : Operator} {j : Json} : op.isComparison = true → Stored c v field j →
      FieldEntry c v field (op.document, j)
  | among {op : Operator} {xs : List Json} : op = .inq ∨ op = .nin →
      (∀ x ∈ xs, Stored c v field x) → FieldEntry c v field (op.document, .array xs)
  | pattern {e : String × Json} : PatternEntry v e → FieldEntry c v field e
  | notPattern {es : List (String × Json)} : (∀ e ∈ es, PatternEntry v e) →
      FieldEntry c v field (Operator.nlike.document, .object es)
  | exists (b : Bool) : FieldEntry c v field (Operator.exists.document, .bool b)

/-- An entry of a document: a field with the document of its operators, or a list of documents. -/
inductive DocumentEntry (c : Collection) (v : Json) : String × Json → Prop
  | field {name : String} {es : List (String × Json)} : isDollar name = false →
      Operator.parse? name = none → (∀ e ∈ es, FieldEntry c v name e) →
      DocumentEntry c v (name, .object es)
  | logical {op : Operator} {ds : List (List (String × Json))} : op.isLogical = true →
      (∀ d ∈ ds, ∀ e ∈ d, DocumentEntry c v e) →
      DocumentEntry c v (op.document, .array (ds.map .object))

/-- The dollar keys that the translation writes. -/
def AdapterKey (k : String) : Prop :=
  (∃ op : Operator, k = op.document) ∨ k = "$options" ∨ k = "$oid" ∨ k = "$date"

/-! ## Keys of documents -/

theorem adapterKey_of_stored {field k : String} {j : Json} (h : Stored c v field j)
    (hk : j.HasKey k) (hd : isDollar k = true) : AdapterKey k := by
  have hs {s : String} : ¬ (Json.string s).HasKey k := Json.not_hasKey_leaf rfl rfl
  cases h with
  | copied _ hf => rw [hf k hk] at hd; cases hd
  | objectId | date =>
    obtain ⟨e, he, hk⟩ := Json.hasKey_object.1 hk
    rw [List.mem_singleton.1 he] at hk
    rcases hk with rfl | hk
    · simp [AdapterKey]
    · exact absurd hk hs

theorem adapterKey_of_patternEntry {k : String} {e : String × Json} (h : PatternEntry v e)
    (hk : e.1 = k ∨ e.2.HasKey k) : AdapterKey k := by
  obtain ⟨hname, s, hs, -⟩ := h
  rw [hs] at hk
  rcases hk with rfl | hk
  · rcases hname with h | h
    · exact Or.inl ⟨.like, h⟩
    · exact Or.inr (Or.inl h)
  · exact absurd hk (Json.not_hasKey_leaf rfl rfl)

theorem adapterKey_of_fieldEntry {field k : String} {e : String × Json} (h : FieldEntry c v field e)
    (hk : e.1 = k ∨ e.2.HasKey k) (hd : isDollar k = true) : AdapterKey k := by
  cases h with
  | compare _ hj =>
    rcases hk with rfl | hk
    · exact Or.inl ⟨_, rfl⟩
    · exact adapterKey_of_stored hj hk hd
  | among _ hxs =>
    rcases hk with rfl | hk
    · exact Or.inl ⟨_, rfl⟩
    · obtain ⟨x, hx, hk⟩ := Json.hasKey_array.1 hk
      exact adapterKey_of_stored (hxs x hx) hk hd
  | pattern hp => exact adapterKey_of_patternEntry hp hk
  | notPattern hes =>
    rcases hk with rfl | hk
    · exact Or.inl ⟨.nlike, rfl⟩
    · obtain ⟨e, he, hk⟩ := Json.hasKey_object.1 hk
      exact adapterKey_of_patternEntry (hes e he) hk
  | «exists» b =>
    rcases hk with rfl | hk
    · exact Or.inl ⟨.exists, rfl⟩
    · exact absurd hk (Json.not_hasKey_leaf rfl rfl)

/-- Every dollar key of a document, at any depth, was written by the translation. -/
theorem adapterKey_of_documentEntry {k : String} {e : String × Json} (h : DocumentEntry c v e)
    (hk : e.1 = k ∨ e.2.HasKey k) (hd : isDollar k = true) : AdapterKey k := by
  induction h with
  | field hn _ hes =>
    rcases hk with rfl | hk
    · rw [hn] at hd; cases hd
    · obtain ⟨e, he, hk⟩ := Json.hasKey_object.1 hk
      exact adapterKey_of_fieldEntry (hes e he) hk hd
  | logical _ _ ih =>
    rcases hk with rfl | hk
    · exact Or.inl ⟨_, rfl⟩
    · obtain ⟨x, hx, hk⟩ := Json.hasKey_array.1 hk
      obtain ⟨d, hdm, rfl⟩ := List.mem_map.1 hx
      obtain ⟨e, he, hk⟩ := Json.hasKey_object.1 hk
      exact ih d hdm e he hk

/-! ## Documents of predicates -/

/-- An operand is stored as it stands or converted. -/
theorem stored_of_coerceOperand {field : String} {j k : Json}
    (h : coerceOperand c field j = .ok k) (hv : j.Within v) (hf : DollarFree j) :
    Stored c v field k := by
  rcases coerceOperand_eq_ok.1 h with ⟨rfl, rfl⟩ | ⟨ht, h⟩ | ⟨ht, h⟩ | ⟨-, -, rfl⟩
  · exact .copied hv hf
  · obtain ⟨s, rfl, hs, rfl⟩ := coerceObjectId_eq_ok.1 h
    exact .objectId hv ht hs
  · obtain ⟨t, hi, rfl⟩ := coerceDate_eq_ok.1 h
    exact .date hv ht hi
  · exact .copied hv hf

theorem patternEntry_of_mem {pattern : String} {options : Option String} {e : String × Json}
    (hp : (Json.string pattern).Within v)
    (ho : ∀ o, options = some o → (Json.string o).Within v)
    (he : e ∈ patternEntries (.string pattern) options) : PatternEntry v e := by
  rcases List.mem_append.1 he with he | he
  · obtain ⟨o, hopt, rfl⟩ := Option.map_eq_some_iff.1 (Option.mem_toList.1 he)
    exact ⟨Or.inr rfl, o, rfl, ho o hopt⟩
  · rw [List.mem_singleton.1 he]
    exact ⟨Or.inl rfl, pattern, rfl, hp⟩

/-- An operator on a value that it takes gives entries of the grammar. -/
theorem fieldEntry_of_translateOperator {field key : String} {options : Option String}
    {data : Json} {op : Operator} {es : List (String × Json)} (ht : op.Takes data)
    (hv : data.Within v) (hf : DollarFree data)
    (ho : ∀ o, options = some o → (Json.string o).Within v)
    (h : translateOperator c field key options data op = .ok es) :
    ∀ e ∈ es, FieldEntry c v field e := by
  rcases translateOperator_eq_ok.1 h with ⟨hop, j, hj, rfl⟩ | ⟨hop, xs, rfl, ys, hys, rfl⟩ |
    ⟨rfl, rfl⟩ | ⟨rfl, rfl⟩ | ⟨rfl, rfl⟩
  · simp only [List.mem_singleton, forall_eq]
    exact .compare hop (stored_of_coerceOperand hj hv hf)
  · simp only [List.mem_singleton, forall_eq]
    refine .among hop fun y hy => ?_
    obtain ⟨x, hx, hxy⟩ := mem_of_forall₂ hys hy
    have hxv : x.Within v := (Json.Within.item hx .refl).trans hv
    exact stored_of_coerceOperand hxy hxv (dollarFree_array.1 hf x hx)
  · obtain ⟨s, rfl⟩ := ht
    exact fun e he => .pattern (patternEntry_of_mem hv ho he)
  · obtain ⟨s, rfl⟩ := ht
    simp only [List.mem_singleton, forall_eq]
    exact .notPattern fun e he => patternEntry_of_mem hv ho he
  · obtain ⟨b, rfl⟩ := ht
    simp only [List.mem_singleton, forall_eq]
    exact .exists b

/-- The options beside a pattern are a text of the map. -/
theorem within_of_patternOptions {js : List (String × Json)} {o : String}
    (hv : ∀ e ∈ js, e.2.Within v) (h : patternOptions (scalars js) = some o) :
    (Json.string o).Within v := by
  unfold patternOptions at h
  split at h
  · rename_i s hs
    cases h
    obtain ⟨j, hj, hmem⟩ := mem_scalars.1 (Json.mem_of_lookup hs)
    cases hj
    exact hv _ hmem
  · cases h

theorem fieldEntry_of_translateOperators {field : String} {js d : List (String × Json)}
    (hm : OperatorMap js) (hv : ∀ e ∈ js, e.2.Within v)
    (h : translateOperators c field (scalars js) = .ok d) : ∀ e ∈ d, FieldEntry c v field e := by
  obtain ⟨ess, hess, rfl⟩ := translateOperators_eq_ok.1 h
  intro e he
  obtain ⟨es, hes, hmem⟩ := List.mem_flatten.1 (Json.mem_of_mem_entriesOf he)
  obtain ⟨⟨key, x⟩, hx, hxs⟩ := mem_of_forall₂ hess hes
  obtain ⟨data, rfl, hdata⟩ := mem_scalars.1 hx
  rcases translateEntry_eq_ok.1 hxs with ⟨-, rfl⟩ | ⟨op, _, hop, hx', hf, hes'⟩
  · cases hmem
  · cases hx'
    have ht : op.Takes data := by
      rcases hm.takes _ hdata with ⟨ho, -⟩ | ⟨op', hop', ht⟩
      · have hkey : key = optionsKey := ho
        rw [hkey, parse?_optionsKey] at hop
        cases hop
      · rw [hop] at hop'
        cases hop'
        exact ht
    exact fieldEntry_of_translateOperator ht (hv _ hdata) hf
      (fun o => within_of_patternOptions hv) hes' e hmem

mutual
/-- A predicate of the grammar whose operands stand in `v` gives entries of the document grammar.
The induction follows the nesting of `and` and `or`. -/
theorem documentEntry_of_translateEntries : ∀ {w : List (String × Operand)}
    {d : List (String × Json)}, Where.WellFormed w → (∀ e ∈ Where.entriesToValue w, e.2.Within v) →
      translateEntries c w = .ok d → ∀ e ∈ d, DocumentEntry c v e
  | [], d, _, _, h => by
    simp only [translateEntries, Except.ok.injEq] at h
    simp [← h]
  | (key, x) :: w, d, hw, hv, h => by
    obtain ⟨-, e, he, rest, hrest, rfl⟩ := translateEntries_cons_eq_ok.1 h
    simp only [Where.entriesToValue, List.forall_mem_cons] at hv
    refine List.forall_mem_cons.2 ⟨?_, documentEntry_of_translateEntries hw.2.2.2 hv.2 hrest⟩
    exact documentEntry_of_translateMember hw.1 hw.2.2.1 hv.1 he
theorem documentEntry_of_translateMember : ∀ {key : String} {x : Operand} {e : String × Json},
    isDollar key = false → x.WellFormed key → x.toValue.Within v →
      translateMember c key x = .ok e → DocumentEntry c v e
  | key, .scalar j, e, hk, hw, hv, h => by
    obtain ⟨hp, k, hj, rfl⟩ := translateMember_scalar_eq_ok.1 h
    refine .field hk hp ?_
    simp only [List.mem_singleton, forall_eq]
    exact .compare rfl (stored_of_coerceOperand hj hv hw.2)
  | key, .nested es, e, hk, hw, hv, h => by
    obtain ⟨hp, d, hd, rfl⟩ := translateMember_nested_eq_ok.1 h
    obtain ⟨-, js, hm, rfl⟩ := hw
    simp only [Operand.toValue, entriesToValue_scalars] at hv
    exact .field hk hp
      (fieldEntry_of_translateOperators hm (fun _ he => (Json.Within.member he .refl).trans hv) hd)
  | key, .list ws, e, hk, hw, hv, h => by
    obtain ⟨op, -, hl, ds, hds, rfl⟩ := translateMember_list_eq_ok.1 h
    have hin : ∀ x ∈ Where.listToValue ws, x.Within v :=
      fun x hx => (Json.Within.item hx .refl).trans hv
    obtain ⟨dss, rfl, hdss⟩ := documentEntry_of_translateList hw.2 hin hds
    exact .logical hl hdss
theorem documentEntry_of_translateList : ∀ {ws : List (List (String × Operand))} {ds : List Json},
    Where.WellFormedList ws → (∀ x ∈ Where.listToValue ws, x.Within v) →
      translateList c ws = .ok ds →
        ∃ dss : List (List (String × Json)), ds = dss.map .object ∧
          ∀ d ∈ dss, ∀ e ∈ d, DocumentEntry c v e
  | [], ds, _, _, h => by
    simp only [translateList, Except.ok.injEq] at h
    exact ⟨[], h.symm, by simp⟩
  | w :: ws, ds, hw, hv, h => by
    obtain ⟨d, hd, rest, hrest, rfl⟩ := translateList_cons_eq_ok.1 h
    simp only [Where.listToValue, List.forall_mem_cons] at hv
    obtain ⟨dss, rfl, hdss⟩ := documentEntry_of_translateList hw.2 hv.2 hrest
    have hin : ∀ e ∈ Where.entriesToValue w, e.2.Within v :=
      fun e he => (Json.Within.member he .refl).trans hv.1
    refine ⟨Json.entriesOf d :: dss, rfl, List.forall_mem_cons.2 ⟨fun e he => ?_, hdss⟩⟩
    exact documentEntry_of_translateEntries hw.1 hin hd e (Json.mem_of_mem_entriesOf he)
end

/-- The document of a predicate belongs to the document grammar of its rendering. -/
theorem documentEntry_of_toDocument {w : Where} {d : List (String × Json)}
    (hw : Where.WellFormed w) (hv : w.toValue.Within v) (h : w.toDocument c = .ok d) :
    ∀ e ∈ d, DocumentEntry c v e := by
  obtain ⟨es, hes, rfl⟩ := map_eq_ok.1 h
  have hin : ∀ e ∈ Where.entriesToValue w, e.2.Within v :=
    fun e he => (Json.Within.member he .refl).trans hv
  exact fun e he => documentEntry_of_translateEntries hw hin hes e (Json.mem_of_mem_entriesOf he)

/-! ## Parsed filters -/

/-- Only the section `where` changes the predicate of a filter. -/
theorem predicate_of_parseSection {max : Nat} {f g : Filter} {key : String} {value : Json}
    (h : f.parseSection max key value = .ok g) :
    g.predicate = f.predicate ∨
      key = "where" ∧ ∃ w, Where.parse max value = .ok w ∧ w ≠ [] ∧ g.predicate = some w := by
  unfold Filter.parseSection at h
  split at h
  · obtain ⟨w, hw, h⟩ := bind_eq_ok.1 h
    rw [pure_eq_ok] at h
    by_cases he : w.isEmpty = true
    · rw [if_pos he] at h
      exact Or.inl (by rw [h])
    · rw [if_neg he] at h
      refine Or.inr ⟨rfl, w, hw, by simpa using he, by rw [← h]⟩
  all_goals first
    | exact Or.inl (by rw [← Except.ok.inj h])
    | obtain ⟨_, -, h⟩ := bind_eq_ok.1 h; exact Or.inl (by rw [← pure_eq_ok.1 h])

theorem predicate_of_parseEntries {max : Nat} : ∀ {es : List (String × Json)} {f g : Filter},
    Filter.parseEntries max f es = .ok g →
      g.predicate = f.predicate ∨ ∃ value w, ("where", value) ∈ es ∧
        Where.parse max value = .ok w ∧ w ≠ [] ∧ g.predicate = some w
  | [], f, g, h => by
    simp only [Filter.parseEntries, Except.ok.injEq] at h
    exact Or.inl (by rw [h])
  | (k, value) :: es, f, g, h => by
    simp only [Filter.parseEntries] at h
    obtain ⟨-, h⟩ := check_eq_ok.1 h
    have hnext : ∃ f', Filter.parseEntries max f' es = .ok g ∧ (f'.predicate = f.predicate ∨
        k = "where" ∧ ∃ w, Where.parse max value = .ok w ∧ w ≠ [] ∧ f'.predicate = some w) := by
      split at h
      · obtain ⟨f', hf', h⟩ := bind_eq_ok.1 h
        obtain ⟨is, -, rfl⟩ := map_eq_ok.1 hf'
        exact ⟨_, h, Or.inl rfl⟩
      · obtain ⟨f', hf', h⟩ := bind_eq_ok.1 h
        exact ⟨f', h, predicate_of_parseSection hf'⟩
    obtain ⟨f', h, hstep⟩ := hnext
    rcases predicate_of_parseEntries h with hg | ⟨u, w, hu, hw⟩
    · rw [hg]
      rcases hstep with hf | ⟨rfl, w, hw⟩
      · exact Or.inl hf
      · exact Or.inr ⟨value, w, List.mem_cons_self .., hw⟩
    · exact Or.inr ⟨u, w, List.mem_cons_of_mem _ hu, hw⟩

/-- The predicate of a parsed filter belongs to the grammar and stands in the filter. -/
theorem wellFormed_of_parse {max : Nat} {f : Filter} {w : Where} (h : Filter.parse max v = .ok f)
    (hw : f.predicate = some w) : Where.WellFormed w ∧ w.toValue.Within v := by
  have he : ∃ es, v = .object es ∧ Filter.parseEntries max {} es = .ok f := by
    cases v with
    | object es => exact ⟨es, rfl, by simpa [Filter.parse] using h⟩
    | null =>
      simp only [Filter.parse, Except.ok.injEq] at h
      rw [← h] at hw
      cases hw
    | _ => simp [Filter.parse] at h
  obtain ⟨es, rfl, h⟩ := he
  rcases predicate_of_parseEntries h with hn | ⟨value, u, hmem, hp, hne, hu⟩
  · rw [hn] at hw
    cases hw
  · rw [hu] at hw
    cases hw
    cases value with
    | object js =>
      obtain ⟨hwf, -, -, hv⟩ := parse_eq_ok.1 hp
      rw [hv]
      exact ⟨hwf, .member hmem .refl⟩
    | null =>
      simp only [Where.parse, Where.parseAt, Nat.not_lt_zero, if_false, Except.ok.injEq] at hp
      exact absurd hp.symm hne
    | _ => simp [Where.parse, Where.parseAt] at hp

/-- A query that carries nothing of the filter document `v` but operands and names without a dollar
sign. -/
structure DocumentQuery.Safe (c : Collection) (v : Json) (f : Filter) (q : DocumentQuery) :
    Prop where
  filter : ∀ e ∈ q.filter, DocumentEntry c v e
  keys : ∀ k, (Json.object q.filter).HasKey k → isDollar k = true → AdapterKey k
  sort : ∀ e ∈ q.sort, isDollar e.1 = false
  fields : ∀ e ∈ f.fields, isDollar e.1 = false
  /-- The names of a projection that the filter does not ask for are the collection's. -/
  projection : ∀ p, q.projection = some p → ∀ e ∈ p,
    e ∈ f.fields ∨ e.1 ∈ c.alwaysIncluded ∨ e.1 ∈ c.banned ∨ e.1 = c.primaryKey

/-- **No operators from outside.** Whatever a filter document holds, a query made of it is safe. -/
theorem toDocument_parse_safe {max : Nat} {f : Filter} {q : DocumentQuery}
    (hf : Filter.parse max v = .ok f) (hq : f.toDocument c = .ok q) : q.Safe c v f := by
  obtain ⟨hd, ⟨horder, hsort⟩, hp, -, -⟩ := toDocument_eq_ok.1 hq
  have hfilter : ∀ e ∈ q.filter, DocumentEntry c v e := by
    unfold predicateDocument at hd
    split at hd
    · rename_i w hw
      obtain ⟨hwf, hv⟩ := wellFormed_of_parse hf hw
      exact documentEntry_of_toDocument hwf hv hd
    · simp [← Except.ok.inj hd]
  refine ⟨hfilter, ?_, ?_, (projectionOf_eq_ok.1 hp).2.1, ?_⟩
  · intro k hk hdollar
    obtain ⟨e, he, hk⟩ := Json.hasKey_object.1 hk
    exact adapterKey_of_documentEntry (hfilter e he) hk hdollar
  · rw [← hsort]
    intro e he
    obtain ⟨o, ho, rfl⟩ := List.mem_map.1 he
    exact horder o ho
  · intro p hsome e he
    exact mem_projectionOf (hsome ▸ hp) he

/-- A filter with an embedded document, an object id, a date, a pattern and a list. -/
theorem toDocument_parse_safe_sections :
    let c : Collection := { fields := [("at", .date)], banned := ["secret"] }
    let v : Json := .object [("fields", .object [("name", .bool true)]), ("order", .string "name"),
      ("where", .object [("_id", .string "0123456789ABCDEF01234567"),
        ("at", .object [("gt", .nat 1)]),
        ("name", .object [("like", .string "^a"), ("options", .string "i")]),
        ("or", .array [.object [("tag", .object [("k", .null)])]])])]
    ∃ f q, Filter.parse 1 v = .ok f ∧ f.toDocument c = .ok q ∧ q.Safe c v f := by
  intro c v
  have hf : Filter.parse 1 v = .ok
      { predicate := some [("_id", .scalar (.string "0123456789ABCDEF01234567")),
          ("at", .nested [("gt", .scalar (.nat 1))]),
          ("name", .nested [("like", .scalar (.string "^a")), ("options", .scalar (.string "i"))]),
          ("or", .list [[("tag", .scalar (.object [("k", .null)]))]])],
        fields := .ofPairs [("name", true)], order := [⟨"name", .asc⟩] } := by
    decide +kernel
  have hq : Filter.toDocument
      { predicate := some [("_id", .scalar (.string "0123456789ABCDEF01234567")),
          ("at", .nested [("gt", .scalar (.nat 1))]),
          ("name", .nested [("like", .scalar (.string "^a")), ("options", .scalar (.string "i"))]),
          ("or", .list [[("tag", .scalar (.object [("k", .null)]))]])],
        fields := .ofPairs [("name", true)], order := [⟨"name", .asc⟩] } c = .ok
      { filter := [("$or", .array [.object [("tag",
            .object [("$eq", .object [("k", .null)])])]]),
          ("_id", .object [("$eq", .object [("$oid", .string "0123456789abcdef01234567")])]),
          ("at", .object [("$gt", .object [("$date", .string "1970-01-01T00:00:01.000Z")])]),
          ("name", .object [("$options", .string "i"), ("$regex", .string "^a")])],
        sort := [("name", 1)], projection := some [("name", true)] } := by
    decide +kernel
  exact ⟨_, _, hf, hq, toDocument_parse_safe hf hq⟩

end RestKit.Query
