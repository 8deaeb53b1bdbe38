import RestKit.Proofs.Query.Refused
import RestKit.Proofs.Query.Strict
/-!
# Canonical predicates

`Where.normalized` writes implicit equalities out, at every level of `and` and `or`, and leaves maps
of operators as they are. Its entries are entries of the predicate, each in normal form, so that of
a predicate of the grammar no implicit equality is left (`isExplicit_normalized`). It keeps the
grammar and the levels, and what it writes is a map of operators for any value without dollar keys
(`wellFormed_normalized`). So the normal form of a predicate that was read is read back as it is,
and is the one explicit predicate that is equivalent to it (`normalized_canonical`).
-/
namespace RestKit.Query

open Where

variable {w u : List (String × Operand)} {ws : List (List (String × Operand))} {x : Operand}
  {key : String} {max : Nat} {v : Json}

/-! ## Entries of normal forms -/

/-- No entry at any level of lists is an implicit equality. -/
def Where.IsExplicit (w : Where) : Prop := ∀ k v, ¬ Where.HasEntry w k (.scalar v)

/-- The entries of a normal form, at every level, are entries of the predicate in normal form. -/
theorem exists_of_hasEntry_normalized (h : Where.HasEntry (normalized w) key x) :
    ∃ y, Where.HasEntry w key y ∧ y.normalized key = x := by
  generalize hu : normalized w = u at h
  induction h generalizing w with
  | here hmem =>
    rw [← hu, normalized_eq_map] at hmem
    obtain ⟨⟨k, y⟩, hy, heq⟩ := List.mem_map.1 hmem
    cases heq
    exact ⟨y, .here hy, rfl⟩
  | inside hlist hv _ ih =>
    rw [← hu, normalized_eq_map] at hlist
    obtain ⟨⟨k, y⟩, hy, heq⟩ := List.mem_map.1 hlist
    -- only a list of predicates has a list as its normal form
    cases y with
    | list us =>
      simp only [Operand.normalized, normalizedList_eq_map, Prod.mk.injEq,
        Operand.list.injEq] at heq
      obtain ⟨rfl, rfl⟩ := heq
      obtain ⟨v', hv', rfl⟩ := List.mem_map.1 hv
      obtain ⟨y', hentry, hyx⟩ := ih rfl
      exact ⟨y', .inside hy hv' hentry, hyx⟩
    | scalar v =>
      simp only [Operand.normalized, Prod.mk.injEq] at heq
      obtain ⟨-, heq⟩ := heq
      split at heq
      · cases heq
      · cases heq
    | nested es => cases heq

/-- The grammar of a predicate is that of its entries at every level. -/
theorem wellFormed_of_hasEntry (h : Where.HasEntry w key x) (hw : WellFormed w) :
    x.WellFormed key := by
  induction h with
  | here hmem => exact (wellFormed_iff.1 hw _ hmem).2.2
  | inside hlist hv _ ih => exact ih (wellFormedList_iff.1 (wellFormed_iff.1 hw _ hlist).2.2.2 _ hv)

/-- **Nothing implicit is left** by the normal form of a predicate of the grammar. -/
theorem isExplicit_normalized (hw : WellFormed w) : IsExplicit (normalized w) := by
  intro k v h
  obtain ⟨y, hy, heq⟩ := exists_of_hasEntry_normalized h
  cases y with
  | scalar v' =>
    have hfield : Operator.parse? k = none := (wellFormed_of_hasEntry hy hw).1
    simp [Operand.normalized, hfield] at heq
  | nested es => cases heq
  | list ws => cases heq

/-! ## Explicit predicates -/

theorem isExplicit_cons :
    IsExplicit ((key, x) :: w) ↔
      (∀ v, x ≠ .scalar v) ∧ (∀ ws, x = .list ws → ∀ u ∈ ws, IsExplicit u) ∧ IsExplicit w := by
  constructor
  · intro h
    refine ⟨?_, ?_, ?_⟩
    · rintro v rfl
      exact h key v (.here (List.mem_cons_self ..))
    · rintro ws rfl u hu k v hk
      exact h k v (.inside (List.mem_cons_self ..) hu hk)
    · intro k v hk
      exact h k v (hasEntry_cons hk)
  · rintro ⟨hscalar, hlist, hw⟩ k v hk
    cases hk with
    | here hmem =>
      rcases List.mem_cons.1 hmem with heq | hmem
      · cases heq
        exact hscalar v rfl
      · exact hw k v (.here hmem)
    | inside hmem hu hk =>
      rcases List.mem_cons.1 hmem with heq | hmem
      · cases heq
        exact hlist _ rfl _ hu k v hk
      · exact hw k v (.inside hmem hu hk)

mutual
/-- An explicit predicate is its own normal form. -/
theorem normalized_of_isExplicit : ∀ {w : List (String × Operand)}, IsExplicit w → normalized w = w
  | [], _ => rfl
  | (_, .scalar v) :: _, h => absurd rfl ((isExplicit_cons.1 h).1 v)
  | (_, .nested _) :: w, h => by
    obtain ⟨-, -, hw⟩ := isExplicit_cons.1 h
    rw [normalized, normalized_of_isExplicit hw, Operand.normalized]
  | (_, .list ws) :: w, h => by
    obtain ⟨-, hlist, hw⟩ := isExplicit_cons.1 h
    rw [normalized, normalized_of_isExplicit hw, Operand.normalized,
      normalizedList_of_isExplicit (hlist ws rfl)]
theorem normalizedList_of_isExplicit : ∀ {ws : List (List (String × Operand))},
    (∀ w ∈ ws, IsExplicit w) → normalizedList ws = ws
  | [], _ => rfl
  | w :: ws, h => by
    obtain ⟨hw, hws⟩ := List.forall_mem_cons.1 h
    rw [normalizedList, normalized_of_isExplicit hw, normalizedList_of_isExplicit hws]
end

/-! ## The grammar of normal forms -/

-- What is written out is a map with one operator, which takes any value without dollar keys, and
-- nothing in the value itself is looked at: so the induction stops there.
mutual
theorem operandWellFormed_normalized : ∀ {key : String} {x : Operand}, x.WellFormed key →
    (x.normalized key).WellFormed key ∧ (x.normalized key).Unambiguous ∧
      (x.normalized key).nesting = x.nesting
  | _, .scalar v, h => by
    have hmap : OperatorMap [(Operator.eq.name, v)] := operatorMap_single h.2
    simp only [Operand.normalized, h.1, Option.isNone_none, if_true]
    exact ⟨⟨h.1, _, hmap, rfl⟩, trivial, rfl⟩
  | _, .nested _, h => ⟨h, trivial, rfl⟩
  | _, .list ws, h => by
    obtain ⟨hws, hplain, hnesting⟩ := wellFormedList_normalized h.2
    exact ⟨⟨h.1, hws⟩, hplain, hnesting⟩
/-- A predicate of the grammar has a normal form of the grammar, which is unambiguous and nested as
deep. -/
theorem wellFormed_normalized : ∀ {w : List (String × Operand)}, WellFormed w →
    WellFormed (normalized w) ∧ Unambiguous (normalized w) ∧ nesting (normalized w) = nesting w
  | [], _ => ⟨trivial, trivial, rfl⟩
  | (k, x) :: w, h => by
    obtain ⟨hdollar, hne, hx, hw⟩ := h
    obtain ⟨hx', hplain, hnesting⟩ := operandWellFormed_normalized hx
    obtain ⟨hw', hplain', hnesting'⟩ := wellFormed_normalized hw
    refine ⟨⟨hdollar, hne, hx', hw'⟩, ⟨hplain, hplain'⟩, ?_⟩
    simp only [normalized, nesting, hnesting, hnesting']
theorem wellFormedList_normalized : ∀ {ws : List (List (String × Operand))}, WellFormedList ws →
    WellFormedList (normalizedList ws) ∧ UnambiguousList (normalizedList ws) ∧
      nestingList (normalizedList ws) = nestingList ws
  | [], _ => ⟨trivial, trivial, rfl⟩
  | w :: ws, h => by
    obtain ⟨hw, hplain, hnesting⟩ := wellFormed_normalized h.1
    obtain ⟨hws, hplain', hnesting'⟩ := wellFormedList_normalized h.2
    refine ⟨⟨hw, hws⟩, ⟨hplain, hplain'⟩, ?_⟩
    simp only [normalizedList, nestingList, hnesting, hnesting']
end

/-- What is read from a document, `null` included, belongs to the grammar and has room. -/
theorem wellFormed_of_read (h : Where.parse max v = .ok w) : WellFormed w ∧ nesting w ≤ max := by
  cases v with
  | object es =>
    obtain ⟨hw, -, hn, -⟩ := parse_eq_ok.1 h
    exact ⟨hw, hn⟩
  | null =>
    simp only [Where.parse, Where.parseAt, Nat.not_lt_zero, if_false, Except.ok.injEq] at h
    rw [← h]
    exact ⟨trivial, Nat.zero_le max⟩
  | _ => simp [Where.parse, Where.parseAt] at h

/-- **The normal form is canonical.** Of a predicate that was read it is its own normal form, is
equivalent to the predicate, has no implicit equality at any level, and is read back as it is with
the same room for levels; and an explicit predicate is equivalent exactly if it is the same as the
normal form. -/
theorem normalized_canonical {max : Nat} {v : Json} {w : Where}
    (h : Where.parse max v = .ok w) :
    normalized (normalized w) = normalized w ∧
      equivalent (normalized w) w = true ∧
      IsExplicit (normalized w) ∧
      Where.parse max (toValue (normalized w)) = .ok (normalized w) ∧
      ∀ u : Where, u.IsExplicit → (w.equivalent u = true ↔ same (normalized w) u = true) := by
  obtain ⟨hw, hn⟩ := wellFormed_of_read h
  obtain ⟨hgrammar, hplain, hnesting⟩ := wellFormed_normalized hw
  refine ⟨normalized_normalized w, ?_, isExplicit_normalized hw, ?_, fun u hu => ?_⟩
  · exact (interchangeable_normalized hw).1
  · rw [← hnesting] at hn
    exact parse_eq_ok.2 ⟨hgrammar, hplain, hn, rfl⟩
  · rw [equivalent, normalized_of_isExplicit hu]

/-- A value, an embedded document, a map of operators and a list in a list. -/
theorem normalized_canonical_nested :
    let doc : Json := .object
      [("a", .object [("b", .nat 1)]),
        ("n", .object [("like", .string "x"), ("options", .string "i")]),
        ("or", .array [.object [("and", .array [.object [("c", .null)], .object []])]])]
    ∃ w, Where.parse 2 doc = .ok w ∧ normalized w ≠ w ∧
      normalized (normalized w) = normalized w ∧
      equivalent (normalized w) w = true ∧
      IsExplicit (normalized w) ∧
      Where.parse 2 (toValue (normalized w)) = .ok (normalized w) ∧
      ∀ u : Where, u.IsExplicit → (w.equivalent u = true ↔ same (normalized w) u = true) := by
  intro doc
  have h : Where.parse 2 doc =
      .ok [("a", .scalar (.object [("b", .nat 1)])),
        ("n", .nested [("like", .scalar (.string "x")), ("options", .scalar (.string "i"))]),
        ("or", .list [[("and", .list [[("c", .scalar .null)], []])]])] := by
    decide +kernel
  exact ⟨_, h, by decide +kernel, normalized_canonical h⟩

end RestKit.Query
