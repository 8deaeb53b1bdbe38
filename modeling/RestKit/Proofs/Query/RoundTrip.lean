import RestKit.Proofs.Json.Same
import RestKit.Proofs.Query.Grammar
/-!
# Rendering and parsing

`toValue_of_parse`: a predicate that was parsed is rendered as the object it came from, and the
rendering parses to it again. `parse_toValue_equivalent_iff`: a predicate of the grammar that was
not parsed survives the trip up to equivalence exactly if it is unambiguous, for a value that
looks like a map of operators is read back as one.
-/
namespace RestKit.Query

/-! ## Parsed predicates -/

/-- **Nothing is lost.** Rendering undoes parsing, and parsing the rendering gives the predicate
again. -/
theorem toValue_of_parse {max : Nat} {es : List (String × Json)} {w : Where}
    (h : Where.parse max (.object es) = .ok w) :
    w.toValue = .object es ∧ Where.parse max w.toValue = .ok w := by
  have hv : w.toValue = .object es := (parse_eq_ok.1 h).2.2.2
  exact ⟨hv, by rw [hv]; exact h⟩

/-- A document with a value, an embedded document, a map of operators and two levels of lists. -/
theorem toValue_of_parse_nested :
    let doc : List (String × Json) :=
      [("a", .object [("b", .nat 1)]),
        ("and", .array [.object [("or", .array [.object [("c", .null)], .object []])]]),
        ("n", .object [("like", .string "x"), ("options", .string "i")])]
    ∃ w, Where.parse 2 (.object doc) = .ok w ∧
      w.toValue = .object doc ∧ Where.parse 2 w.toValue = .ok w := by
  have h : Where.parse 2 (.object [("a", .object [("b", .nat 1)]),
      ("and", .array [.object [("or", .array [.object [("c", .null)], .object []])]]),
      ("n", .object [("like", .string "x"), ("options", .string "i")])]) =
        .ok [("a", .scalar (.object [("b", .nat 1)])),
          ("and", .list [[("or", .list [[("c", .scalar .null)], []])]]),
          ("n", .nested [("like", .scalar (.string "x")),
            ("options", .scalar (.string "i"))])] := by
    decide +kernel
  exact ⟨_, h, toValue_of_parse h⟩

/-! ## Other predicates of the grammar -/

mutual
theorem operandSame_refl : ∀ x : Operand, x.same x = true
  | .scalar v => by simp [Operand.same, Json.same_refl]
  | .nested es => by simpa [Operand.same] using whereSame_refl es
  | .list ws => by simpa [Operand.same] using whereSameList_refl ws
theorem whereSame_refl : ∀ w : List (String × Operand), Where.same w w = true
  | [] => rfl
  | (k, x) :: es => by simp [Where.same, operandSame_refl x, whereSame_refl es]
theorem whereSameList_refl : ∀ ws : List (List (String × Operand)), Where.sameList ws ws = true
  | [] => rfl
  | w :: ws => by simp [Where.sameList, whereSame_refl w, whereSameList_refl ws]
end

theorem equivalent_refl (w : Where) : w.equivalent w = true := whereSame_refl _

/-- A value that is rendered as a map of operators is deeper than its operands, so it is not the
operand of an equality in it. -/
theorem not_same_operators : ∀ js : List (String × Json),
    Where.same [(Operator.eq.name, .scalar (.object js))] (scalars js) = false
  | [] => rfl
  | [(k, j)] => by
    rw [Bool.eq_false_iff]
    intro h
    simp only [scalars, List.map_cons, List.map_nil, Where.same, Operand.same, Bool.and_true,
      Bool.and_eq_true] at h
    have hd := Json.depth_eq_of_same h.2
    simp only [Json.depth, Json.depthEntries] at hd
    omega
  | _ :: _ :: _ => by simp [scalars, Where.same]

mutual
/-- If two operands of a key are rendered alike and are the same in normal form, both are
unambiguous or none is. -/
theorem operandUnambiguous_of_same {key : String} : ∀ {x y : Operand},
    x.WellFormed key → y.WellFormed key → y.Unambiguous → x.toValue = y.toValue →
      (x.normalized key).same (y.normalized key) = true → x.Unambiguous
  | .nested _, _, _, _, _, _, _ => trivial
  | .scalar v, .scalar u, _, _, hu, hv, _ => by
    simp only [Operand.toValue] at hv
    subst hv
    exact hu
  -- the case that ambiguity is about: `v` was read back as the map of operators it looks like
  | .scalar v, .nested es, hx, ⟨_, js, _, hes⟩, _, hv, hs => by
    subst hes
    simp only [Operand.toValue, entriesToValue_scalars] at hv
    subst hv
    simp [Operand.normalized, hx.1, Operand.same, not_same_operators] at hs
  | .scalar _, .list _, hx, ⟨⟨op, hop, _⟩, _⟩, _, _, _ => by rw [hx.1] at hop; cases hop
  | .list _, .scalar _, ⟨⟨op, hop, _⟩, _⟩, hy, _, _, _ => by rw [hy.1] at hop; cases hop
  | .list _, .nested _, ⟨⟨op, hop, _⟩, _⟩, hy, _, _, _ => by rw [hy.1] at hop; cases hop
  | .list ws, .list vs, hx, hy, hu, hv, hs => by
    simp only [Operand.toValue, Json.array.injEq] at hv
    simp only [Operand.normalized, Operand.same] at hs
    exact unambiguousList_of_same hx.2 hy.2 hu hv hs
theorem unambiguous_of_same : ∀ {a b : List (String × Operand)},
    Where.WellFormed a → Where.WellFormed b → Where.Unambiguous b →
      Where.entriesToValue a = Where.entriesToValue b →
        Where.same (Where.normalized a) (Where.normalized b) = true → Where.Unambiguous a
  | [], _, _, _, _, _, _ => trivial
  | _ :: _, [], _, _, _, hv, _ => by simp [Where.entriesToValue] at hv
  | (k, x) :: a, (l, y) :: b, hx, hy, hu, hv, hs => by
    simp only [Where.entriesToValue, List.cons.injEq, Prod.mk.injEq] at hv
    simp only [Where.normalized, Where.same, Bool.and_eq_true] at hs
    obtain ⟨⟨rfl, hxy⟩, hab⟩ := hv
    exact ⟨operandUnambiguous_of_same hx.2.2.1 hy.2.2.1 hu.1 hxy hs.1.2,
      unambiguous_of_same hx.2.2.2 hy.2.2.2 hu.2 hab hs.2⟩
theorem unambiguousList_of_same : ∀ {as bs : List (List (String × Operand))},
    Where.WellFormedList as → Where.WellFormedList bs → Where.UnambiguousList bs →
      Where.listToValue as = Where.listToValue bs →
        Where.sameList (Where.normalizedList as) (Where.normalizedList bs) = true →
          Where.UnambiguousList as
  | [], _, _, _, _, _, _ => trivial
  | _ :: _, [], _, _, _, hv, _ => by simp [Where.listToValue] at hv
  | a :: as, b :: bs, ha, hb, hu, hv, hs => by
    simp only [Where.listToValue, List.cons.injEq, Json.object.injEq] at hv
    simp only [Where.normalizedList, Where.sameList, Bool.and_eq_true] at hs
    exact ⟨unambiguous_of_same ha.1 hb.1 hu.1 hv.1 hs.1,
      unambiguousList_of_same ha.2 hb.2 hu.2 hv.2 hs.2⟩
end

/-- **Which predicates survive.** With room for its levels, a predicate of the grammar is read
back as an equivalent one exactly if it is unambiguous. -/
theorem parse_toValue_equivalent_iff {max : Nat} {w : Where} (hw : Where.WellFormed w)
    (hn : Where.nesting w ≤ max) :
    (∃ v, Where.parse max w.toValue = .ok v ∧ w.equivalent v = true) ↔ Where.Unambiguous w := by
  constructor
  · rintro ⟨v, hp, hs⟩
    obtain ⟨hv, hu, -, hr⟩ := parse_eq_ok.1 hp
    simp only [Where.toValue, Json.object.injEq] at hr
    exact unambiguous_of_same hw hv hu hr.symm hs
  · intro hu
    exact ⟨w, parse_eq_ok.2 ⟨hw, hu, hn, rfl⟩, equivalent_refl w⟩

end RestKit.Query
