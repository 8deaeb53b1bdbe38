import RestKit.Proofs.Query.DollarFree
import RestKit.Proofs.Text.Blank
import RestKit.Query.Order
/-!
# Orders as texts

A plain name is one that an order text can spell: a word without commas that does not start with a
dollar sign. The names that are read from texts are plain (`plainName_of_parseTexts`), and an order
is read back from its rendering exactly if its names are (`parse_render_eq_ok`).
-/
namespace RestKit.Query

/-- A field name that an order text can spell. -/
structure PlainName (name : String) : Prop where
  word : Text.IsWord name
  comma : ',' ∉ name.toList
  dollar : isDollar name = false

instance (name : String) : Decidable (PlainName name) :=
  decidable_of_bool (decide (Text.IsWord name) && !name.toList.contains ',' && !isDollar name) <| by
    rw [Bool.and_eq_true, Bool.and_eq_true, decide_eq_true_iff]
    simp only [Bool.not_eq_true', List.contains_eq_mem, decide_eq_false_iff_not]
    exact ⟨fun ⟨⟨hword, hcomma⟩, hdollar⟩ => ⟨hword, hcomma, hdollar⟩,
      fun h => ⟨⟨h.word, h.comma⟩, h.dollar⟩⟩

variable {part s : String} {e : OrderEntry} {es : List OrderEntry} {xs : List Json}

/-! ## Names that are read -/

theorem plainName_of_parsePart (hcomma : ',' ∉ part.toList)
    (h : OrderEntry.parsePart part = .ok e) : PlainName e.field := by
  unfold OrderEntry.parsePart at h
  split at h
  · cases h
  · rename_i field rest hwords
    obtain ⟨hdollar, h⟩ := check_eq_ok.1 h
    have hfield : e.field = field := by
      cases rest with
      | nil => rw [← pure_eq_ok.1 h]
      | cons word rest =>
        obtain ⟨direction, -, h⟩ := bind_eq_ok.1 h
        cases rest with
        | nil => rw [← pure_eq_ok.1 h]
        | cons => cases h
    obtain ⟨hword, hchars⟩ := Text.isWord_of_mem_words (hwords ▸ List.mem_cons_self ..)
    rw [hfield]
    exact ⟨hword, fun hc => hcomma (hchars _ hc), rejectDollar_eq_ok.1 hdollar⟩

theorem plainName_of_parseText (h : Order.parseText s = .ok es) : ∀ e ∈ es, PlainName e.field := by
  intro e he
  obtain ⟨part, hpart, hparse⟩ := mem_of_forall₂ (mapM_eq_ok.1 h) he
  exact plainName_of_parsePart (Text.notMem_of_mem_splitOn (List.mem_filter.1 hpart).1) hparse

theorem plainName_of_parseTexts (h : Order.parseTexts xs = .ok es) :
    ∀ e ∈ es, PlainName e.field := by
  induction xs generalizing es with
  | nil =>
    cases h
    exact nofun
  | cons x xs ih =>
    cases x with
    | string s =>
      simp only [Order.parseTexts, bind_eq_ok, pure_eq_ok] at h
      obtain ⟨first, hfirst, rest, hrest, rfl⟩ := h
      exact List.forall_mem_append.2 ⟨plainName_of_parseText hfirst, ih hrest⟩
    | _ => cases h

/-- No field of an order that is read starts with a dollar sign, however the order is written. -/
theorem dollar_of_parseOrder {v : Json} (h : Order.parse v = .ok es) :
    ∀ e ∈ es, isDollar e.field = false := by
  intro e he
  cases v with
  | string s => exact (plainName_of_parseText h e he).dollar
  | array xs => exact (plainName_of_parseTexts h e he).dollar
  | object fields =>
    obtain ⟨⟨k, x⟩, -, hx⟩ := mem_of_forall₂ (mapM_eq_ok.1 h) he
    obtain ⟨hdollar, hx⟩ := check_eq_ok.1 hx
    cases x with
    | string s =>
      obtain ⟨d, -, hd⟩ := bind_eq_ok.1 hx
      rw [← pure_eq_ok.1 hd]
      exact rejectDollar_eq_ok.1 hdollar
    | _ => cases hx
  | null =>
    cases h
    cases he
  | _ => cases h

/-! ## Names that are read back -/

theorem parse_name (d : Direction) : Direction.parse d.name = .ok d := by
  cases d <;> rfl

theorem isWord_name (d : Direction) : Text.IsWord d.name := by
  cases d <;> decide

theorem parsePart_text (h : PlainName e.field) : OrderEntry.parsePart e.text = .ok e := by
  have hwords : Text.words e.text = [e.field, e.direction.name] :=
    Text.words_pair h.word (isWord_name e.direction)
  have hdollar : rejectDollar e.field = .ok () := rejectDollar_eq_ok.2 h.dollar
  simp only [OrderEntry.parsePart, hwords, hdollar, parse_name]
  rfl

/-- An entry with a plain name is read back from its text. -/
theorem parseText_text (h : PlainName e.field) : Order.parseText e.text = .ok [e] := by
  have hcomma : ',' ∉ e.text.toList := by
    have hname : ',' ∉ e.direction.name.toList := by cases e.direction <;> decide
    simp [OrderEntry.text, h.comma, hname]
  have hblank : Text.isBlankText e.text = false := by
    obtain ⟨c, hc⟩ := List.exists_mem_of_ne_nil _ (mt String.toList_eq_nil_iff.1 h.word.1)
    refine Bool.eq_false_iff.2 fun hall => ?_
    have hct : c ∈ e.text.toList := by simp [OrderEntry.text, hc]
    exact Bool.false_ne_true ((h.word.2 c hc).symm.trans (List.all_eq_true.1 hall c hct))
  rw [Order.parseText, Text.splitOn_of_notMem hcomma]
  simp [hblank, parsePart_text h]

/-- **Which orders survive.** An order is read back from its rendering exactly if every name is
plain. -/
theorem parse_render_eq_ok :
    Order.parse (Order.render es) = .ok es ↔ ∀ e ∈ es, PlainName e.field := by
  constructor
  · exact plainName_of_parseTexts
  · intro h
    rw [Order.render, Order.parse]
    induction es with
    | nil => rfl
    | cons e es ih =>
      obtain ⟨he, hes⟩ := List.forall_mem_cons.1 h
      rw [List.map_cons, Order.parseTexts, parseText_text he, ih hes]
      rfl

/-- **Orders and their texts.** An order is read back from its rendering exactly if every name is
plain, and no text or list of texts spells an order with another name. -/
theorem orders_read_back_iff_plain :
    (∀ es : List OrderEntry,
      Order.parse (Order.render es) = .ok es ↔ ∀ e ∈ es, PlainName e.field) ∧
    (∀ (s : String) (es : List OrderEntry),
      Order.parse (.string s) = .ok es → ∀ e ∈ es, PlainName e.field) ∧
    ∀ (texts : List String) (es : List OrderEntry),
      Order.parse (.array (texts.map .string)) = .ok es → ∀ e ∈ es, PlainName e.field := by
  refine ⟨fun es => parse_render_eq_ok, ?_, ?_⟩
  · intro s es h
    exact plainName_of_parseText h
  · intro texts es h
    exact plainName_of_parseTexts h

/-- A field with the name of a direction, names between blanks and empty parts, and a name that a
comma cuts in two. -/
theorem orders_read_back_iff_plain_direction :
    let es : List OrderEntry := [⟨"asc", .desc⟩, ⟨"name", .asc⟩]
    let cut : List OrderEntry := [⟨"a,b", .asc⟩]
    (Order.parse (Order.render es) = .ok es ↔ ∀ e ∈ es, PlainName e.field) ∧
    (Order.parse (Order.render cut) = .ok cut ↔ ∀ e ∈ cut, PlainName e.field) ∧
    (Order.parse (.string ",\tasc  DESC , name,") = .ok es ∧ ∀ e ∈ es, PlainName e.field) ∧
    Order.parse (.array (["asc desc,name", " "].map .string)) = .ok es ∧
      ∀ e ∈ es, PlainName e.field := by
  intro es cut
  obtain ⟨hrendered, htext, htexts⟩ := orders_read_back_iff_plain
  have hread : Order.parse (.string ",\tasc  DESC , name,") = .ok es := by decide +kernel
  have hreads : Order.parse (.array (["asc desc,name", " "].map .string)) = .ok es := by
    decide +kernel
  exact ⟨hrendered es, hrendered cut, ⟨hread, htext _ es hread⟩, hreads, htexts _ es hreads⟩

end RestKit.Query
