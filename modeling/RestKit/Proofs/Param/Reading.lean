import RestKit.Param.Declared
import RestKit.Proofs.Except
import RestKit.Proofs.Json.Entries
import Mathlib.Data.List.Induction
/-!
# Parameters are read one by one

`Param.Reads` has one rule for each way in which a parameter is read from a request. Reading all
declared parameters either reports exactly those that fail, or gives a set in which every entry is
of the last parameter of its place and name that has a value; and what one parameter gives depends
neither on the others nor on pairs of other names (`params_read_one_by_one`).
-/
namespace RestKit

variable {maxDepth : Nat} {raw raw' : RawParams} {p q : Param} {place : ParamPlace} {name : String}
  {v u : ParamValue} {r : Except String (Option ParamValue)}

/-! ## One parameter -/

/-- An empty text that stands for a flag: it is true where it stands. -/
structure Param.IsFlag (p : Param) (text : String) : Prop where
  empty : text = ""
  query : p.place = .query
  bool : p.type = .bool
  plain : p.parser = none

/-- No text, or a blank one that is no flag. -/
def Param.Absent (p : Param) (raw : RawParams) : Prop :=
  raw.text? p = .ok none ∨
    ∃ text, raw.text? p = .ok (some text) ∧ Text.isBlankText text = true ∧ ¬ p.IsFlag text

/-- The ways in which a parameter is read. -/
inductive Param.Reads (maxDepth : Nat) (raw : RawParams) (p : Param) :
    Except String (Option ParamValue) → Prop
  /-- A header that is no visible ASCII. -/
  | illegible {message : String} (htext : raw.text? p = .error message) :
    Reads maxDepth raw p (.error message)
  | flag {text : String} (htext : raw.text? p = .ok (some text)) (hflag : p.IsFlag text) :
    Reads maxDepth raw p (.ok (some (.bool true)))
  | missing (habsent : p.Absent raw) (hrequired : p.required = true) :
    Reads maxDepth raw p (.error "is required")
  | absent (habsent : p.Absent raw) (hoptional : p.required = false) :
    Reads maxDepth raw p (.ok none)
  | value {text : String} {v : ParamValue} (htext : raw.text? p = .ok (some text))
    (hblank : Text.isBlankText text = false) (hcoerce : p.coerce maxDepth text = .ok v) :
    Reads maxDepth raw p (.ok (some v))
  | malformed {text message : String} (htext : raw.text? p = .ok (some text))
    (hblank : Text.isBlankText text = false) (hcoerce : p.coerce maxDepth text = .error message) :
    Reads maxDepth raw p (.error message)

namespace Param

theorem isFlag_iff {text : String} :
    p.IsFlag text ↔
      (text.isEmpty && p.place == .query && p.type == .bool && p.parser.isNone) = true := by
  simp only [Bool.and_eq_true, String.isEmpty_iff, beq_iff_eq, Option.isNone_iff_eq_none]
  exact ⟨fun h => ⟨⟨⟨h.empty, h.query⟩, h.bool⟩, h.plain⟩, fun h => ⟨h.1.1.1, h.1.1.2, h.1.2, h.2⟩⟩

theorem IsFlag.blank {text : String} (h : p.IsFlag text) : Text.isBlankText text = true := by
  rw [h.empty]
  rfl

theorem read_of_illegible {message : String} (htext : raw.text? p = .error message) :
    p.read maxDepth raw = .error message := by
  rw [read, htext]
  rfl

theorem read_of_flag {text : String} (htext : raw.text? p = .ok (some text))
    (hflag : p.IsFlag text) : p.read maxDepth raw = .ok (some (.bool true)) := by
  rw [read, htext, ok_bind]
  dsimp only
  rw [if_pos (isFlag_iff.1 hflag)]
  rfl

theorem read_of_absent (habsent : p.Absent raw) :
    p.read maxDepth raw = if p.required then .error "is required" else .ok none := by
  rcases habsent with htext | ⟨text, htext, hblank, hflag⟩
  · rw [read, htext]
    rfl
  · rw [read, htext, ok_bind]
    dsimp only
    rw [if_neg (mt isFlag_iff.2 hflag), if_pos hblank]

theorem read_of_text {text : String} (htext : raw.text? p = .ok (some text))
    (hblank : Text.isBlankText text = false) :
    p.read maxDepth raw = (p.coerce maxDepth text).map some := by
  have hflag : ¬ p.IsFlag text := fun h => by simp [h.blank] at hblank
  rw [read, htext, ok_bind]
  dsimp only
  rw [if_neg (mt isFlag_iff.2 hflag), hblank, if_neg Bool.false_ne_true]
  cases p.coerce maxDepth text <;> rfl

/-- The rules say what is read. -/
theorem reads_iff : p.Reads maxDepth raw r ↔ p.read maxDepth raw = r := by
  constructor
  · intro h
    cases h with
    | illegible htext => exact read_of_illegible htext
    | flag htext hflag => exact read_of_flag htext hflag
    | missing habsent hrequired => rw [read_of_absent habsent, if_pos hrequired]
    | absent habsent hoptional =>
      rw [read_of_absent habsent, hoptional, if_neg Bool.false_ne_true]
    | value htext hblank hcoerce => rw [read_of_text htext hblank, hcoerce]; rfl
    | malformed htext hblank hcoerce => rw [read_of_text htext hblank, hcoerce]; rfl
  · rintro rfl
    have habsent (h : p.Absent raw) : p.Reads maxDepth raw (p.read maxDepth raw) := by
      rw [read_of_absent h]
      split
      · rename_i hrequired
        exact .missing h hrequired
      · rename_i hoptional
        exact .absent h (Bool.eq_false_iff.2 hoptional)
    cases htext : raw.text? p with
    | error message => rw [read_of_illegible htext]; exact .illegible htext
    | ok found =>
      cases found with
      | none => exact habsent (.inl htext)
      | some text =>
        cases hblank : Text.isBlankText text with
        | true =>
          by_cases hflag : p.IsFlag text
          · rw [read_of_flag htext hflag]
            exact .flag htext hflag
          · exact habsent (.inr ⟨text, htext, hblank, hflag⟩)
        | false =>
          rw [read_of_text htext hblank]
          cases hcoerce : p.coerce maxDepth text with
          | ok v => exact .value htext hblank hcoerce
          | error message => exact .malformed htext hblank hcoerce

/-- A parameter is read in one way only. -/
theorem Reads.unique {r' : Except String (Option ParamValue)} (h : p.Reads maxDepth raw r)
    (h' : p.Reads maxDepth raw r') : r = r' :=
  (reads_iff.1 h).symm.trans (reads_iff.1 h')

/-- A required parameter has a value unless it fails. -/
theorem Reads.some_of_required {v? : Option ParamValue} (h : p.Reads maxDepth raw (.ok v?))
    (hrequired : p.required = true) : ∃ v, v? = some v := by
  cases h with
  | absent habsent hoptional => simp [hrequired] at hoptional
  | flag | value => exact ⟨_, rfl⟩

end Param

/-! ## Types -/

/-- The type that a value is of; one that a parser of the parameter's own has made is of none. -/
def ParamValue.type? : ParamValue → Option ParamType
  | .string _ => some .string
  | .int _ => some .int
  | .float _ => some .float
  | .bool _ => some .bool
  | .date _ => some .date
  | .datetime .. => some .datetime
  | .objectId _ => some .objectId
  | .filter _ => some .filter
  | .predicate _ => some .predicate
  | .json _ => none

/-- A text that is read as a type gives a value of it. -/
theorem type?_of_coerce {type : ParamType} {text : String}
    (h : ParamValue.coerce maxDepth type text = .ok v) : v.type? = some type := by
  unfold ParamValue.coerce at h
  cases type with
  | string => cases h; rfl
  | _ =>
    dsimp only at h
    split at h <;> cases h
    rfl

/-- A value is of the declared type, unless the parameter has a parser of its own. -/
theorem Param.Reads.type?_eq (h : p.Reads maxDepth raw (.ok (some v))) (hparser : p.parser = none) :
    v.type? = some p.type := by
  cases h with
  | flag htext hflag => rw [hflag.bool]; rfl
  | value htext hblank hcoerce =>
    rw [Param.coerce, hparser] at hcoerce
    exact type?_of_coerce hcoerce

/-! ## The text of a parameter -/

/-- Two requests have the same pairs of a parameter's name, in the same order, at its place. -/
def RawParams.SameFor (p : Param) (raw raw' : RawParams) : Prop :=
  match p.place with
  | .path => raw.path.filter (·.1 = p.name) = raw'.path.filter (·.1 = p.name)
  | .query => raw.query.filter (·.1 = p.name) = raw'.query.filter (·.1 = p.name)
  | .header => raw.headers.filter (·.1 = Text.asciiLower p.name) =
      raw'.headers.filter (·.1 = Text.asciiLower p.name)

theorem lookup_filter {α : Type} (pairs : List (String × α)) (name : String) :
    (pairs.filter (·.1 = name)).lookup name = pairs.lookup name := by
  induction pairs with
  | nil => rfl
  | cons e rest ih =>
    by_cases h : e.1 = name
    · rw [List.filter_cons_of_pos (by simpa using h), ← h, List.lookup_cons_self,
        List.lookup_cons_self]
    · rw [List.filter_cons_of_neg (by simpa using h), ih, List.lookup_cons,
        beq_eq_false_iff_ne.2 (Ne.symm h)]

theorem lastValue?_filter (pairs : List (String × String)) (name : String) :
    lastValue? (pairs.filter (·.1 = name)) name = lastValue? pairs name := by
  rw [lastValue?, ← List.filter_reverse, lookup_filter, lastValue?]

/-- The last pair of a name counts. -/
theorem lastValue?_of_last {before after : List (String × String)} {text : String}
    (h : ∀ e ∈ after, e.1 ≠ name) :
    lastValue? (before ++ (name, text) :: after) name = some text := by
  have hafter : (after.filter (·.1 = name)) = [] := by simpa using h
  rw [← lastValue?_filter, List.filter_append, List.filter_cons_of_pos (by simp), hafter,
    lastValue?, List.reverse_append]
  simp

/-- Only the pairs of its name count for a parameter. -/
theorem RawParams.SameFor.text?_eq (h : raw.SameFor p raw') : raw'.text? p = raw.text? p := by
  unfold RawParams.SameFor at h
  unfold RawParams.text?
  cases hplace : p.place with
  | path =>
    rw [hplace] at h
    dsimp only at h ⊢
    rw [← lastValue?_filter, ← h, lastValue?_filter]
  | query =>
    rw [hplace] at h
    dsimp only at h ⊢
    rw [← lastValue?_filter, ← h, lastValue?_filter]
  | header =>
    rw [hplace] at h
    dsimp only [Http.Headers.first?] at h ⊢
    rw [← lookup_filter, ← h, lookup_filter]

theorem RawParams.SameFor.reads_iff (h : raw.SameFor p raw') :
    p.Reads maxDepth raw r ↔ p.Reads maxDepth raw' r := by
  rw [Param.reads_iff, Param.reads_iff, Param.read, Param.read, h.text?_eq]

/-! ## All parameters -/

/-- The parameter fails with a message. -/
def Param.FailsWith (maxDepth : Nat) (raw : RawParams) (p : Param) (message : String) : Prop :=
  p.Reads maxDepth raw (.error message)

/-- The parameter has a value under a name at a place. -/
structure Param.Gives (maxDepth : Nat) (raw : RawParams) (p : Param) (place : ParamPlace)
    (name : String) (v : ParamValue) : Prop where
  place : p.place = place
  name : p.name = name
  reads : p.Reads maxDepth raw (.ok (some v))

/-- The last of several parameters that has a value under a name at a place gives this one. -/
def LastGives (maxDepth : Nat) (raw : RawParams) (params : List Param) (place : ParamPlace)
    (name : String) (v : ParamValue) : Prop :=
  ∃ before p after, params = before ++ p :: after ∧ p.Gives maxDepth raw place name v ∧
    ∀ q ∈ after, ∀ u, ¬ q.Gives maxDepth raw place name u

theorem not_lastGives_nil : ¬ LastGives maxDepth raw [] place name v := by
  rintro ⟨before, p, after, heq, -⟩
  simp at heq

theorem lastGives_concat {params : List Param} :
    LastGives maxDepth raw (params ++ [p]) place name v ↔
      p.Gives maxDepth raw place name v ∨
        (∀ u, ¬ p.Gives maxDepth raw place name u) ∧
          LastGives maxDepth raw params place name v := by
  constructor
  · rintro ⟨before, q, after, heq, hgives, hlast⟩
    rcases List.eq_nil_or_concat after with rfl | ⟨after, p', rfl⟩
    · obtain ⟨-, h⟩ := List.append_inj' heq rfl
      cases h
      exact .inl hgives
    · rw [List.concat_eq_append] at heq hlast
      rw [← List.cons_append, ← List.append_assoc] at heq
      obtain ⟨rfl, h⟩ := List.append_inj' heq rfl
      cases h
      exact .inr ⟨hlast p (by simp), before, q, after, rfl, hgives,
        fun q' hq' => hlast q' (List.mem_append_left _ hq')⟩
  · rintro (hgives | ⟨hnot, before, q, after, rfl, hgives, hlast⟩)
    · exact ⟨params, p, [], rfl, hgives, nofun⟩
    · refine ⟨before, q, after ++ [p], by simp, hgives, fun q' hq' => ?_⟩
      rcases List.mem_append.1 hq' with hq' | hq'
      · exact hlast q' hq'
      · rw [List.mem_singleton.1 hq']
        exact hnot

/-- Where a parameter has a value, one is the last. -/
theorem exists_lastGives {params : List Param} (hp : p ∈ params)
    (hgives : p.Gives maxDepth raw place name v) :
    ∃ u, LastGives maxDepth raw params place name u := by
  induction params using List.reverseRecOn with
  | nil => cases hp
  | append_singleton params q ih =>
    by_cases hq : ∃ u, q.Gives maxDepth raw place name u
    · obtain ⟨u, hu⟩ := hq
      exact ⟨u, lastGives_concat.2 (.inl hu)⟩
    · rcases List.mem_append.1 hp with hp | hp
      · obtain ⟨u, hu⟩ := ih hp
        exact ⟨u, lastGives_concat.2 (.inr ⟨fun u hu => hq ⟨u, hu⟩, hu⟩)⟩
      · cases List.mem_singleton.1 hp
        exact absurd ⟨v, hgives⟩ hq

namespace ParamSet

variable {s : ParamSet}

theorem get?_insert {place' : ParamPlace} {name' : String} :
    (s.insert place' name' u).get? place name =
      if place' = place ∧ name' = name then some u else s.get? place name := by
  cases place' <;> cases place <;> simp [insert, get?, Json.lookup_insert]

theorem readInto_of_value (h : p.Reads maxDepth raw (.ok (some u))) :
    s.readInto maxDepth raw p = s.insert p.place p.name u := by
  rw [readInto, Param.reads_iff.1 h]

/-- A parameter without a value changes nothing. -/
theorem readInto_of_no_value (h : ∀ u, ¬ p.Reads maxDepth raw (.ok (some u))) :
    s.readInto maxDepth raw p = s := by
  unfold readInto
  split
  · rename_i u hread
    exact absurd (Param.reads_iff.2 hread) (h u)
  · rfl

/-- What the set holds under a name after one more parameter. -/
theorem get?_readInto :
    (s.readInto maxDepth raw p).get? place name = some v ↔
      p.Gives maxDepth raw place name v ∨
        (∀ u, ¬ p.Gives maxDepth raw place name u) ∧ s.get? place name = some v := by
  by_cases hvalue : ∃ u, p.Reads maxDepth raw (.ok (some u))
  · obtain ⟨u, hu⟩ := hvalue
    rw [readInto_of_value hu, get?_insert]
    split
    · rename_i hname
      have hgives : p.Gives maxDepth raw place name u := ⟨hname.1, hname.2, hu⟩
      constructor
      · rintro ⟨⟩
        exact .inl hgives
      · rintro (h | ⟨hnot, -⟩)
        · cases h.reads.unique hu
          rfl
        · exact absurd hgives (hnot u)
    · rename_i hname
      have hnot u' : ¬ p.Gives maxDepth raw place name u' := fun h => hname ⟨h.place, h.name⟩
      simp [hnot]
  · have hnot u' : ¬ p.Gives maxDepth raw place name u' := fun h => hvalue ⟨u', h.reads⟩
    rw [readInto_of_no_value fun u hu => hvalue ⟨u, hu⟩]
    simp [hnot]

/-- What the set holds under a name after all parameters. -/
theorem get?_foldl {params : List Param} :
    (params.foldl (readInto maxDepth raw) {}).get? place name = some v ↔
      LastGives maxDepth raw params place name v := by
  -- From the end of the list, since a later value replaces an earlier one.
  induction params using List.reverseRecOn with
  | nil =>
    refine iff_of_false ?_ not_lastGives_nil
    cases place <;> exact nofun
  | append_singleton params p ih => rw [List.foldl_concat, get?_readInto, lastGives_concat, ih]

end ParamSet

/-! ## Reports -/

/-- The entry of a failing parameter in an answer. -/
def Param.entry (p : Param) (message : String) : Json :=
  ParamIssue.toJson ⟨p.place, p.name, message⟩

/-- One entry for each parameter that fails, in the order of the parameters. -/
inductive Reported (maxDepth : Nat) (raw : RawParams) : List Param → List Json → Prop
  | nil : Reported maxDepth raw [] []
  | fails {p : Param} {message : String} {params : List Param} {entries : List Json}
    (hfails : p.FailsWith maxDepth raw message) (hrest : Reported maxDepth raw params entries) :
    Reported maxDepth raw (p :: params) (p.entry message :: entries)
  | reads {p : Param} {v? : Option ParamValue} {params : List Param} {entries : List Json}
    (hreads : p.Reads maxDepth raw (.ok v?)) (hrest : Reported maxDepth raw params entries) :
    Reported maxDepth raw (p :: params) entries

theorem Param.issue?_of_fails {message : String} (h : p.FailsWith maxDepth raw message) :
    p.issue? maxDepth raw = some ⟨p.place, p.name, message⟩ := by
  rw [issue?, reads_iff.1 h]

theorem Param.issue?_of_reads {v? : Option ParamValue} (h : p.Reads maxDepth raw (.ok v?)) :
    p.issue? maxDepth raw = none := by
  rw [issue?, reads_iff.1 h]

/-- A parameter fails or is read. -/
theorem Param.fails_or_reads (maxDepth : Nat) (raw : RawParams) (p : Param) :
    (∃ message, p.FailsWith maxDepth raw message) ∨ ∃ v?, p.Reads maxDepth raw (.ok v?) := by
  cases hread : p.read maxDepth raw with
  | error message => exact .inl ⟨message, reads_iff.2 hread⟩
  | ok v? => exact .inr ⟨v?, reads_iff.2 hread⟩

/-- Parameters have one report. -/
theorem Reported.unique {params : List Param} {entries entries' : List Json}
    (h : Reported maxDepth raw params entries) (h' : Reported maxDepth raw params entries') :
    entries = entries' := by
  induction h generalizing entries' with
  | nil => cases h'; rfl
  | fails hfails _ ih =>
    cases h' with
    | fails hfails' hrest =>
      cases hfails.unique hfails'
      rw [ih hrest]
    | reads hreads => cases hfails.unique hreads
  | reads hreads _ ih =>
    cases h' with
    | fails hfails => cases hreads.unique hfails
    | reads _ hrest => exact ih hrest

theorem reported_issues (maxDepth : Nat) (raw : RawParams) (params : List Param) :
    Reported maxDepth raw params
      ((params.filterMap (Param.issue? maxDepth raw)).map ParamIssue.toJson) := by
  induction params with
  | nil => exact .nil
  | cons p params ih =>
    rcases p.fails_or_reads maxDepth raw with ⟨message, h⟩ | ⟨v?, h⟩
    · rw [List.filterMap_cons_some (Param.issue?_of_fails h)]
      exact .fails h ih
    · rw [List.filterMap_cons_none (Param.issue?_of_reads h)]
      exact .reads h ih

/-- The issues are those of parameters that cannot be read. -/
theorem issues_isEmpty_iff {params : List Param} :
    (params.filterMap (Param.issue? maxDepth raw)).isEmpty = true ↔
      ∀ p ∈ params, ∃ v?, p.read maxDepth raw = .ok v? := by
  rw [List.isEmpty_iff, List.filterMap_eq_nil_iff]
  refine forall₂_congr fun p _ => ?_
  unfold Param.issue?
  cases p.read maxDepth raw <;> simp

namespace ParamSet

variable {params : List Param} {s : ParamSet}

theorem parse_eq_ok_iff :
    parse maxDepth params raw = .ok s ↔
      (∀ p ∈ params, ∃ v?, p.Reads maxDepth raw (.ok v?)) ∧
        params.foldl (readInto maxDepth raw) {} = s := by
  simp only [Param.reads_iff, ← issues_isEmpty_iff]
  unfold parse
  dsimp only
  split <;> rename_i h <;> simp [h]

theorem parse_eq_error_iff {e : ApiError} :
    parse maxDepth params raw = .error e ↔
      (∃ p ∈ params, ∃ message, p.FailsWith maxDepth raw message) ∧
        ∃ entries, Reported maxDepth raw params entries ∧ e = .paramErrors entries := by
  have hfails : (params.filterMap (Param.issue? maxDepth raw)).isEmpty = false ↔
      ∃ p ∈ params, ∃ message, p.FailsWith maxDepth raw message := by
    rw [← Bool.not_eq_true, issues_isEmpty_iff]
    push Not
    refine exists_congr fun p => and_congr_right fun _ => ?_
    simp only [Param.FailsWith, Param.reads_iff, exists_error_iff, not_exists]
  rw [← hfails]
  unfold parse
  dsimp only
  split <;> rename_i hissues
  · simp [hissues]
  · rw [Bool.not_eq_true] at hissues
    simp only [hissues, Except.error.injEq, true_and]
    constructor
    · rintro rfl
      exact ⟨_, reported_issues .., rfl⟩
    · rintro ⟨entries, hentries, rfl⟩
      rw [(reported_issues ..).unique hentries]

/-- Parameters are read, and make a set, or are reported. -/
theorem parse_isError_iff :
    (∃ e, parse maxDepth params raw = .error e) ↔
      ∃ p ∈ params, ∃ message, p.FailsWith maxDepth raw message := by
  constructor
  · rintro ⟨e, he⟩
    exact (parse_eq_error_iff.1 he).1
  · intro h
    exact ⟨_, parse_eq_error_iff.2 ⟨h, _, reported_issues .., rfl⟩⟩

/-- The set has what the last parameter of a place and name gives. -/
theorem get?_of_parse (h : parse maxDepth params raw = .ok s) :
    s.get? place name = some v ↔ LastGives maxDepth raw params place name v := by
  rw [← (parse_eq_ok_iff.1 h).2, get?_foldl]

/-- A required parameter has a value in the set, its own or that of a later one of its name. -/
theorem exists_entry_of_required (h : parse maxDepth params raw = .ok s) (hp : p ∈ params)
    (hrequired : p.required = true) : ∃ v, s.get? p.place p.name = some v := by
  obtain ⟨v?, hread⟩ := (parse_eq_ok_iff.1 h).1 p hp
  obtain ⟨v, rfl⟩ := hread.some_of_required hrequired
  obtain ⟨u, hu⟩ := exists_lastGives hp ⟨rfl, rfl, hread⟩
  exact ⟨u, (get?_of_parse h).2 hu⟩

end ParamSet

/-! ## One parameter alone -/

theorem lastGives_singleton :
    LastGives maxDepth raw [p] place name v ↔ p.Gives maxDepth raw place name v := by
  rw [← List.nil_append [p], lastGives_concat]
  simp [not_lastGives_nil]

theorem Param.entry_injective (p : Param) : Function.Injective p.entry := by
  intro message message' h
  have hentries (m : String) : p.entry m = .object [("location", .string p.place.name),
      ("message", .string m), ("name", .string p.name)] := by
    rfl
  simpa [hentries] using h

/-- What a parameter fails with is what the reading of it alone reports. -/
theorem Param.failsWith_iff_parse {message : String} :
    p.FailsWith maxDepth raw message ↔
      ParamSet.parse maxDepth [p] raw = .error (.paramErrors [p.entry message]) := by
  rw [ParamSet.parse_eq_error_iff]
  constructor
  · intro h
    exact ⟨⟨p, List.mem_singleton_self p, message, h⟩, _, .fails h .nil, rfl⟩
  · rintro ⟨⟨q, hq, message', hfails⟩, entries, hreported, heq⟩
    cases List.mem_singleton.1 hq
    cases hreported.unique (.fails hfails .nil)
    have hentry : p.entry message = p.entry message' := by
      simpa [ApiError.paramErrors] using heq
    rwa [p.entry_injective hentry]

/-- The value of a parameter is the one that the reading of it alone gives. -/
theorem Param.reads_iff_parse {v? : Option ParamValue} :
    p.Reads maxDepth raw (.ok v?) ↔
      ∃ s, ParamSet.parse maxDepth [p] raw = .ok s ∧ s.get? p.place p.name = v? := by
  have hget {s : ParamSet} (hs : ParamSet.parse maxDepth [p] raw = .ok s) (v : ParamValue) :
      s.get? p.place p.name = some v ↔ p.Reads maxDepth raw (.ok (some v)) := by
    rw [ParamSet.get?_of_parse hs, lastGives_singleton]
    exact ⟨fun h => h.reads, fun h => ⟨rfl, rfl, h⟩⟩
  have hvalue {s : ParamSet} {u? : Option ParamValue} (h : p.Reads maxDepth raw (.ok u?))
      (hs : ParamSet.parse maxDepth [p] raw = .ok s) : s.get? p.place p.name = u? := by
    cases u? with
    | some u => exact (hget hs u).2 h
    | none =>
      refine Option.eq_none_iff_forall_ne_some.2 fun u hu => ?_
      cases ((hget hs u).1 hu).unique h
  constructor
  · intro h
    obtain ⟨s, hs⟩ : ∃ s, ParamSet.parse maxDepth [p] raw = .ok s :=
      ⟨_, ParamSet.parse_eq_ok_iff.2 ⟨by simpa using ⟨v?, h⟩, rfl⟩⟩
    exact ⟨s, hs, hvalue h hs⟩
  · rintro ⟨s, hs, rfl⟩
    obtain ⟨u?, hu⟩ := (ParamSet.parse_eq_ok_iff.1 hs).1 p (List.mem_singleton_self p)
    rwa [hvalue hu hs]

/-! ## Main theorem -/

/-- What holds of the reading of declared parameters from a request. -/
structure ReadOneByOne (maxDepth : Nat) (params : List Param) (raw : RawParams) : Prop where
  /-- Reading fails if a parameter does. -/
  isError_iff : (∃ e, ParamSet.parse maxDepth params raw = .error e) ↔
    ∃ p ∈ params, ∃ message, p.FailsWith maxDepth raw message
  /-- All failures are reported, and nothing else. -/
  reported : ∀ e, ParamSet.parse maxDepth params raw = .error e →
    ∃ entries, e = .paramErrors entries ∧ Reported maxDepth raw params entries
  required : ∀ s, ParamSet.parse maxDepth params raw = .ok s →
    ∀ p ∈ params, p.required = true → ∃ v, s.get? p.place p.name = some v
  /-- The last value counts. -/
  get?_iff : ∀ s, ParamSet.parse maxDepth params raw = .ok s → ∀ place name v,
    s.get? place name = some v ↔ LastGives maxDepth raw params place name v
  typed : ∀ (p : Param) (v : ParamValue), p.Reads maxDepth raw (.ok (some v)) → p.parser = none →
    v.type? = some p.type
  /-- The last pair of a name counts. -/
  lastPair : ∀ (p : Param) before text after, p.place = .query →
    raw.query = before ++ (p.name, text) :: after → (∀ e ∈ after, e.1 ≠ p.name) →
    raw.text? p = .ok (some text)
  /-- Pairs of other names do not count. -/
  ownPairs : ∀ (p : Param) raw' r, raw.SameFor p raw' →
    (p.Reads maxDepth raw r ↔ p.Reads maxDepth raw' r)
  /-- Other parameters do not count. -/
  alone : ∀ p : Param,
    (∀ message, p.FailsWith maxDepth raw message ↔
      ParamSet.parse maxDepth [p] raw = .error (.paramErrors [p.entry message])) ∧
    ∀ v?, p.Reads maxDepth raw (.ok v?) ↔
      ∃ s, ParamSet.parse maxDepth [p] raw = .ok s ∧ s.get? p.place p.name = v?

theorem params_read_one_by_one (maxDepth : Nat) (params : List Param) (raw : RawParams) :
    ReadOneByOne maxDepth params raw where
  isError_iff := ParamSet.parse_isError_iff
  reported e he := by
    obtain ⟨-, entries, hreported, rfl⟩ := ParamSet.parse_eq_error_iff.1 he
    exact ⟨entries, rfl, hreported⟩
  required _ hs _ hp hrequired := ParamSet.exists_entry_of_required hs hp hrequired
  get?_iff _ hs _ _ _ := ParamSet.get?_of_parse hs
  typed _ _ h hparser := h.type?_eq hparser
  lastPair p before text after hplace hquery hafter := by
    rw [RawParams.text?, hplace]
    dsimp only
    rw [hquery, lastValue?_of_last hafter]
  ownPairs _ _ _ h := h.reads_iff
  alone _ := ⟨fun _ => Param.failsWith_iff_parse, fun _ => Param.reads_iff_parse⟩

end RestKit
