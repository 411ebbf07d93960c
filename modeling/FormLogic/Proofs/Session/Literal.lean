import FormLogic.Proofs.Formula.Day
import FormLogic.Proofs.Session.Start

/-!
# FormLogic.Proofs.Session.Literal

Defaults that are literals.

* `fillDefaults_constant`: a default that reads no field is filled in wherever it stands;
* `value_evaluateDefault`: it is what its text has as its value, or else the text itself;
* `TypedValue.survives`: whether a value is still denoted by what its literal evaluates to;
* `literalDefault_kept`: a field holds the value of its literal exactly if the value survives;
* `literalDefault_lost`: a day is subtracted, and a long integer is rounded.
-/

namespace FormLogic

open Formula Number Text

/-! ## Defaults that read no field -/

namespace Form

variable {form : Form} {names : List String} {keyword : String} {values given : Dict String}
  {f : Field}

/-- A default that yields the same for all values is filled in, unless there is a value already. -/
theorem fillDefaults_constant (hnodup : names.Nodup) (hin : keyword ∈ names) {w : Option String}
    (hconstant : ∀ values, form.defaultOf keyword values = w) :
    (form.fillDefaults names values).value[keyword]? = values[keyword]?.or w := by
  induction names generalizing values with
  | nil => cases hin
  | cons name names ih =>
    obtain ⟨hname, hnodup⟩ := List.nodup_cons.1 hnodup
    rw [fillDefaults_cons]
    by_cases hk : keyword = name
    · subst hk
      rw [fillDefaults_frame hname, Dict.getElem?_fill, if_pos rfl, hconstant]
    · rw [ih hnodup ((List.mem_cons.1 hin).resolve_left hk), Dict.fill_frame hk]

/-- In a first state a field holds what such a default yields, if nothing else is there for it. -/
theorem WellKeyed.values_start_constant (h : form.WellKeyed) (hf : f ∈ form.fields)
    (hgiven : given[f.keyword]? = none) (hselected : f.selected? = none)
    (hdefault : f.defaultText?.isSome) (hreads : f.defaultReferences = []) :
    (form.start given).value.values[f.keyword]? = (f.evaluateDefault given).value := by
  have hconstant : ∀ values, form.defaultOf f.keyword values = (f.evaluateDefault given).value := by
    intro values
    rw [defaultOf, field?_eq_some h.unique hf, Option.bind_some]
    exact f.evaluateDefault_congr (by simp [hreads])
  have hnodup : form.defaults.order.Nodup := by
    rw [h.defaults]
    exact Edges.order_nodup.sublist List.filter_sublist
  rw [values_start_eq, fillDefaults_constant hnodup (h.mem_order ⟨f, hf, rfl, hdefault⟩) hconstant,
    getElem?_foldl_fillSelected, hgiven, Option.none_or]
  have hnone := selectedOf_keyword h.unique hf
  rw [selectedOf, hselected] at hnone
  rw [hnone, Option.none_or]

end Form

/-- A default without references yields its value as a formula, or else its text. -/
theorem Field.value_evaluateDefault {f : Field} {text : String} (htext : f.defaultText? = some text)
    (hplain : references text = []) (values : Dict String) :
    (f.evaluateDefault values).value =
      match evaluate text (.ofValues values) with
      | .ok r => if r.value.isNull then none else some r.value.toText
      | .error _ => some text := by
  unfold evaluateDefault
  rw [htext]
  rw [Metered.value_bind, Metered.value_evaluate]
  cases evaluate text (.ofValues values) with
  | ok r => rfl
  | error fault => simp [hplain]

theorem Field.trimChars_defaultText {f : Field} {text : String}
    (htext : f.defaultText? = some text) : trimChars text.toList = text.toList := by
  obtain ⟨hmap, -⟩ := Option.filter_eq_some_iff.1 htext
  obtain ⟨raw, -, rfl⟩ := Option.map_eq_some_iff.1 hmap
  rw [trim, String.toList_ofList, trimChars_trimChars]

/-! ## What becomes of values -/

namespace TypedValue

/-- Decimals are the same if they are equal as numbers, so zeros of both signs are. -/
def same : TypedValue → TypedValue → Bool
  | .decimal x, .decimal y => x == y
  | v, w => v = w

/-- Whether the value of a literal is the value of what the literal evaluates to.  An integer has to
be the one that the digits of the nearest float denote.  A day has to be no formula, since otherwise
it is a difference or a quotient; that is so if one of its blanks does not separate tokens. -/
def survives (text : String) : TypedValue → Bool
  | .integer i => readInteger? (formatNumber (floatOfInt i)).toList = some i
  | .date _ => text.toList.any fun c => isBlank c && !isSpacer c
  | _ => true

end TypedValue

/-- The types whose values are numbers, days and truth values. -/
def FieldType.isScalar : FieldType → Bool
  | .integer | .decimal | .date | .dob | .boolean => true
  | _ => false

theorem decode_of_isUnmarked (type : FieldType) {raw : String} (h : IsUnmarked raw.toList)
    (v : TypedValue) :
    type.decode raw = .ok (some v) ↔ type.read? raw raw.toList = some v := by
  have hempty : raw.isEmpty = false := by
    rw [← Bool.not_eq_true, String.isEmpty_iff]
    rintro rfl
    exact h.ne_nil rfl
  rw [decode_eq_ok_some, trimChars_eq_self_of_forall h.isBlank_eq, hempty]
  simp

/-- The text of a number is a decimal of this number. -/
theorem decode_decimal_formatNumber {x : Float} (hx : x.isFinite = true) :
    ∃ y, FieldType.decimal.decode (formatNumber x) = .ok (some (.decimal y)) ∧
      (y == x) = true := by
  by_cases hzero : (x == 0.0) = true
  · have hformat : formatNumber x = "0" := by
      rw [formatNumber, isNaN_of_isFinite hx, isInf_of_isFinite hx, hzero]
      rfl
    exact ⟨0.0, by rw [hformat]; decide +kernel, BEq.symm hzero⟩
  · have hformat : formatNumber x = (TypedValue.decimal x).encode := by
      rw [formatNumber, isNaN_of_isFinite hx, isInf_of_isFinite hx, if_neg (by simp),
        if_neg (by simp), if_neg hzero]
      rfl
    exact ⟨x, by rw [hformat]; exact decode_encode_decimal hx, beq_self (isNaN_of_isFinite hx)⟩

theorem decode_day_formatNumber (type : FieldType) (htype : type = .date ∨ type = .dob)
    (x : Float) : ∃ why, type.decode (formatNumber x) = .error why := by
  have hplain := formatNumber_isUnmarked x
  have hempty : (formatNumber x).isEmpty = false := by
    rw [← Bool.not_eq_true, String.isEmpty_iff]
    intro hnil
    exact hplain.ne_nil (by rw [hnil]; rfl)
  have hread : type.read? (formatNumber x) (formatNumber x).toList = none := by
    rcases htype with rfl | rfl <;> rw [FieldType.read?, Date.read?_formatNumber] <;> rfl
  rw [FieldType.decode, hempty, trimChars_eq_self_of_forall hplain.isBlank_eq, hread]
  exact ⟨_, rfl⟩

/-- A text that is kept for a literal with the value `v`. -/
structure Keeps (type : FieldType) (text : String) (v : TypedValue) (raw : String) : Prop where
  same_iff : (∃ w, type.decode raw = .ok (some w) ∧ w.same v = true) ↔ v.survives text = true
  unreadable : ∀ d, v = .date d → v.survives text = false → ∃ why, type.decode raw = .error why

section Kept

variable {f : Field} {text : String} (htext : f.defaultText? = some text)
  (hplain : references text = []) (values : Dict String)

include htext hplain

theorem exists_keeps_integer {i : ℤ} (hi : readInteger? text.toList = some i) :
    ∃ raw, (f.evaluateDefault values).value = some raw ∧
      Keeps .integer text (.integer i) raw := by
  obtain ⟨y, hy, hformat⟩ := evaluate_integer hi (.ofValues values)
  have hvalue := f.value_evaluateDefault htext hplain values
  rw [hy] at hvalue
  refine ⟨formatNumber y, hvalue, ?_, by rintro d ⟨⟩⟩
  have hkept : ∀ w, FieldType.integer.decode (formatNumber y) = .ok (some w) ↔
      (readInteger? (formatNumber (floatOfInt i)).toList).map TypedValue.integer = some w := by
    intro w
    rw [decode_of_isUnmarked _ (formatNumber_isUnmarked y), hformat]
    rfl
  simp only [hkept, TypedValue.survives, decide_eq_true_eq]
  constructor
  · rintro ⟨w, hw, hsame⟩
    obtain ⟨j, hj, rfl⟩ := Option.map_eq_some_iff.1 hw
    rw [hj, show j = i by simpa [TypedValue.same] using hsame]
  · intro hread
    exact ⟨.integer i, by rw [hread]; rfl, by simp [TypedValue.same]⟩

theorem exists_keeps_decimal {x : Float} (hx : readFinite? text.toList = some x) :
    ∃ raw, (f.evaluateDefault values).value = some raw ∧
      Keeps .decimal text (.decimal x) raw := by
  obtain ⟨hchars, hfinite⟩ := Option.filter_eq_some_iff.1 hx
  have hvalue := f.value_evaluateDefault htext hplain values
  rw [evaluate_number hchars hfinite] at hvalue
  obtain ⟨y, hy, hsame⟩ := decode_decimal_formatNumber hfinite
  exact ⟨formatNumber x, hvalue, iff_of_true ⟨_, hy, hsame⟩ rfl, by rintro d ⟨⟩⟩

theorem exists_keeps_boolean {b : Bool}
    (hb : boolOfWord? (text.toList.map Char.toLower) = some b)
    (hdecode : FieldType.boolean.decode text = .ok (some (.boolean b))) :
    ∃ raw, (f.evaluateDefault values).value = some raw ∧
      Keeps .boolean text (.boolean b) raw := by
  have hvalue := f.value_evaluateDefault htext hplain values
  rcases evaluate_boolWord hb (.ofValues values) with ⟨fault, herror⟩ | ⟨w, hok, hnull, hw⟩
  · rw [herror] at hvalue
    exact ⟨text, hvalue, iff_of_true ⟨_, hdecode, by simp [TypedValue.same]⟩ rfl, by rintro d ⟨⟩⟩
  · rw [hok] at hvalue
    simp only [hnull] at hvalue
    exact ⟨w.toText, hvalue, iff_of_true ⟨_, hw, by simp [TypedValue.same]⟩ rfl, by rintro d ⟨⟩⟩

theorem exists_keeps_day {type : FieldType} (htype : type = .date ∨ type = .dob) {d : Date}
    (hd : Date.read? text.toList = some d)
    (hdecode : type.decode text = .ok (some (.date d))) :
    ∃ raw, (f.evaluateDefault values).value = some raw ∧ Keeps type text (.date d) raw := by
  have hvalue := f.value_evaluateDefault htext hplain values
  by_cases hstray : (TypedValue.date d).survives text = true
  · obtain ⟨c, hc, hblank⟩ := List.any_eq_true.1 hstray
    rw [Bool.and_eq_true, Bool.not_eq_true'] at hblank
    obtain ⟨fault, herror⟩ := evaluate_day_stray hd hc hblank.1 hblank.2 (.ofValues values)
    rw [herror] at hvalue
    refine ⟨text, hvalue, iff_of_true ⟨_, hdecode, by simp [TypedValue.same]⟩ hstray, ?_⟩
    intro _ _ hlost
    rw [hstray] at hlost
    cases hlost
  · have hclear : ∀ c ∈ text.toList, isBlank c = true → isSpacer c = true := by
      intro c hc hblank
      by_contra hspacer
      exact hstray (List.any_eq_true.2 ⟨c, hc, by simp [hblank, hspacer]⟩)
    obtain ⟨y, hy⟩ := evaluate_day hd hclear (.ofValues values)
    rw [hy] at hvalue
    obtain ⟨why, hwhy⟩ := decode_day_formatNumber type htype y
    refine ⟨formatNumber y, hvalue, iff_of_false ?_ hstray, fun _ _ _ => ⟨why, hwhy⟩⟩
    rintro ⟨w, hw, -⟩
    rw [hwhy] at hw
    cases hw

/-- What is kept for a literal of a type, in terms of the value that it denotes. -/
theorem exists_keeps {type : FieldType} (htype : type.isScalar = true) {v : TypedValue}
    (hdecode : type.decode text = .ok (some v)) :
    ∃ raw, (f.evaluateDefault values).value = some raw ∧ Keeps type text v raw := by
  have hread := (decode_eq_ok_some.1 hdecode).2
  rw [f.trimChars_defaultText htext] at hread
  cases type with
  | integer =>
    obtain ⟨i, hi, rfl⟩ := Option.map_eq_some_iff.1 hread
    exact exists_keeps_integer htext hplain values hi
  | decimal =>
    obtain ⟨x, hx, rfl⟩ := Option.map_eq_some_iff.1 hread
    exact exists_keeps_decimal htext hplain values hx
  | date =>
    obtain ⟨d, hd, rfl⟩ := Option.map_eq_some_iff.1 hread
    exact exists_keeps_day htext hplain values (.inl rfl) hd hdecode
  | dob =>
    obtain ⟨d, hd, rfl⟩ := Option.map_eq_some_iff.1 hread
    exact exists_keeps_day htext hplain values (.inr rfl) hd hdecode
  | boolean =>
    obtain ⟨b, hb, rfl⟩ := Option.map_eq_some_iff.1 hread
    exact exists_keeps_boolean htext hplain values hb hdecode
  | _ => cases htype

end Kept

/-- An integer of at most 53 binary digits survives, and so does `2 ^ 53`. -/
theorem TypedValue.survives_integer {i : ℤ} (hi : i.natAbs ≤ 2 ^ 53) (text : String) :
    (TypedValue.integer i).survives text = true := by
  rw [survives, readInteger?_formatNumber hi]
  simp

theorem TypedValue.eq_of_same {v w : TypedValue} (hv : ∀ x, v ≠ .decimal x)
    (h : w.same v = true) : w = v := by
  unfold same at h
  split at h
  · exact absurd rfl (hv _)
  · exact of_decide_eq_true h

/-- In the first state of a session a field is read from a text that is kept for its literal. -/
theorem exists_keeps_start {p : Product} (hunique : p.UniqueKeywords) {o : SessionOptions}
    {f : Field} (hf : f ∈ p.fields) (hcontext : f.inContext o.transactionCode o.stepCode = true)
    (htype : f.type.isScalar = true) (hgiven : o.values[f.keyword]? = none)
    {text : String} (htext : f.defaultText? = some text) (hplain : references text = [])
    {v : TypedValue} (hdecode : f.type.decode text = .ok (some v)) :
    ∃ raw, (Session.start p o).typedValue f.keyword = f.type.decode raw ∧
      Keeps f.type text v raw := by
  have h : (Session.start p o).form.WellKeyed := Session.wellKeyed hunique o []
  -- The field of the form may have other options than the field of the product.
  obtain ⟨values, hg⟩ := Product.exists_mem_fieldsIn hf hcontext
  obtain ⟨g, hgdef⟩ : ∃ g : Field, g = { f with values := values } := ⟨_, rfl⟩
  have hmem : g ∈ (Session.start p o).form.fields := by
    rw [Session.fields_start, hgdef]
    exact hg
  have hselected : g.selected? = none := by
    have hlist : g.type ≠ .list := by
      rw [hgdef]
      intro heq
      rw [show f.type = .list from heq] at htype
      cases htype
    exact if_neg hlist
  have hgtext : g.defaultText? = some text := by rw [hgdef]; exact htext
  obtain ⟨raw, hraw, hkeeps⟩ := exists_keeps hgtext hplain o.values htype hdecode
  have hvalue := h.values_start_constant hmem (by rw [hgdef]; exact hgiven) hselected
    (by rw [hgtext]; rfl) (by rw [Field.defaultReferences, hgtext]; exact hplain)
  have hstored : (Session.start p o).state.value? f.keyword = some raw := by
    rw [hgdef] at hvalue hraw
    rw [Session.state_start]
    exact hvalue.trans hraw
  have hfield := Form.field?_eq_some h.unique hmem
  rw [hgdef] at hfield
  refine ⟨raw, ?_, hkeeps⟩
  change (Session.start p o).form.typedValue f.keyword (Session.start p o).state = _
  rw [Form.typedValue, hstored, hfield]
  rfl

/-- In the first state of a session, a number, day or truth value that a field has as a default
without references is the value of the field exactly if it survives; no value may be given for the
field.  Decimals and truth values survive, and so do integers up to `2 ^ 53`; a field whose day does
not survive cannot be read. -/
theorem literalDefault_kept (p : Product) (hunique : p.UniqueKeywords) (o : SessionOptions)
    (f : Field) (hf : f ∈ p.fields) (hcontext : f.inContext o.transactionCode o.stepCode = true)
    (htype : f.type.isScalar = true) (hgiven : o.values[f.keyword]? = none)
    (text : String) (htext : f.defaultText? = some text) (hplain : references text = [])
    (v : TypedValue) (hdecode : f.type.decode text = .ok (some v)) :
    let kept := (Session.start p o).typedValue f.keyword
    ((∃ w, kept = .ok (some w) ∧ w.same v = true) ↔ v.survives text = true) ∧
      (∀ b, v = .boolean b → kept = .ok (some v)) ∧
      (∀ x, v = .decimal x → ∃ y, kept = .ok (some (.decimal y)) ∧ (y == x) = true) ∧
      (∀ i, v = .integer i → i.natAbs ≤ 2 ^ 53 → kept = .ok (some v)) ∧
      ∀ d, v = .date d → v.survives text = false → ∃ why, kept = .error why := by
  intro kept
  obtain ⟨raw, hraw, hsame, hday⟩ :=
    exists_keeps_start hunique hf hcontext htype hgiven htext hplain hdecode
  have hkept : kept = f.type.decode raw := hraw
  rw [← hkept] at hsame hday
  refine ⟨hsame, ?_, ?_, ?_, hday⟩
  · rintro b rfl
    obtain ⟨w, hw, heq⟩ := hsame.2 rfl
    rw [hw, TypedValue.eq_of_same (by simp) heq]
  · rintro x rfl
    obtain ⟨w, hw, heq⟩ := hsame.2 rfl
    cases w with
    | decimal y => exact ⟨y, hw, heq⟩
    | _ => simp [TypedValue.same] at heq
  · rintro i rfl hi
    obtain ⟨w, hw, heq⟩ := hsame.2 (TypedValue.survives_integer hi text)
    rw [hw, TypedValue.eq_of_same (by simp) heq]

theorem literalDefault_kept_signed :
    let units : Field := { keyword := "UNITS", type := .integer, default := " -042 " }
    let start : Field := { keyword := "START", type := .date, default := "2020-01-15" }
    let p : Product := { fields := [units, start] }
    let o : SessionOptions := { transaction := "", step := "" }
    (Session.start p o).typedValue "UNITS" = .ok (some (.integer (-42))) ∧
      ∃ why, (Session.start p o).typedValue "START" = .error why := by
  intro units start p o
  have hunique : p.UniqueKeywords := by decide
  constructor
  · obtain ⟨-, -, -, hinteger, -⟩ := literalDefault_kept p hunique o units (by simp [p])
      (by decide) rfl rfl "-042" (by decide +kernel) (by decide +kernel) (.integer (-42))
      (by decide +kernel)
    exact hinteger _ rfl (by decide)
  · obtain ⟨-, -, -, -, hday⟩ := literalDefault_kept p hunique o start (by simp [p])
      (by decide) rfl rfl "2020-01-15" (by decide +kernel) (by decide +kernel)
      (.date ⟨2020, 1, 15, by decide⟩) (by decide +kernel)
    exact hday _ rfl (by decide +kernel)

/-- A day is read as a formula and subtracted, and a long integer is rounded to a float. -/
theorem literalDefault_lost :
    let start : Field := { keyword := "START", type := .date, default := "2020-01-15" }
    let units : Field := { keyword := "UNITS", type := .integer, default := "9007199254740993" }
    let s := Session.start { fields := [start, units] } { transaction := "", step := "" }
    start.type.decode "2020-01-15" = .ok (some (.date ⟨2020, 1, 15, by decide⟩)) ∧
      s.state.value? "START" = some "2004" ∧
      s.typedValue "START" = .error ⟨"2004", "date"⟩ ∧
      units.type.decode "9007199254740993" = .ok (some (.integer 9007199254740993)) ∧
      s.typedValue "UNITS" = .ok (some (.integer 9007199254740992)) := by
  decide +kernel

end FormLogic
