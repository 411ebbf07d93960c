import FormLogic.Proofs.Session.Cascade

/-!
# FormLogic.Proofs.Session.Start

The values of a form's first state.

* `Form.selectedOf`: the choice that is selected for a keyword at first;
* `Form.firstValue`: what a first state has for a keyword, in terms of its own values;
* `fillDefaults_settles`, `fillDefaults_unique`: in an order in which no default reads a later field,
  what is filled in is what the defaults yield for the final values, and no other values have that;
* `WellKeyed.values_start`, `WellKeyed.eq_values_start`: the same for the values of a first state;
* `start_settles`: what the first state of a session has for given, selected and derived values.

A default is evaluated while later ones are still missing, as in a cascade.  It is right in the end
for the same reason: it reads none of them.
-/

namespace FormLogic

open Formula Relation

/-- The value of the choice that a list field declares as selected. -/
def Field.selected? (f : Field) : Option String :=
  if f.type = .list then (f.choices.find? (·.selected)).map (·.value) else none

namespace Form

variable {form : Form} {names : List String} {name keyword : String} {values : Dict String}

/-- The value of the choice that is selected for a keyword at first. -/
def selectedOf (form : Form) (keyword : String) : Option String :=
  form.fields.findSome? fun f => if f.keyword = keyword then f.selected? else none

/-- What a first state with `values` has for a keyword: the value that was given, the choice that is
selected, or what the default yields. -/
def firstValue (form : Form) (given values : Dict String) (keyword : String) : Option String :=
  given[keyword]?.or ((form.selectedOf keyword).or (form.defaultOf keyword values))

/-! ## Selected choices -/

theorem fillSelected_eq (values : Dict String) (f : Field) :
    fillSelected values f = values.fill f.keyword f.selected? := by
  unfold fillSelected Dict.fill Field.selected?
  by_cases hgiven : values.contains f.keyword
  · simp [hgiven]
  · by_cases htype : f.type = .list
    · cases f.choices.find? (·.selected) <;> simp [hgiven, htype]
    · simp [hgiven, htype]

theorem getElem?_foldl_fillSelected (fields : List Field) (values : Dict String)
    (keyword : String) :
    (fields.foldl fillSelected values)[keyword]? = values[keyword]?.or
      (fields.findSome? fun f => if f.keyword = keyword then f.selected? else none) := by
  induction fields generalizing values with
  | nil => rw [List.foldl_nil, List.findSome?_nil, Option.or_none]
  | cons f fields ih =>
    rw [List.foldl_cons, ih, fillSelected_eq, Dict.getElem?_fill, Option.or_assoc,
      List.findSome?_cons]
    cases (if f.keyword = keyword then f.selected? else none) <;> rfl

theorem selectedOf_keyword (hunique : (form.fields.map (·.keyword)).Nodup) {f : Field}
    (hf : f ∈ form.fields) : form.selectedOf f.keyword = f.selected? := by
  have hnone : ∀ fields : List Field, f.keyword ∉ fields.map (·.keyword) →
      (fields.findSome? fun g => if g.keyword = f.keyword then g.selected? else none) = none := by
    intro fields hnot
    refine List.findSome?_eq_none_iff.2 fun g hg => if_neg fun hkeyword => hnot ?_
    exact hkeyword ▸ List.mem_map_of_mem hg
  obtain ⟨before, after, hfields, hbefore, hafter⟩ := exists_append_of_mem hunique hf
  rw [selectedOf, hfields, List.findSome?_append, hnone before hbefore, Option.none_or,
    List.findSome?_cons, if_pos rfl, hnone after hafter]
  cases f.selected? <;> rfl

/-! ## Defaults -/

theorem fillDefaults_cons (form : Form) (name : String) (names : List String)
    (values : Dict String) :
    (form.fillDefaults (name :: names) values).value =
      (form.fillDefaults names (values.fill name (form.defaultOf name values))).value := by
  rw [fillDefaults]
  unfold Dict.fill defaultOf
  split
  · rfl
  · cases form.field? name with
    | none => rfl
    | some f =>
      rw [Metered.value_bind, Option.bind_some]
      cases (f.evaluateDefault values).value <;> rfl

theorem fillDefaults_frame (h : keyword ∉ names) :
    (form.fillDefaults names values).value[keyword]? = values[keyword]? := by
  induction names generalizing values with
  | nil => rfl
  | cons name names ih =>
    rw [List.mem_cons, not_or] at h
    rw [fillDefaults_cons, ih h.2, Dict.fill_frame h.1]

theorem mem_fillDefaults (h : keyword ∈ values) :
    keyword ∈ (form.fillDefaults names values).value := by
  induction names generalizing values with
  | nil => exact h
  | cons name names ih =>
    rw [fillDefaults_cons]
    exact ih (Dict.mem_fill h)

/-- A keyword keeps what it has, or else gets what its default yields for the final values. -/
theorem fillDefaults_settles (horder : form.InOrder names) (hin : keyword ∈ names) :
    (form.fillDefaults names values).value[keyword]? = values[keyword]?.or
      (form.defaultOf keyword (form.fillDefaults names values).value) := by
  induction horder generalizing values with
  | nil => cases hin
  | @cons name names hname hreads _ ih =>
    by_cases hk : keyword = name
    · subst hk
      have hnow : form.defaultOf keyword values =
          form.defaultOf keyword (form.fillDefaults (keyword :: names) values).value :=
        defaultOf_congr fun d hd => (fillDefaults_frame (hreads d hd)).symm
      rw [← hnow, fillDefaults_cons, fillDefaults_frame hname, Dict.getElem?_fill, if_pos rfl]
    · have hin : keyword ∈ names := (List.mem_cons.1 hin).resolve_left hk
      rw [fillDefaults_cons, ih hin, Dict.fill_frame hk]

/-- Values that have this agree with those filled in.  It is enough to know them for some keywords
and for all that the defaults of these read. -/
theorem fillDefaults_unique {C : String → Prop} {final : Dict String}
    (hclosed : ∀ ⦃a b⦄, C a → DefaultReads form.fields a b → C b) (horder : form.InOrder names)
    (hothers : ∀ d, C d → d ∉ names → final[d]? = values[d]?)
    (hsettled : ∀ d ∈ names, C d → final[d]? = values[d]?.or (form.defaultOf d final))
    (hin : C keyword) :
    final[keyword]? = (form.fillDefaults names values).value[keyword]? := by
  induction horder generalizing values with
  | nil => exact hothers keyword hin List.not_mem_nil
  | @cons name names hname hreads _ ih =>
    rw [fillDefaults_cons]
    refine ih (fun d hd hnot => ?_) (fun d hmem hd => ?_)
    · by_cases hdn : d = name
      · -- all that its default reads is filled in already
        subst hdn
        have hnow : form.defaultOf d final = form.defaultOf d values :=
          defaultOf_congr fun b hb => hothers b (hclosed hd hb) (hreads b hb)
        rw [hsettled d List.mem_cons_self hd, hnow, Dict.getElem?_fill, if_pos rfl]
      · rw [Dict.fill_frame hdn]
        exact hothers d hd (List.not_mem_cons_of_ne_of_not_mem hdn hnot)
    · have hdn : d ≠ name := fun h => hname (h ▸ hmem)
      rw [Dict.fill_frame hdn]
      exact hsettled d (List.mem_cons_of_mem name hmem) hd

/-! ## First states -/

/-- The field of the keyword has a default. -/
def HasDefault (form : Form) (keyword : String) : Prop :=
  ∃ f ∈ form.fields, f.keyword = keyword ∧ f.defaultText?.isSome

theorem hasDefault_of_reads {d : String} (h : DefaultReads form.fields keyword d) :
    form.HasDefault keyword := by
  obtain ⟨f, hf, hkeyword, hd⟩ := h
  refine ⟨f, hf, hkeyword, ?_⟩
  unfold Field.defaultReferences at hd
  cases htext : f.defaultText? with
  | none => simp [htext] at hd
  | some text => rfl

theorem hasDefault_of_defaultOf {w : String} (h : form.defaultOf keyword values = some w) :
    form.HasDefault keyword := by
  obtain ⟨f, hfind, heval⟩ := Option.bind_eq_some_iff.1 h
  obtain ⟨hf, hkeyword⟩ := mem_of_field? hfind
  refine ⟨f, hf, hkeyword, ?_⟩
  unfold Field.evaluateDefault at heval
  cases htext : f.defaultText? with
  | none => simp [htext] at heval
  | some text => rfl

theorem defaultOf_eq_none (h : ¬ form.HasDefault keyword) (values : Dict String) :
    form.defaultOf keyword values = none :=
  Option.eq_none_iff_forall_ne_some.2 fun _ hw => h (hasDefault_of_defaultOf hw)

theorem values_start_eq (form : Form) (given : Dict String) :
    (form.start given).value.values =
      (form.fillDefaults form.defaults.order (form.fields.foldl fillSelected given)).value := by
  rw [start, Metered.value_bind, Resolver.values_recalculateAll]

/-- All values that were given are there. -/
theorem mem_values_start {given : Dict String} (h : keyword ∈ given) :
    keyword ∈ (form.start given).value.values := by
  rw [values_start_eq]
  refine mem_fillDefaults ?_
  refine List.foldlRecOn (motive := (keyword ∈ ·)) form.fields fillSelected h ?_
  intro values hin f _
  rw [fillSelected_eq]
  exact Dict.mem_fill hin

namespace WellKeyed

variable {given : Dict String}

/-- All fields that have defaults are in the order of derivation. -/
theorem mem_order (h : form.WellKeyed) (hd : form.HasDefault keyword) :
    keyword ∈ form.defaults.order := by
  obtain ⟨f, hf, rfl, hsome⟩ := hd
  have hkey : f.keyword ∈ (defaultEdges form.fields).keys := by
    rw [Std.ExtTreeMap.mem_keys, Std.ExtTreeMap.mem_iff_isSome_getElem?,
      getElem?_defaultEdges h.unique hf, Option.isSome_map]
    exact hsome
  rw [h.defaults]
  refine List.mem_filter.2 ⟨Edges.mem_order_of_mem_keys hkey, ?_⟩
  exact Std.ExtTreeMap.contains_iff_mem.2 (Std.ExtTreeMap.mem_keys.1 hkey)

/-- Without cycles, a first state has for each keyword the value that was given, the choice that is
selected, or what the default yields for the values of that state. -/
theorem values_start (h : form.WellKeyed) (ha : ∀ g, ¬ TransGen (DefaultReads form.fields) g g)
    (given : Dict String) (keyword : String) :
    (form.start given).value.values[keyword]? =
      form.firstValue given (form.start given).value.values keyword := by
  rw [firstValue, ← Option.or_assoc, values_start_eq, selectedOf, ← getElem?_foldl_fillSelected]
  by_cases hin : keyword ∈ form.defaults.order
  · exact fillDefaults_settles (h.inOrder ha (List.Sublist.refl _)) hin
  · have hnone := defaultOf_eq_none fun hd => hin (h.mem_order hd)
    rw [hnone, Option.or_none, fillDefaults_frame hin]

/-- Values that have this agree with those of the first state.  It is enough to know them for some
keywords and for all that the defaults of these read. -/
theorem eq_values_start (h : form.WellKeyed)
    (ha : ∀ g, ¬ TransGen (DefaultReads form.fields) g g) {C : String → Prop}
    (hclosed : ∀ ⦃a b⦄, C a → DefaultReads form.fields a b → C b)
    (hvalues : ∀ d, C d → values[d]? = form.firstValue given values d) (hin : C keyword) :
    values[keyword]? = (form.start given).value.values[keyword]? := by
  have hfirst : ∀ d, C d → values[d]? =
      (form.fields.foldl fillSelected given)[d]?.or (form.defaultOf d values) := by
    intro d hd
    rw [getElem?_foldl_fillSelected, Option.or_assoc]
    exact hvalues d hd
  rw [values_start_eq]
  refine fillDefaults_unique hclosed (h.inOrder ha (List.Sublist.refl _)) (fun d hd hnot => ?_)
    (fun d _ hd => hfirst d hd) hin
  have hnone := defaultOf_eq_none (fun hdef => hnot (h.mem_order hdef)) values
  rw [hfirst d hd, hnone, Option.or_none]

end WellKeyed

theorem selectedOf_eq_none (h : ∀ f ∈ form.fields, f.keyword = keyword → f.selected? = none) :
    form.selectedOf keyword = none := by
  refine List.findSome?_eq_none_iff.2 fun f hf => ?_
  split
  · rename_i hkeyword
    exact h f hf hkeyword
  · rfl

end Form

/-- If no default reads its own field, be it through others, then in the first state of a session
the values that were given stand as they were given, empty ones too.  Every other list field with a
selected choice holds that choice, and every field left that has a default holds what the default
yields for the values of this very state, and nothing if it yields nothing.  No more values are
there. -/
theorem start_settles (p : Product) (hunique : p.UniqueKeywords) (o : SessionOptions) :
    let s := Session.start p o
    (∀ g, ¬ TransGen (DefaultReads s.form.fields) g g) →
    (∀ k v : String, o.values[k]? = some v → s.state.values[k]? = some v) ∧
    (∀ f ∈ s.form.fields, o.values[f.keyword]? = none →
      (∀ choice, f.selected? = some choice → s.state.values[f.keyword]? = some choice) ∧
      (f.selected? = none → f.defaultText?.isSome →
        s.state.values[f.keyword]? = (f.evaluateDefault s.state.values).value)) ∧
    ∀ k : String, o.values[k]? = none →
      (∀ f ∈ s.form.fields, f.keyword = k → f.selected? = none ∧ f.defaultText? = none) →
      s.state.values[k]? = none := by
  intro s ha
  have h : s.form.WellKeyed := Session.wellKeyed hunique o []
  have hfirst : ∀ k, s.state.values[k]? = s.form.firstValue o.values s.state.values k :=
    Session.state_start p o ▸ h.values_start ha o.values
  refine ⟨fun k v hv => ?_, fun f hf hgiven => ⟨fun choice hchoice => ?_, fun hnone _ => ?_⟩, ?_⟩
  · rw [hfirst, Form.firstValue, hv, Option.some_or]
  · rw [hfirst, Form.firstValue, hgiven, Option.none_or, Form.selectedOf_keyword h.unique hf,
      hchoice, Option.some_or]
  · rw [hfirst, Form.firstValue, hgiven, Option.none_or, Form.selectedOf_keyword h.unique hf,
      hnone, Option.none_or, Form.defaultOf, Form.field?_eq_some h.unique hf, Option.bind_some]
  · intro k hgiven hplain
    have hselected : s.form.selectedOf k = none :=
      Form.selectedOf_eq_none fun f hf hkeyword => (hplain f hf hkeyword).1
    have hdefault : ¬ s.form.HasDefault k := by
      rintro ⟨f, hf, hkeyword, hsome⟩
      rw [(hplain f hf hkeyword).2] at hsome
      cases hsome
    rw [hfirst, Form.firstValue, hgiven, hselected, Form.defaultOf_eq_none hdefault]
    rfl

/-- The name is given and empty, the plan is selected, and the term follows the age although it
stands before it; the remark's default yields nothing. -/
theorem start_settles_term :
    let plan : Field := {
      keyword := "PLAN", default := "@AGE", type := .list,
      values := [.choice { value := "basic", selected := true }] }
    let term : Field := { keyword := "TERM", default := "@AGE + 1" }
    let remark : Field := { keyword := "REMARK", default := "@TERM > 60 ? 'late' : null" }
    let p : Product := { fields := [{ keyword := "NAME", default := "'none'" }, plan, term,
      { keyword := "AGE", default := "40" }, remark] }
    let o : SessionOptions := {
      transaction := "", step := "", values := Dict.ofPairs [("NAME", "")] }
    let s := Session.start p o
    p.UniqueKeywords ∧ (∀ g, ¬ TransGen (DefaultReads s.form.fields) g g) ∧
      s.state.values["NAME"]? = some "" ∧ s.state.values["PLAN"]? = some "basic" ∧
      s.state.values["TERM"]? = some "41" ∧ s.state.values["REMARK"]? = none ∧
      s.state.values["SUM"]? = none := by
  intro plan term remark p o s
  have hunique : p.UniqueKeywords := by decide
  have hfields : s.form.fields = p.fields := by decide +kernel
  have ha : ∀ g, ¬ TransGen (DefaultReads s.form.fields) g g := by
    rw [hfields]
    exact acyclic_of_rank String.length (by decide +kernel)
  have hs : s = Session.start p o := rfl
  have hall := start_settles p hunique o
  rw [← hs] at hall
  obtain ⟨hgiven, hheld, hothers⟩ := hall ha
  have hin : plan ∈ s.form.fields ∧ term ∈ s.form.fields ∧ remark ∈ s.form.fields := by
    rw [hfields]
    decide
  have hplan := (hheld plan hin.1 (by decide +kernel)).1 "basic" (by decide)
  have hterm := (hheld term hin.2.1 (by decide +kernel)).2 (by decide) (by decide +kernel)
  have hremark := (hheld remark hin.2.2 (by decide +kernel)).2 (by decide) (by decide +kernel)
  refine ⟨hunique, ha, hgiven "NAME" "" (by decide +kernel), hplan, hterm.trans ?_,
    hremark.trans ?_, hothers "SUM" (by decide +kernel) ?_⟩
  · decide +kernel
  · decide +kernel
  · rw [hfields]
    decide +kernel

end FormLogic
