import FormLogic.Proofs.Validation.Verdict

/-!
# FormLogic.Proofs.Validation.Named

Validating named fields beside validating a form.

* `Verdict.among`: a verdict on some of its fields;
* `errors_validateFields`: each field that is named is reported on, shown or not;
* `reportOf_eq_none_iff`: nothing is reported for a field exactly if it fails none of its rules;
* `validateFields_eq_among_iff`: the verdict on named fields is that of the form exactly if no
  hidden one among them fails a rule;
* `hidden_reported_if_named`: what becomes of hidden fields in either verdict.
-/

namespace FormLogic

variable {rules : RuleSet} {s : FormState} {names : List String} {keyword : String}

/-- What a verdict says of the named fields. -/
def Verdict.among (v : Verdict) (names : List String) : Verdict :=
  ⟨v.errors.filter fun field _ => names.contains field⟩

theorem Verdict.errors_among (v : Verdict) (names : List String) (keyword : String) :
    (v.among names).errors[keyword]? = if keyword ∈ names then v.errors[keyword]? else none := by
  rw [among, Std.ExtTreeMap.getElem?_filter']
  cases v.errors[keyword]? with
  | none => simp
  | some messages => simp [Option.filter_some]

theorem Verdict.eq_iff {v w : Verdict} :
    v = w ↔ ∀ keyword : String, v.errors[keyword]? = w.errors[keyword]? := by
  constructor
  · rintro rfl keyword
    rfl
  · intro h
    obtain ⟨errors⟩ := v
    exact congrArg Verdict.mk (Std.ExtTreeMap.ext_getElem? fun {keyword} => h keyword)

/-- The state with all fields shown. -/
def FormState.revealed (s : FormState) : FormState :=
  s.restoreFlags { s.flags with visibility := ∅ }

theorem FormState.isVisible_revealed (s : FormState) (keyword : String) :
    s.revealed.isVisible keyword = true := by
  simp [isVisible, revealed, restoreFlags]

theorem reportOf_revealed (rules : RuleSet) (s : FormState) (keyword : String) :
    reportOf rules s.revealed keyword = reportOf rules s keyword :=
  reportOf_congr rfl rfl rules keyword

/-- A name that has no rules adds nothing, and neither does one whose rules are all met. -/
theorem validateFields_eq_insertAll (names : List String) (s : FormState) (rules : RuleSet) :
    (validateFields names s rules).value =
      ⟨Dict.insertAll ∅ (names.filterMap fun name =>
        (reportOf rules s name).map fun messages => (name, messages))⟩ := by
  have hentries : ((names.filterMap fun name => rules[name]?.map fun rs => (name, rs)).map fun e =>
      (e.1, (validateField e.1 (s.value? e.1) e.2 s).value)).filter (fun e => !e.2.isEmpty) =
      names.filterMap fun name => (reportOf rules s name).map fun messages => (name, messages) := by
    rw [List.map_filterMap, List.filter_filterMap]
    refine List.filterMap_congr fun name _ => ?_
    rw [reportOf, RuleSet.rulesOf]
    cases rules[name]? with
    | none => rfl
    | some rs =>
      rw [Option.map_some, Option.map_some, Option.filter_some, Option.getD_some]
      cases (validateField name (s.value? name) rs s).value <;> rfl
  rw [validateFields, value_validateEntries, hentries]
  rfl

/-- Each field that is named is reported on, whether it is shown or not. -/
theorem errors_validateFields (names : List String) (s : FormState) (rules : RuleSet)
    (keyword : String) : (validateFields names s rules).value.errors[keyword]? =
      if keyword ∈ names then reportOf rules s keyword else none := by
  rw [validateFields_eq_insertAll]
  refine (Dict.getElem?_insertAll_filterMap _ names ∅ keyword).trans ?_
  rw [Std.ExtTreeMap.getElem?_empty, Option.or_none]

theorem reportOf_eq_none_iff : reportOf rules s keyword = none ↔
    ∀ r ∈ rules.rulesOf keyword, (r.fails keyword (s.value? keyword) s).value = false := by
  rw [reportOf, Option.filter_eq_none_iff, value_validateField]
  simp

theorem errors_validateForm_of_hidden (hhidden : s.isVisible keyword = false) (rules : RuleSet)
    (visible : Option NameSet) : (validateForm s rules visible).value.errors[keyword]? = none := by
  rw [errors_validateForm, reportsOn, hhidden, Bool.and_false]
  rfl

theorem errors_validateForm_none (s : FormState) (rules : RuleSet) (keyword : String) :
    (validateForm s rules none).value.errors[keyword]? =
      if s.isVisible keyword then reportOf rules s keyword else none := by
  rw [errors_validateForm, reportsOn, Option.all_none, Bool.true_and]

/-- The verdict on named fields is that on a form with nothing hidden. -/
theorem validateFields_eq_revealed (names : List String) (s : FormState) (rules : RuleSet) :
    (validateFields names s rules).value =
      (validateForm s.revealed rules none).value.among names := by
  refine Verdict.eq_iff.2 fun keyword => ?_
  rw [errors_validateFields, Verdict.errors_among, errors_validateForm_none,
    if_pos (s.isVisible_revealed keyword), reportOf_revealed]

theorem validateFields_eq_among_iff :
    (validateFields names s rules).value = (validateForm s rules none).value.among names ↔
      ∀ keyword ∈ names, s.isVisible keyword = false → reportOf rules s keyword = none := by
  rw [Verdict.eq_iff]
  refine forall_congr' fun keyword => ?_
  rw [errors_validateFields, Verdict.errors_among, errors_validateForm_none]
  by_cases hname : keyword ∈ names
  · cases hvisible : s.isVisible keyword <;> simp [hname]
  · simp [hname]

/-- A form never reports on a field that is hidden.  Named fields are reported on as if nothing were
hidden: a hidden field has messages exactly if it is named and fails one of its rules.  So the two
verdicts agree on the named fields exactly if no hidden one among them fails a rule. -/
theorem hidden_reported_if_named (names : List String) (s : FormState) (rules : RuleSet) :
    (∀ keyword, s.isVisible keyword = false →
      (∀ visible, (validateForm s rules visible).value.errors[keyword]? = none) ∧
      ((validateFields names s rules).value.errors[keyword]? ≠ none ↔ keyword ∈ names ∧
        ∃ r ∈ rules.rulesOf keyword, (r.fails keyword (s.value? keyword) s).value = true)) ∧
    (validateFields names s rules).value =
      (validateForm s.revealed rules none).value.among names ∧
    ((validateFields names s rules).value = (validateForm s rules none).value.among names ↔
      ∀ keyword ∈ names, s.isVisible keyword = false →
        ∀ r ∈ rules.rulesOf keyword, (r.fails keyword (s.value? keyword) s).value = false) := by
  refine ⟨fun keyword hhidden => ⟨errors_validateForm_of_hidden hhidden rules, ?_⟩,
    validateFields_eq_revealed names s rules, ?_⟩
  · rw [errors_validateFields]
    by_cases hname : keyword ∈ names
    · rw [if_pos hname, Ne, reportOf_eq_none_iff]
      simp [hname]
    · simp [hname]
  · simp only [validateFields_eq_among_iff, reportOf_eq_none_iff]

/-- A hidden name that is given is not reported, and a missing age that is shown is: naming the two
makes no difference. -/
theorem hidden_reported_if_named_age :
    let field (keyword : String) : Field := { keyword := keyword, mandatory := true }
    let rules := RuleSet.ofFields [field "NAME", field "AGE"]
    let s : FormState := {
      values := Dict.ofPairs [("NAME", "Ada")]
      flags := { visibility := Dict.ofPairs [("NAME", false)] } }
    let named := (validateFields ["NAME", "AGE"] s rules).value
    s.isVisible "NAME" = false ∧ (validateForm s rules none).value.errors["NAME"]? = none ∧
      named = (validateForm s rules none).value.among ["NAME", "AGE"] ∧
      named = ⟨Dict.ofPairs [("AGE", ["AGE is required"])]⟩ := by
  intro field rules s named
  have hhidden : s.isVisible "NAME" = false := by decide +kernel
  have hmet : ∀ keyword ∈ ["NAME", "AGE"], s.isVisible keyword = false →
      ∀ r ∈ rules.rulesOf keyword, (r.fails keyword (s.value? keyword) s).value = false := by
    decide +kernel
  obtain ⟨hform, -, hagree⟩ := hidden_reported_if_named ["NAME", "AGE"] s rules
  exact ⟨hhidden, (hform "NAME" hhidden).1 none, hagree.2 hmet, by decide +kernel⟩

/-- A missing name is reported although it is hidden, if it is named; the form does not report it. -/
theorem hidden_name_reported :
    let name : Field := { keyword := "NAME", mandatory := true }
    let rules := RuleSet.ofFields [name]
    let s : FormState := { flags := { visibility := Dict.ofPairs [("NAME", false)] } }
    s.isVisible "NAME" = false ∧ (validateForm s rules none).value = ⟨∅⟩ ∧
      (validateFields ["NAME"] s rules).value =
        ⟨Dict.ofPairs [("NAME", ["NAME is required"])]⟩ := by
  decide +kernel

end FormLogic
