import FormLogic.Proofs.Validation.Rule
import FormLogic.Validation.Verdict

/-!
# FormLogic.Proofs.Validation.Verdict

What a validation reports.

* `value_validateField`: the messages for a value are those of the rules that it fails;
* `reportOf`: what is reported for a field; `reportOf_congr`: what that depends on;
* `errors_validateForm`: a form reports this for each field that is shown, and for no others;
* `messages_validateForm`: the same for the messages of a field;
* `Field.conditionHolds`, `fails_required`: when a field lacks a value that it has to have.
-/

namespace FormLogic

open Formula

variable {s : FormState} {keyword message : String}

theorem value_validateField (field : String) (value : Option String) (rules : List ValidationRule)
    (s : FormState) : (validateField field value rules s).value =
      (rules.filter fun r => (r.fails field value s).value).map (·.message) := by
  simp [validateField]

theorem value_validateEntries (s : FormState) (entries : List (String × List ValidationRule)) :
    (validateEntries s entries).value =
      ⟨Dict.ofPairs ((entries.map fun e =>
        (e.1, (validateField e.1 (s.value? e.1) e.2 s).value)).filter fun e => !e.2.isEmpty)⟩ := by
  simp [validateEntries]

theorem getElem?_validateEntries {entries : List (String × List ValidationRule)}
    (hnodup : (entries.map (·.1)).Nodup) {messages : List String} :
    (validateEntries s entries).value.errors[keyword]? = some messages ↔
      messages ≠ [] ∧ ∃ rules, (keyword, rules) ∈ entries ∧
        (validateField keyword (s.value? keyword) rules s).value = messages := by
  have hkeys : (((entries.map fun e => (e.1, (validateField e.1 (s.value? e.1) e.2 s).value)).filter
      fun e => !e.2.isEmpty).map (·.1)).Nodup := by
    refine List.Nodup.sublist (List.filter_sublist.map _) ?_
    rw [List.map_map]
    exact hnodup
  rw [value_validateEntries, Dict.getElem?_ofPairs hkeys, List.mem_filter, List.mem_map, and_comm]
  refine and_congr (by simp) ?_
  constructor
  · rintro ⟨⟨name, rules⟩, hin, heq⟩
    obtain ⟨rfl, rfl⟩ := Prod.mk.inj heq
    exact ⟨rules, hin, rfl⟩
  · rintro ⟨rules, hin, rfl⟩
    exact ⟨(keyword, rules), hin, rfl⟩

/-- Whether a form reports on a field at all. -/
def reportsOn (visible : Option NameSet) (s : FormState) (keyword : String) : Bool :=
  visible.all (·.contains keyword) && s.isVisible keyword

theorem nodup_shown (s : FormState) (rules : RuleSet) (visible : Option NameSet) :
    ((rules.toList.filter fun e => reportsOn visible s e.1).map (·.1)).Nodup := by
  refine List.Nodup.sublist (List.filter_sublist.map _) ?_
  rw [Std.ExtTreeMap.map_fst_toList_eq_keys]
  exact Std.ExtTreeMap.nodup_keys

/-- What is reported for a field: its messages, unless there are none. -/
def reportOf (rules : RuleSet) (s : FormState) (keyword : String) : Option (List String) :=
  (some (validateField keyword (s.value? keyword) (rules.rulesOf keyword) s).value).filter
    (!·.isEmpty)

theorem reportOf_eq_some {rules : RuleSet} {messages : List String} :
    reportOf rules s keyword = some messages ↔ messages ≠ [] ∧
      (validateField keyword (s.value? keyword) (rules.rulesOf keyword) s).value = messages := by
  simp only [reportOf, Option.filter_eq_some_iff, Option.some.injEq, Bool.not_eq_true',
    List.isEmpty_eq_false_iff]
  exact and_comm

theorem getD_reportOf (rules : RuleSet) (s : FormState) (keyword : String) :
    (reportOf rules s keyword).getD [] =
      (validateField keyword (s.value? keyword) (rules.rulesOf keyword) s).value := by
  rw [reportOf, Option.filter_some]
  cases (validateField keyword (s.value? keyword) (rules.rulesOf keyword) s).value <;> rfl

/-- A field without rules has nothing to report. -/
theorem reportOf_eq_none {rules : RuleSet} (h : rules.rulesOf keyword = []) (s : FormState) :
    reportOf rules s keyword = none := by
  rw [reportOf, h]
  rfl

/-- What is reported has a message and is about a field with rules. -/
theorem rules_of_reportOf {rules : RuleSet} {messages : List String}
    (h : reportOf rules s keyword = some messages) :
    messages ≠ [] ∧ rules.rulesOf keyword ≠ [] := by
  refine ⟨(reportOf_eq_some.1 h).1, fun hnone => ?_⟩
  rw [reportOf_eq_none hnone] at h
  cases h

theorem Check.fails_congr {t : FormState} (hvalues : s.values = t.values)
    (hmandatory : s.flags.mandatory = t.flags.mandatory) (check : Check) (field : String)
    (value : Option String) : check.fails field value s = check.fails field value t := by
  unfold Check.fails
  rw [hvalues, hmandatory]

theorem ValidationRule.fails_congr {t : FormState} (hvalues : s.values = t.values)
    (hmandatory : s.flags.mandatory = t.flags.mandatory) (r : ValidationRule) (field : String)
    (value : Option String) : r.fails field value s = r.fails field value t := by
  unfold ValidationRule.fails
  rw [hvalues, Check.fails_congr hvalues hmandatory]

/-- Values and mandatory flags are all that what is reported depends on. -/
theorem reportOf_congr {t : FormState} (hvalues : s.values = t.values)
    (hmandatory : s.flags.mandatory = t.flags.mandatory) (rules : RuleSet) (keyword : String) :
    reportOf rules s keyword = reportOf rules t keyword := by
  unfold reportOf FormState.value?
  rw [value_validateField, value_validateField, hvalues]
  simp only [ValidationRule.fails_congr hvalues hmandatory]

/-- A form reports on each field that is shown, and on no others. -/
theorem errors_validateForm (s : FormState) (rules : RuleSet) (visible : Option NameSet)
    (keyword : String) : (validateForm s rules visible).value.errors[keyword]? =
      if reportsOn visible s keyword then reportOf rules s keyword else none := by
  have hentry : ∀ rs, (keyword, rs) ∈ rules.toList.filter (fun e => reportsOn visible s e.1) ↔
      rules[keyword]? = some rs ∧ reportsOn visible s keyword = true := by
    intro rs
    rw [List.mem_filter, Std.ExtTreeMap.mem_toList_iff_getElem?_eq_some]
  refine Option.ext fun messages => ?_
  refine (getElem?_validateEntries (nodup_shown s rules visible)).trans ?_
  simp only [hentry]
  by_cases hshown : reportsOn visible s keyword = true
  · rw [if_pos hshown, reportOf_eq_some, RuleSet.rulesOf]
    cases hrules : rules[keyword]? with
    | some rs => simp [hshown]
    | none =>
      -- a field that is not in the rule set has no rules, and so no messages
      have hnone : (validateField keyword (s.value? keyword) [] s).value = [] := rfl
      simp [hnone]
  · rw [if_neg hshown]
    simp [hshown]

/-- The messages of each field that is shown are those of the rules that its value fails. -/
theorem messages_validateForm (s : FormState) (rules : RuleSet) (visible : Option NameSet)
    (keyword : String) :
    (validateForm s rules visible).value.errors[keyword]?.getD [] =
      if reportsOn visible s keyword then
        (validateField keyword (s.value? keyword) (rules.rulesOf keyword) s).value
      else [] := by
  rw [errors_validateForm, ← getD_reportOf]
  split <;> rfl

theorem Verdict.messages_of_valid {v : Verdict} (h : v.valid = true) (keyword : String) :
    v.errors[keyword]?.getD [] = [] := by
  have hempty : v.errors = ∅ := Std.ExtTreeMap.isEmpty_iff.1 h
  rw [hempty]
  simp

/-! ## Missing values -/

/-- Whether the rules of a field apply: it has no condition, a blank one, or one that holds. -/
def Field.conditionHolds (f : Field) (values : Dict String) : Bool :=
  f.validationCondition.all fun c => Text.allBlank c || (evaluate c (.ofValues values)).truthy

theorem Field.conditionHolds_eq (f : Field) (values : Dict String) :
    f.conditionHolds values = (nonBlank? f.validationCondition).all fun c =>
      (evaluate c (.ofValues values)).truthy := by
  unfold conditionHolds nonBlank?
  cases f.validationCondition with
  | none => rfl
  | some condition =>
    rw [Option.filter_some, Option.all_some]
    cases hblank : Text.allBlank condition <;> simp

theorem fails_rule (f : Field) (check : Check) (field : String) (value : Option String)
    (s : FormState) : ((f.rule check).fails field value s).value =
      (f.conditionHolds s.values && (check.fails field value s).value) := by
  have hcondition : (f.rule check).condition = nonBlank? f.validationCondition := rfl
  rw [ValidationRule.fails, hcondition, f.conditionHolds_eq]
  cases nonBlank? f.validationCondition with
  | none => rfl
  | some condition =>
    rw [Metered.value_bind, Metered.value_holds, Option.all_some]
    cases (evaluate condition (.ofValues s.values)).truthy <;> rfl

/-- A missing value is reported exactly if it is checked for, the rules of the field apply, its
mandatory flag is not off, and there is no value. -/
theorem required_mem_validateField {f : Field} {checks : List Check} {field : String}
    {value : Option String} :
    f.failureText .required ∈ (validateField field value (checks.map f.rule) s).value ↔
      .required ∈ checks ∧ f.conditionHolds s.values = true ∧
        s.flags.mandatory[field]? ≠ some false ∧ isMissing value = true := by
  rw [value_validateField, List.mem_map]
  have hfails : ((f.rule .required).fails field value s).value = true ↔
      f.conditionHolds s.values = true ∧
        s.flags.mandatory[field]? ≠ some false ∧ isMissing value = true := by
    rw [fails_rule]
    simp [Check.fails]
  constructor
  · rintro ⟨r, hr, hmessage⟩
    obtain ⟨hin, hfailing⟩ := List.mem_filter.1 hr
    obtain ⟨check, hcheck, rfl⟩ := List.mem_map.1 hin
    obtain rfl := Field.failureText_eq_required hmessage
    exact ⟨hcheck, hfails.1 hfailing⟩
  · rintro ⟨hin, hrest⟩
    exact ⟨f.rule .required, List.mem_filter.2 ⟨List.mem_map_of_mem hin, hfails.2 hrest⟩, rfl⟩

theorem isMissing_iff {value : Option String} :
    isMissing value = true ↔ value ∈ [none, some "", some "[]"] := by
  cases value <;> simp [isMissing]

end FormLogic
