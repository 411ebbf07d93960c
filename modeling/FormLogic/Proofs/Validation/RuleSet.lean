import FormLogic.Proofs.Validation.Rule

/-!
# FormLogic.Proofs.Validation.RuleSet

The form of derived rules.

* `Field.IsRuledBy`: at most one rule of a field requires a value, and it comes first; all rules
  carry the field's condition;
* `RuleSet.NoneEmpty`: what is kept for a name has rules;
* `derived_rules_wellFormed`: so it is after any rules for targets, and only the set of these
  matters.
-/

namespace FormLogic

/-! ## Rules of a field -/

namespace Field

variable {f : Field} {fieldRules fieldRules' : List FieldRule}

/-- The rules are of the form that a field has with rules that can make it mandatory. -/
structure IsRuledBy (f : Field) (fieldRules : List FieldRule) (rules : List ValidationRule) :
    Prop where
  /-- A value is required once at most, and first. -/
  required_first : ∀ r ∈ rules.tail, r.isRequired = false
  required_iff :
    (∃ r ∈ rules, r.isRequired = true) ↔ f.mandatory = true ∨ f.RequiredBy fieldRules
  /-- The condition of the field, unless it is blank. -/
  condition : ∀ r ∈ rules, r.condition = nonBlank? f.validationCondition

theorem required_not_mem_tail : .required ∉ (f.checksWith fieldRules).tail := by
  rw [checksWith_eq]
  split
  · exact required_not_mem_checksOfValue
  · intro h
    exact required_not_mem_checksOfValue (List.mem_of_mem_tail h)

theorem isRuledBy_checksWith (f : Field) (fieldRules : List FieldRule) :
    f.IsRuledBy fieldRules ((f.checksWith fieldRules).map f.rule) where
  required_first := by
    intro r hr
    rw [← List.map_tail] at hr
    obtain ⟨check, hcheck, rfl⟩ := List.mem_map.1 hr
    have hne : check ≠ .required := by
      rintro rfl
      exact required_not_mem_tail hcheck
    exact beq_eq_false_iff_ne.2 hne
  required_iff := by
    rw [← List.any_eq_true, any_isRequired_map, required_mem_checksWith]
  condition := by
    intro r hr
    obtain ⟨check, -, rfl⟩ := List.mem_map.1 hr
    rfl

theorem checksWith_congr (h : ∀ r, r ∈ fieldRules ↔ r ∈ fieldRules') :
    f.checksWith fieldRules = f.checksWith fieldRules' := by
  have hby : f.RequiredBy fieldRules ↔ f.RequiredBy fieldRules' := by
    simp only [RequiredBy, h]
  simp only [checksWith, hby]

end Field

/-! ## Rule sets -/

namespace RuleSet

variable {fields : List Field} {rules : RuleSet} {keyword : String}

/-- No name is kept without rules. -/
def NoneEmpty (rules : RuleSet) : Prop :=
  ∀ (keyword : String) rs, rules[keyword]? = some rs → rs ≠ []

theorem NoneEmpty.insert (h : rules.NoneEmpty) {rs : List ValidationRule} (hrs : rs ≠ []) :
    NoneEmpty (rules.insert keyword rs) := by
  intro k rs' hk
  rw [Dict.getElem?_insert] at hk
  split at hk
  · cases hk
    exact hrs
  · exact h k rs' hk

theorem noneEmpty_requireTargets (fields : List Field) (fieldRules : List FieldRule) :
    NoneEmpty ((ofFields fields).requireTargets fields fieldRules) := by
  have hempty : NoneEmpty ∅ := by
    intro k rs hk
    rw [Std.ExtTreeMap.getElem?_empty] at hk
    cases hk
  have hinsert : ∀ rules : RuleSet, rules.NoneEmpty → ∀ f ∈ fields, ∀ rs ≠ [],
      NoneEmpty (rules.insert f.keyword rs) := fun _ h _ _ _ hrs => h.insert hrs
  exact requireTargets_induction (ofFields_induction hempty hinsert) hinsert fieldRules

/-- Where no name is kept without rules, the rules of names tell what is kept. -/
theorem NoneEmpty.ext {rules' : RuleSet} (h : rules.NoneEmpty) (h' : rules'.NoneEmpty)
    (hrules : ∀ keyword, rules.rulesOf keyword = rules'.rulesOf keyword) : rules = rules' := by
  apply Std.ExtTreeMap.ext_getElem?
  intro k
  have hk := hrules k
  unfold rulesOf at hk
  cases hleft : rules[k]? with
  | none =>
    cases hright : rules'[k]? with
    | none => rfl
    | some rs =>
      rw [hleft, hright] at hk
      exact absurd hk.symm (h' k rs hright)
  | some rs =>
    cases hright : rules'[k]? with
    | none =>
      rw [hleft, hright] at hk
      exact absurd hk (h k rs hleft)
    | some rs' =>
      rw [hleft, hright] at hk
      exact congrArg some hk

theorem BelongsTo.rulesOf_eq_nil (h : rules.BelongsTo fields)
    (hkeyword : keyword ∉ fields.map (·.keyword)) : rules.rulesOf keyword = [] := by
  by_contra hne
  obtain ⟨f, hf, heq⟩ := h keyword (mem_of_rulesOf hne)
  exact hkeyword (List.mem_map.2 ⟨f, hf, heq⟩)

end RuleSet

/-- Derived rules are of their form field by field, no other name has any, no name is kept without
rules, and neither order nor repetition of the rules for targets matters. -/
theorem derived_rules_wellFormed {fields : List Field}
    (hunique : (fields.map (·.keyword)).Nodup) (fieldRules : List FieldRule) :
    let rules := (RuleSet.ofFields fields).requireTargets fields fieldRules
    (∀ f ∈ fields, f.IsRuledBy fieldRules (rules.rulesOf f.keyword)) ∧
    (∀ (keyword : String) rs, rules[keyword]? = some rs →
      rs ≠ [] ∧ ∃ f ∈ fields, f.keyword = keyword) ∧
    ∀ fieldRules', (∀ r, r ∈ fieldRules ↔ r ∈ fieldRules') →
      (RuleSet.ofFields fields).requireTargets fields fieldRules' = rules := by
  intro rules
  have hbelongs (fieldRules : List FieldRule) :=
    (RuleSet.belongsTo_ofFields fields).requireTargets fieldRules
  refine ⟨?_, ?_, ?_⟩
  · intro f hf
    rw [RuleSet.rulesOf_requireTargets hunique hf]
    exact f.isRuledBy_checksWith fieldRules
  · intro keyword rs hrs
    refine ⟨RuleSet.noneEmpty_requireTargets fields fieldRules keyword rs hrs, ?_⟩
    refine hbelongs fieldRules keyword (Std.ExtTreeMap.mem_iff_isSome_getElem?.2 ?_)
    rw [hrs]
    rfl
  · intro fieldRules' hsame
    refine (RuleSet.noneEmpty_requireTargets fields _).ext
      (RuleSet.noneEmpty_requireTargets fields _) ?_
    intro keyword
    by_cases hkeyword : keyword ∈ fields.map (·.keyword)
    · obtain ⟨f, hf, rfl⟩ := List.mem_map.1 hkeyword
      rw [RuleSet.rulesOf_requireTargets hunique hf, RuleSet.rulesOf_requireTargets hunique hf,
        Field.checksWith_congr hsame]
    · rw [(hbelongs fieldRules').rulesOf_eq_nil hkeyword,
        (hbelongs fieldRules).rulesOf_eq_nil hkeyword]

/-- A nominee of two letters at least, whom two rules can make mandatory. -/
theorem derived_rules_wellFormed_nominee :
    let nominee : Field := {
      keyword := "NOMINEE", shortest := some 2, validationCondition := some "@AGE > 17" }
    let married : FieldRule := { trigger := "MARRIED", target := "NOMINEE", action := .mandatory }
    let loan : FieldRule := { trigger := "LOAN", target := "NOMINEE", action := .mandatory }
    let fields : List Field := [{ keyword := "AGE" }, nominee]
    let rules := (RuleSet.ofFields fields).requireTargets fields [married, loan]
    rules.rulesOf "NOMINEE" = [nominee.rule .required, nominee.rule (.shortest 2)] ∧
      nominee.IsRuledBy [married, loan] (rules.rulesOf "NOMINEE") ∧
      (RuleSet.ofFields fields).requireTargets fields [loan, married, loan] = rules := by
  intro nominee married loan fields rules
  have hunique : (fields.map (·.keyword)).Nodup := by decide
  obtain ⟨hfields, -, horder⟩ := derived_rules_wellFormed hunique [married, loan]
  refine ⟨by decide +kernel, hfields nominee (by simp [fields]), horder [loan, married, loan] ?_⟩
  intro r
  simp [or_comm]

end FormLogic
