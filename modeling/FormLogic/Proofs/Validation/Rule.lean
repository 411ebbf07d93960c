import FormLogic.Proofs.Dict
import FormLogic.Proofs.Session.Fields
import FormLogic.Validation.Rule

/-!
# FormLogic.Proofs.Validation.Rule

The rules that fields end up with.

* `failureText_eq_required`: no other check is reported with the text of a missing value;
* `Field.checksWith`: the checks of a field that some rules can make mandatory;
* `rulesOf_requireTargets`: the rules of a field are these checks, each with its text and condition;
* `ofFields_induction`, `requireTargets_induction`: what each change of an entry keeps;
* `RuleSet.BelongsTo`: no name has rules but the keywords of fields.
-/

namespace FormLogic

namespace Field

variable {f : Field}

/-! ## Texts -/

/-- No other check is reported with the text of a missing value. -/
theorem failureText_eq_required {check : Check}
    (h : f.failureText check = f.failureText .required) : check = .required := by
  have hchars := congrArg String.toList h
  cases check with
  | required => rfl
  | pattern source tree => simp [failureText] at hchars
  | least x => simp [failureText] at hchars
  | greatest x => simp [failureText] at hchars
  | shortest n => simp [failureText] at hchars
  | longest n => simp [failureText] at hchars
  | formula text => simp [failureText] at hchars

/-! ## Checks -/

/-- The checks of a field that are made on a value. -/
def checksOfValue (f : Field) : List Check :=
  f.patternCheck?.toList ++ ((f.least.map Check.least).toList ++
    ((f.greatest.map Check.greatest).toList ++ ((f.shortest.map Check.shortest).toList ++
    ((f.longest.map Check.longest).toList ++ ((nonBlank? f.condition).map Check.formula).toList))))

theorem checks_eq : f.checks = (if f.mandatory then [.required] else []) ++ f.checksOfValue := by
  simp only [checks, checksOfValue, List.append_assoc]

theorem required_not_mem_checksOfValue : .required ∉ f.checksOfValue := by
  have hpattern : .required ∉ f.patternCheck?.toList := by
    intro hin
    rw [Option.mem_toList] at hin
    unfold patternCheck? at hin
    obtain ⟨source, -, hsource⟩ := Option.bind_eq_some_iff.1 hin
    split at hsource
    · cases hsource
    · obtain ⟨tree, -, htree⟩ := Option.bind_eq_some_iff.1 hsource
      cases htree
  unfold checksOfValue
  simp [hpattern]

theorem required_mem_checks : .required ∈ f.checks ↔ f.mandatory = true := by
  rw [checks_eq]
  simp [required_not_mem_checksOfValue]

theorem any_isRequired_map (checks : List Check) :
    (checks.map f.rule).any (·.isRequired) = true ↔ .required ∈ checks := by
  rw [List.any_map, List.any_eq_true]
  constructor
  · rintro ⟨check, hcheck, hrequired⟩
    have heq : check = .required := eq_of_beq hrequired
    exact heq ▸ hcheck
  · intro h
    exact ⟨.required, h, beq_self_eq_true _⟩

/-- Some rule can make the field mandatory. -/
def RequiredBy (f : Field) (fieldRules : List FieldRule) : Prop :=
  ∃ r ∈ fieldRules, r.action = .mandatory ∧ r.target = f.keyword

instance (f : Field) (fieldRules : List FieldRule) : Decidable (f.RequiredBy fieldRules) :=
  inferInstanceAs (Decidable (∃ r ∈ fieldRules, r.action = .mandatory ∧ r.target = f.keyword))

/-- The checks of a field; one for a value comes first if some rule can make it mandatory. -/
def checksWith (f : Field) (fieldRules : List FieldRule) : List Check :=
  if f.RequiredBy fieldRules ∧ f.mandatory = false then .required :: f.checks else f.checks

theorem checksWith_eq (f : Field) (fieldRules : List FieldRule) : f.checksWith fieldRules =
    (if f.mandatory = true ∨ f.RequiredBy fieldRules then [.required] else []) ++
      f.checksOfValue := by
  rw [checksWith, checks_eq]
  by_cases hby : f.RequiredBy fieldRules <;> cases hmandatory : f.mandatory <;> simp [hby]

theorem required_mem_checksWith {fieldRules : List FieldRule} :
    .required ∈ f.checksWith fieldRules ↔ f.mandatory = true ∨ f.RequiredBy fieldRules := by
  rw [checksWith_eq]
  simp [required_not_mem_checksOfValue]

/-- Rules with one that requires a value. -/
def withRequired (f : Field) (present : List ValidationRule) : List ValidationRule :=
  if present.any (·.isRequired) then present else f.rule .required :: present

theorem withRequired_withRequired (present : List ValidationRule) :
    f.withRequired (f.withRequired present) = f.withRequired present := by
  have hhas : (f.withRequired present).any (·.isRequired) = true := by
    unfold withRequired
    split
    · assumption
    · exact List.any_eq_true.2 ⟨_, List.mem_cons_self, beq_self_eq_true _⟩
  conv_lhs => rw [withRequired]
  rw [if_pos hhas]

theorem withRequired_rules : f.withRequired f.rules =
    (if f.mandatory = false then .required :: f.checks else f.checks).map f.rule := by
  have hany : f.rules.any (·.isRequired) = true ↔ f.mandatory = true :=
    (any_isRequired_map f.checks).trans required_mem_checks
  unfold withRequired
  cases hmandatory : f.mandatory with
  | true =>
    rw [if_pos (hany.2 hmandatory)]
    rfl
  | false =>
    have hnone : ¬ f.rules.any (·.isRequired) = true := by simp [hany, hmandatory]
    rw [if_neg hnone, if_pos rfl, List.map_cons, rules]

end Field

/-! ## Rule sets -/

namespace RuleSet

variable {fields : List Field} {rules : RuleSet} {f : Field} {keyword : String}

/-- The rules of a name; there may be none. -/
def rulesOf (rules : RuleSet) (keyword : String) : List ValidationRule := rules[keyword]?.getD []

theorem addField_frame (h : f.keyword ≠ keyword) (rules : RuleSet) :
    (addField rules f)[keyword]? = rules[keyword]? := by
  unfold addField
  split
  · rfl
  · rw [Dict.getElem?_insert, if_neg h]

theorem foldl_addField_frame (h : keyword ∉ fields.map (·.keyword)) (rules : RuleSet) :
    (fields.foldl addField rules)[keyword]? = rules[keyword]? := by
  induction fields generalizing rules with
  | nil => rfl
  | cons f fields ih =>
    rw [List.map_cons, List.mem_cons, not_or] at h
    rw [List.foldl_cons, ih h.2, addField_frame (Ne.symm h.1)]

/-- The rules that a field states itself. -/
theorem rulesOf_ofFields (hunique : (fields.map (·.keyword)).Nodup) (hf : f ∈ fields) :
    (ofFields fields).rulesOf f.keyword = f.rules := by
  obtain ⟨before, after, rfl, hbefore, hafter⟩ := Form.exists_append_of_mem hunique hf
  rw [rulesOf, ofFields, List.foldl_append, List.foldl_cons, foldl_addField_frame hafter, addField]
  split
  · rename_i hempty
    rw [foldl_addField_frame hbefore, List.isEmpty_iff.1 hempty]
    simp
  · rw [Dict.getElem?_insert, if_pos rfl]
    rfl

theorem rulesOf_require (rules : RuleSet) (f : Field) (keyword : String) :
    (rules.require f).rulesOf keyword =
      if f.keyword = keyword then f.withRequired (rules.rulesOf keyword)
      else rules.rulesOf keyword := by
  have hrequire : rules.require f =
      if (rules.rulesOf f.keyword).any (·.isRequired) then rules
      else rules.insert f.keyword (f.rule .required :: rules.rulesOf f.keyword) := rfl
  rw [hrequire]
  by_cases hany : (rules.rulesOf f.keyword).any (·.isRequired) = true
  · rw [if_pos hany]
    split
    · rename_i hk
      rw [← hk, Field.withRequired, if_pos hany]
    · rfl
  · rw [if_neg hany, rulesOf, Dict.getElem?_insert]
    split
    · rename_i hk
      rw [← hk, Field.withRequired, if_neg hany]
      rfl
    · rfl

theorem rulesOf_requireTarget (hunique : (fields.map (·.keyword)).Nodup) (hf : f ∈ fields)
    (rules : RuleSet) (r : FieldRule) :
    (requireTarget fields rules r).rulesOf f.keyword =
      if r.action = .mandatory ∧ r.target = f.keyword then f.withRequired (rules.rulesOf f.keyword)
      else rules.rulesOf f.keyword := by
  unfold requireTarget
  by_cases haction : r.action = .mandatory
  · rw [if_pos haction]
    cases hfind : fields.find? (·.keyword == r.target) with
    | none =>
      have hne : ¬ r.target = f.keyword := by
        intro htarget
        have hnot := List.find?_eq_none.1 hfind f hf
        rw [htarget] at hnot
        exact hnot (beq_self_eq_true _)
      rw [if_neg fun h => hne h.2]
    | some g =>
      have htarget := List.find?_some hfind
      have hkeyword : g.keyword = r.target := eq_of_beq htarget
      rw [rulesOf_require]
      by_cases hg : g.keyword = f.keyword
      · have heq := Form.eq_of_keyword_eq hunique (List.mem_of_find?_eq_some hfind) hf hg
        rw [if_pos hg, if_pos ⟨haction, hkeyword.symm.trans hg⟩, heq]
      · rw [if_neg hg, if_neg fun h => hg (hkeyword.trans h.2)]
  · rw [if_neg haction, if_neg fun h => haction h.1]

theorem rulesOf_foldl_requireTarget (hunique : (fields.map (·.keyword)).Nodup) (hf : f ∈ fields)
    (fieldRules : List FieldRule) (rules : RuleSet) :
    (fieldRules.foldl (requireTarget fields) rules).rulesOf f.keyword =
      if f.RequiredBy fieldRules then f.withRequired (rules.rulesOf f.keyword)
      else rules.rulesOf f.keyword := by
  induction fieldRules generalizing rules with
  | nil => simp [Field.RequiredBy]
  | cons r fieldRules ih =>
    have hcons : f.RequiredBy (r :: fieldRules) ↔
        (r.action = .mandatory ∧ r.target = f.keyword) ∨ f.RequiredBy fieldRules := by
      simp [Field.RequiredBy]
    rw [List.foldl_cons, ih, rulesOf_requireTarget hunique hf]
    by_cases hr : r.action = .mandatory ∧ r.target = f.keyword
    · rw [if_pos hr, if_pos (hcons.2 (.inl hr)), Field.withRequired_withRequired, ite_self]
    · by_cases hrest : f.RequiredBy fieldRules
      · rw [if_neg hr, if_pos hrest, if_pos (hcons.2 (.inr hrest))]
      · rw [if_neg hr, if_neg hrest, if_neg fun h => (hcons.1 h).elim hr hrest]

/-- The rules of a field are its checks with those that rules ask for, each with its text and the
field's condition. -/
theorem rulesOf_requireTargets (hunique : (fields.map (·.keyword)).Nodup) (hf : f ∈ fields)
    (fieldRules : List FieldRule) :
    ((ofFields fields).requireTargets fields fieldRules).rulesOf f.keyword =
      (f.checksWith fieldRules).map f.rule := by
  rw [requireTargets, rulesOf_foldl_requireTarget hunique hf, rulesOf_ofFields hunique hf,
    Field.withRequired_rules, Field.checksWith]
  by_cases hby : f.RequiredBy fieldRules
  · simp [hby]
  · simp [hby, Field.rules]

/-! ### Fields with rules -/

theorem mem_of_rulesOf (h : rules.rulesOf keyword ≠ []) : keyword ∈ rules := by
  by_contra hnot
  exact h (by rw [rulesOf, Std.ExtTreeMap.getElem?_eq_none hnot]; rfl)

/-- What every change of an entry keeps for the fields holds of the rules that fields state. -/
theorem ofFields_induction {P : RuleSet → Prop} (hempty : P ∅)
    (hinsert : ∀ rules, P rules → ∀ f ∈ fields, ∀ rs ≠ [], P (rules.insert f.keyword rs)) :
    P (ofFields fields) := by
  refine List.foldlRecOn (motive := P) fields addField hempty ?_
  intro rules h f hf
  unfold addField
  split
  · exact h
  · rename_i hne
    exact hinsert rules h f hf _ fun heq => hne (List.isEmpty_iff.2 heq)

/-- It is kept as well when rules for targets are added. -/
theorem requireTargets_induction {P : RuleSet → Prop} (hrules : P rules)
    (hinsert : ∀ rules, P rules → ∀ f ∈ fields, ∀ rs ≠ [], P (rules.insert f.keyword rs))
    (fieldRules : List FieldRule) : P (rules.requireTargets fields fieldRules) := by
  refine List.foldlRecOn (motive := P) fieldRules (requireTarget fields) hrules ?_
  intro rules h r _
  unfold requireTarget
  split
  · cases hfind : fields.find? (·.keyword == r.target) with
    | none => exact h
    | some f =>
      show P (rules.require f)
      unfold require
      dsimp only
      split
      · exact h
      · exact hinsert rules h f (List.mem_of_find?_eq_some hfind) _ (List.cons_ne_nil _ _)
  · exact h

/-- Only fields have rules. -/
def BelongsTo (rules : RuleSet) (fields : List Field) : Prop :=
  ∀ k ∈ rules, ∃ f ∈ fields, f.keyword = k

theorem BelongsTo.insert (h : rules.BelongsTo fields) (hf : f ∈ fields)
    (rs : List ValidationRule) : BelongsTo (rules.insert f.keyword rs) fields := by
  intro k hk
  rcases Dict.mem_insert.1 hk with rfl | hk
  · exact ⟨f, hf, rfl⟩
  · exact h k hk

theorem belongsTo_ofFields (fields : List Field) : (ofFields fields).BelongsTo fields := by
  have hnone : BelongsTo ∅ fields := fun k hk => absurd hk Std.ExtTreeMap.not_mem_empty
  exact ofFields_induction (P := (BelongsTo · fields)) hnone
    fun _ h _ hf rs _ => h.insert hf rs

/-- Rules that are added for targets belong to fields as well. -/
theorem BelongsTo.requireTargets (h : rules.BelongsTo fields) (fieldRules : List FieldRule) :
    (rules.requireTargets fields fieldRules).BelongsTo fields :=
  requireTargets_induction (P := (BelongsTo · fields)) h (fun _ h _ hf rs _ => h.insert hf rs)
    fieldRules

end RuleSet
end FormLogic
