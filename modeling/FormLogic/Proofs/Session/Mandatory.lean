import FormLogic.Proofs.Rules.Graph
import FormLogic.Proofs.Session.Cascade
import FormLogic.Proofs.Validation.Verdict

/-!
# FormLogic.Proofs.Session.Mandatory

Mandatory fields in the sessions of a product.

* `Form.Ruled`: where the flags and checks of a form come from;
* `Form.Backed`: every field has a mandatory flag, and where it is on, the field is checked for a
  value;
* `Backed.insert`: writing the flags that rules give keeps it; `Backed.change`: so does a change;
* `Session.KeepsBacked`: a session's flags, and those that a reset restores, are so;
* `Session.backed_performAll`: it holds in every session;
* `required_reported`: what a validation reports, and what a submission needs.

A flag can be on for two reasons only: the field declares it, or a rule can make it mandatory.  Both
put a check for a value among the rules of the field when the form is made.
-/

namespace FormLogic

open Formula

theorem Resolver.mandatory_cause {r : Resolver} {field : String} {values : Dict String}
    (h : (r.mandatory field values).value = true) :
    (∃ rule ∈ r.graph.fieldRulesOn field, rule.action = .mandatory) ∨
      r.defaults.mandatory[field]? = some true := by
  unfold mandatory at h
  rw [Metered.value_bind] at h
  split at h
  · rename_i hmatch
    rw [anyMatch, Metered.value_any, List.any_eq_true] at hmatch
    obtain ⟨rule, hrule, -⟩ := hmatch
    obtain ⟨hon, haction⟩ := List.mem_filter.1 hrule
    exact .inl ⟨rule, hon, eq_of_beq haction⟩
  · rw [Metered.value_bind] at h
    split at h
    · cases h
    · right
      rw [Metered.value_pure] at h
      cases hdefault : r.defaults.mandatory[field]? with
      | none => simp [hdefault] at h
      | some b => simpa [hdefault] using h

namespace Form

variable {form : Form} {fieldRules : List FieldRule} {flags : Flags} {s : FormState}

/-- The flags and the checks of a form come from its fields and from these rules. -/
structure Ruled (form : Form) (fieldRules : List FieldRule) : Prop where
  unique : (form.fields.map (·.keyword)).Nodup
  defaults : form.resolver.defaults = Flags.ofFields form.fields
  rulesOn : ∀ k, form.resolver.graph.fieldRulesOn k = fieldRules.filter (·.target = k)
  rules : form.rules = (RuleSet.ofFields form.fields).requireTargets form.fields fieldRules

/-- Every field has a mandatory flag; one that is on is declared by the field or due to a rule. -/
def Backed (form : Form) (fieldRules : List FieldRule) (flags : Flags) : Prop :=
  ∀ f ∈ form.fields, ∃ b, flags.mandatory[f.keyword]? = some b ∧
    (b = true → f.mandatory = true ∨ f.RequiredBy fieldRules)

theorem Ruled.backed_defaults (hr : form.Ruled fieldRules) :
    form.Backed fieldRules form.resolver.defaults := by
  intro f hf
  rw [hr.defaults]
  exact ⟨f.mandatory, (Flags.has_ofFields hr.unique hf).mandatory, .inl⟩

/-- Writing the flags that the rules give a field keeps it. -/
theorem Backed.insert (h : form.Backed fieldRules flags) (hr : form.Ruled fieldRules)
    (field : String) (values : Dict String) :
    form.Backed fieldRules (flags.insert field (form.resolver.flagsOf field values)) := by
  intro f hf
  by_cases hk : field = f.keyword
  · subst hk
    refine ⟨_, Flags.has_insert_self.mandatory, fun hon => ?_⟩
    rcases Resolver.mandatory_cause hon with ⟨rule, hrule, haction⟩ | hdefault
    · rw [hr.rulesOn, List.mem_filter, decide_eq_true_eq] at hrule
      exact .inr ⟨rule, hrule.1, haction, hrule.2⟩
    · obtain ⟨b, hb, hcause⟩ := hr.backed_defaults f hf
      rw [hdefault] at hb
      exact hcause (Option.some.inj hb).symm
  · obtain ⟨b, hb, hcause⟩ := h f hf
    refine ⟨b, ?_, hcause⟩
    rw [Flags.insert, Dict.getElem?_insert, if_neg hk]
    exact hb

theorem Backed.recalculate (h : form.Backed fieldRules s.flags) (hr : form.Ruled fieldRules)
    (names : List String) :
    form.Backed fieldRules (form.resolver.recalculate names s).value.flags := by
  rw [Resolver.value_recalculate]
  exact List.foldlRecOn names _ h fun flags hflags name _ => hflags.insert hr name s.values

theorem Backed.update (h : form.Backed fieldRules s.flags) (hr : form.Ruled fieldRules)
    (field value : String) :
    form.Backed fieldRules (form.resolver.update field value s).value.flags :=
  Backed.recalculate (s := s.setValue field value) h hr _

theorem Backed.change (h : form.Backed fieldRules s.flags) (hr : form.Ruled fieldRules)
    (field value : String) :
    form.Backed fieldRules (form.change field value s).value.1.flags := by
  rw [value_change]
  exact cascade_induction (P := fun s => form.Backed fieldRules s.flags) (h.update hr field value)
    fun s name value hs => hs.update hr name value

theorem Ruled.backed_start (hr : form.Ruled fieldRules) (values : Dict String) :
    form.Backed fieldRules (form.start values).value.flags := by
  rw [start, Metered.value_bind, Resolver.recalculateAll]
  exact Backed.recalculate (s := { values := _, flags := form.resolver.defaults })
    hr.backed_defaults hr _

/-- The rules of a field check for a value exactly if its mandatory flag can be on. -/
theorem Ruled.rulesOf (hr : form.Ruled fieldRules) {f : Field} (hf : f ∈ form.fields) :
    form.rules.rulesOf f.keyword = (f.checksWith fieldRules).map f.rule := by
  rw [hr.rules]
  exact RuleSet.rulesOf_requireTargets hr.unique hf fieldRules

/-- A form reports on its fields exactly if they can be seen. -/
theorem reportsOn_visibleFields {f : Field} (hf : f ∈ form.fields) (s : FormState) :
    reportsOn (some (form.visibleFields s)) s f.keyword = s.isVisible f.keyword := by
  unfold reportsOn
  rw [Option.all_some]
  cases hvisible : s.isVisible f.keyword with
  | false => rw [Bool.and_false]
  | true =>
    have hin : f.keyword ∈ form.visibleFields s :=
      NameSet.mem_ofNames.2 (List.mem_filter.2 ⟨List.mem_map_of_mem hf, hvisible⟩)
    rw [Std.ExtTreeSet.contains_iff_mem.2 hin]
    rfl

/-- A validation reports a missing value of the fields that can be seen, are mandatory, have rules
that apply, and have no value. -/
theorem Backed.required_mem_validate (h : form.Backed fieldRules s.flags)
    (hr : form.Ruled fieldRules) {f : Field} (hf : f ∈ form.fields) :
    f.failureText .required ∈ (form.validate s).value.2.errors[f.keyword]?.getD [] ↔
      s.isVisible f.keyword = true ∧ s.isMandatory f.keyword = true ∧
        f.conditionHolds s.values = true ∧ s.value? f.keyword ∈ [none, some "", some "[]"] := by
  rw [value_validate, messages_validateForm, reportsOn_visibleFields hf, hr.rulesOf hf, ← isMissing_iff]
  obtain ⟨b, hb, hcause⟩ := h f hf
  have hmandatory : s.isMandatory f.keyword = b := by
    rw [FormState.isMandatory, hb, Option.getD_some]
  rw [hmandatory]
  cases s.isVisible f.keyword with
  | false => simp
  | true =>
    rw [if_pos rfl, required_mem_validateField, hb, Field.required_mem_checksWith]
    cases b with
    | false => simp
    | true => simp [hcause rfl]

end Form

/-! ## Sessions -/

namespace Session

theorem ruled_start {p : Product} (h : p.UniqueKeywords) (o : SessionOptions) :
    (start p o).form.Ruled
      (p.fieldRules.filter (·.inContext o.transactionCode o.stepCode)) := by
  rw [form_start, Form.value_ofProduct]
  exact ⟨h.fieldsIn o.transactionCode o.stepCode, rfl,
    fun k => Graph.fieldRulesOn_ofRules _ _ k, rfl⟩

/-- The flags of a session of this form are backed, and so are those that a reset restores. -/
structure KeepsBacked (form : Form) (fieldRules : List FieldRule) (s : Session) : Prop where
  form_eq : s.form = form
  flags : form.Backed fieldRules s.state.flags
  initialFlags : form.Backed fieldRules s.initialFlags

theorem KeepsBacked.perform {form : Form} {fieldRules : List FieldRule} {s : Session}
    (hev : s.evaluator.Faithful) (h : KeepsBacked form fieldRules s) (hr : form.Ruled fieldRules)
    (a : Interaction) :
    KeepsBacked form fieldRules (s.perform a) := by
  obtain ⟨rfl, hflags, hinitial⟩ := h
  refine ⟨s.form_perform a, ?_, by rwa [initialFlags_perform]⟩
  rcases state_perform hev a with ⟨field, value, -, hstate⟩ | ⟨-, hstate⟩ | ⟨-, hsame⟩
  · rw [hstate]
    exact hflags.change hr field value
  · rw [hstate, resetState]
    cases s.resetPolicy with
    | keepFlags => exact hflags
    | restoreFlags => exact hinitial
  · rw [hsame]
    exact hflags

/-- Every mandatory flag of a session is backed by a check, under each way to reset. -/
theorem backed_performAll {p : Product} (hunique : p.UniqueKeywords) (o : SessionOptions)
    (acts : List Interaction) :
    (start p o).form.Backed (p.fieldRules.filter (·.inContext o.transactionCode o.stepCode))
      ((start p o).performAll acts).state.flags := by
  have hr := ruled_start hunique o
  have hstart := hr.backed_start o.values
  rw [← state_start] at hstart
  have hall : KeepsBacked (start p o).form _ ((start p o).performAll acts) :=
    performAll_faithful (faithful_start p o) ⟨rfl, hstart, hstart⟩
      fun _ hev hs a _ => hs.perform hev hr a
  exact hall.flags

end Session

theorem Session.submit_fst (s : Session) : s.submit.1 =
    if s.validate.1.valid then .ok s.validate.2.state else .error s.validate.1 := rfl

/-- In every session, a validation reports a missing value of a field exactly if the field can be
seen, its mandatory flag is on, it has no condition or a blank one or one that holds, and there is no
value, an empty one, or an empty list.  So a submission that succeeds has values for all such
fields. -/
theorem required_reported (p : Product) (hunique : p.UniqueKeywords) (o : SessionOptions)
    (acts : List Interaction) :
    let s := (Session.start p o).performAll acts
    (∀ f ∈ p.fields, f.inContext o.transactionCode o.stepCode →
      (f.failureText .required ∈ s.validate.1.errors[f.keyword]?.getD [] ↔
        s.state.isVisible f.keyword = true ∧ s.state.isMandatory f.keyword = true ∧
          f.conditionHolds s.state.values = true ∧
          s.state.value? f.keyword ∈ [none, some "", some "[]"])) ∧
    ∀ accepted, s.submit.1 = .ok accepted → ∀ f ∈ p.fields,
      f.inContext o.transactionCode o.stepCode → s.state.isVisible f.keyword = true →
      s.state.isMandatory f.keyword = true → f.conditionHolds s.state.values = true →
      s.state.value? f.keyword ∉ [none, some "", some "[]"] := by
  intro s
  have hform : s.form = (Session.start p o).form := Session.form_performAll _ acts
  have hev : s.evaluator.Faithful := Session.evaluator_faithful p o acts
  have hr := hform ▸ Session.ruled_start hunique o
  have hbacked := hform ▸ Session.backed_performAll hunique o acts
  have hreported : ∀ f ∈ p.fields, f.inContext o.transactionCode o.stepCode →
      (f.failureText .required ∈ s.validate.1.errors[f.keyword]?.getD [] ↔
        s.state.isVisible f.keyword = true ∧ s.state.isMandatory f.keyword = true ∧
          f.conditionHolds s.state.values = true ∧
          s.state.value? f.keyword ∈ [none, some "", some "[]"]) := by
    intro f hf hcontext
    obtain ⟨values, hin⟩ := Product.exists_mem_fieldsIn hf hcontext
    have hmem : { f with values := values } ∈ s.form.fields := by
      rw [hform, Session.fields_start]
      exact hin
    rw [Session.validate_fst hev]
    exact hbacked.required_mem_validate (f := { f with values := values }) hr hmem
  refine ⟨hreported, ?_⟩
  intro accepted hsubmit f hf hcontext hvisible hmandatory hcondition hmissing
  have hvalid : s.validate.1.valid = true := by
    rw [Session.submit_fst] at hsubmit
    split at hsubmit
    · assumption
    · cases hsubmit
  have hfailed := (hreported f hf hcontext).2 ⟨hvisible, hmandatory, hcondition, hmissing⟩
  rw [Verdict.messages_of_valid hvalid] at hfailed
  exact List.not_mem_nil hfailed

/-- A rule makes the nominee mandatory once there is cover, also behind a reset that keeps flags.
The nominee's value, an empty list, is then reported as missing.  A name is accepted. -/
theorem required_reported_nominee :
    let nominee : Field := {
      keyword := "NOMINEE", caption := "Nominee", validationCondition := "@COVER != 'none'" }
    let p : Product := {
      fields := [{ keyword := "COVER" }, nominee]
      fieldRules := [
        { trigger := "COVER", target := "NOMINEE", action := .mandatory, gate := "@COVER > 0" }] }
    let o : SessionOptions := {
      transaction := "", step := "", settings := { reset := .keepFlags } }
    let listed := (Session.start p o).performAll
      [.change "COVER" "5", .reset, .change "NOMINEE" "[]", .validate]
    let named := (Session.start p o).performAll [.change "COVER" "5", .change "NOMINEE" "Asha"]
    p.UniqueKeywords ∧ nominee.failureText .required = "Nominee is required" ∧
      nominee.failureText .required ∈ listed.validate.1.errors[nominee.keyword]?.getD [] ∧
      (∃ accepted, named.submit.1 = .ok accepted) ∧
      named.state.value? nominee.keyword ∉ [none, some "", some "[]"] := by
  intro nominee p o listed named
  have hunique : p.UniqueKeywords := by decide
  have hin : nominee ∈ p.fields ∧ nominee.inContext o.transactionCode o.stepCode = true := by
    decide
  have hlisted : listed = (Session.start p o).performAll
      [.change "COVER" "5", .reset, .change "NOMINEE" "[]", .validate] := rfl
  have hnamed : named = (Session.start p o).performAll
      [.change "COVER" "5", .change "NOMINEE" "Asha"] := rfl
  have hreported := (required_reported p hunique o
    [.change "COVER" "5", .reset, .change "NOMINEE" "[]", .validate]).1 nominee hin.1 hin.2
  have hfilled := (required_reported p hunique o
    [.change "COVER" "5", .change "NOMINEE" "Asha"]).2
  rw [← hlisted] at hreported
  rw [← hnamed] at hfilled
  have hvalid : named.validate.1.valid = true := by decide +kernel
  have haccepted : named.submit.1 = .ok named.validate.2.state := by
    rw [Session.submit_fst, if_pos hvalid]
  have hflags : named.state.isVisible nominee.keyword = true ∧
      named.state.isMandatory nominee.keyword = true ∧
      nominee.conditionHolds named.state.values = true := by decide +kernel
  refine ⟨hunique, by decide +kernel, hreported.2 (by decide +kernel), ⟨_, haccepted⟩, ?_⟩
  exact hfilled _ haccepted nominee hin.1 hin.2 hflags.1 hflags.2.1 hflags.2.2

end FormLogic
