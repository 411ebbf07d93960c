import FormLogic.Proofs.Formula.Usage
import FormLogic.Proofs.Session.Mandatory
import FormLogic.Proofs.Session.Reset
import FormLogic.Proofs.Session.Start
import FormLogic.Proofs.Session.Upkeep

/-!
# FormLogic.Proofs.Session.Shape

Which entries the state of a session has.

* `errors_blur`, `errors_validate`: the messages behind a blur and behind a validation;
* `Form.Shaped`: which fields have flags and messages, and which values there are at least;
* `Shaped.change`, `Shaped.blur`, `Shaped.validate`, `Shaped.forget`: what is done to a form keeps
  it;
* `shaped_performAll`: it holds in every session;
* `session_shape`: what that means for fields and rules of the product, and what a submission that
  fails leaves alone;
* `failed_submit_counts`: the counters of the evaluator are not among that.
-/

namespace FormLogic

open Formula

namespace Form

variable {form : Form} {given : Dict String} {s : FormState}

/-! ## Messages -/

theorem value_fieldMessages (form : Form) (field : String) (s : FormState) :
    (form.fieldMessages field s).value =
      (validateField field (s.value? field) (form.rules.rulesOf field) s).value := by
  unfold fieldMessages RuleSet.rulesOf
  cases form.rules[field]? <;> rfl

theorem errors_setErrors (s : FormState) (field : String) (messages : List String) (k : String) :
    (setErrors s field messages).errors[k]? =
      if field = k then (some messages).filter (!·.isEmpty) else s.errors[k]? := by
  unfold setErrors
  cases messages with
  | nil => exact Dict.getElem?_erase s.errors field k
  | cons message messages => exact Dict.getElem?_insert s.errors field k (message :: messages)

/-- A blur replaces the messages of its field by what is reported for the field now. -/
theorem errors_blur (form : Form) (field : String) (s : FormState) (k : String) :
    (form.blur field s).value.1.errors[k]? =
      if field = k then reportOf form.rules s k else s.errors[k]? := by
  rw [value_blur, errors_setErrors, value_fieldMessages]
  split
  · rename_i hk
    subst hk
    -- whether a field is touched does not matter
    exact reportOf_congr rfl rfl form.rules field
  · rfl

/-- A validation replaces all messages by what is reported for the fields that can be seen now. -/
theorem errors_validate (hrules : form.rules.BelongsTo form.fields) (s : FormState) (k : String) :
    (form.validate s).value.1.errors[k]? =
      if s.isVisible k then reportOf form.rules s k else none := by
  rw [value_validate, errors_validateForm]
  by_cases hk : form.rules.rulesOf k = []
  · rw [reportOf_eq_none hk, ite_self, ite_self]
  · obtain ⟨f, hf, rfl⟩ := hrules k (RuleSet.mem_of_rulesOf hk)
    rw [reportsOn_visibleFields hf]

/-! ## Shapes -/

/-- The fields of a form, and all others that it has rules on. -/
def Flagged (form : Form) (k : String) : Prop :=
  (∃ f ∈ form.fields, f.keyword = k) ∨ k ∈ form.resolver.graph.ruled

/-- Each kind of flag is there for the same fields, messages are there for fields with rules only
and then at least one, and every value that was given at first has been kept or replaced. -/
structure Shaped (form : Form) (given : Dict String) (s : FormState) : Prop where
  flags : s.flags.Keyed form.Flagged
  errors : ∀ k messages, s.errors[k]? = some messages →
    messages ≠ [] ∧ form.rules.rulesOf k ≠ []
  given : ∀ k ∈ given, k ∈ s.values

/-- The flags that hold without rules are those of the form's fields, no change reaches beyond
fields with rules, and only fields are validated. -/
structure WellRuled (form : Form) : Prop where
  defaults : form.resolver.defaults = Flags.ofFields form.fields
  affected : ∀ field, form.resolver.graph.affected field ⊆ form.resolver.graph.ruled
  rules : form.rules.BelongsTo form.fields

theorem WellRuled.shaped_start (hr : form.WellRuled) (given : Dict String) :
    form.Shaped given (form.start given).value where
  flags := by
    have hdefaults : form.resolver.defaults.Keyed fun k => ∃ f ∈ form.fields, f.keyword = k :=
      hr.defaults ▸ Flags.keyed_ofFields form.fields
    rw [start, Metered.value_bind]
    exact (Resolver.keyed_recalculate (s := { flags := form.resolver.defaults, values := _ })
      hdefaults form.resolver.graph.ruled).congr fun k => or_comm
  errors k messages h := by
    rw [start, Metered.value_bind, Resolver.recalculateAll, Resolver.value_recalculate] at h
    simp at h
  given _ h := mem_values_start h

theorem Shaped.update (h : form.Shaped given s) (hr : form.WellRuled) (field value : String) :
    form.Shaped given (form.resolver.update field value s).value where
  flags := (Resolver.keyed_recalculate (s := s.setValue field value) h.flags _).congr
    fun _ => or_iff_right_of_imp fun hk => .inr (hr.affected field hk)
  errors := by
    rw [Resolver.errors_update]
    exact h.errors
  given k hk := by
    rw [Resolver.values_update]
    exact Dict.mem_insert.2 (.inr (h.given k hk))

theorem Shaped.change (h : form.Shaped given s) (hr : form.WellRuled) (field value : String) :
    form.Shaped given (form.change field value s).value.1 := by
  have hcascade : form.Shaped given (form.cascade (form.defaults.downstream field)
      (form.resolver.update field value s).value).value.1 :=
    cascade_induction (h.update hr field value) fun _ name value hs => hs.update hr name value
  rw [value_change]
  refine ⟨hcascade.flags, fun k messages hk => ?_, hcascade.given⟩
  rw [Dict.getElem?_erase] at hk
  split at hk
  · cases hk
  · exact hcascade.errors k messages hk

theorem Shaped.blur (h : form.Shaped given s) (field : String) :
    form.Shaped given (form.blur field s).value.1 where
  flags := value_blur form field s ▸ h.flags
  errors k messages hk := by
    rw [errors_blur] at hk
    split at hk
    · exact rules_of_reportOf hk
    · exact h.errors k messages hk
  given := value_blur form field s ▸ h.given

theorem Shaped.validate (h : form.Shaped given s) (hr : form.WellRuled) :
    form.Shaped given (form.validate s).value.1 where
  flags := value_validate form s ▸ h.flags
  errors k messages hk := by
    rw [errors_validate hr.rules] at hk
    split at hk
    · exact rules_of_reportOf hk
    · cases hk
  given := value_validate form s ▸ h.given

/-- A reset leaves flags and what was given. -/
theorem Shaped.forget (h : form.Shaped given s) :
    form.Shaped given { values := given, flags := s.flags } where
  flags := h.flags
  errors k messages hk := by simp at hk
  given _ hk := hk

end Form

/-! ## Sessions -/

namespace Session

theorem wellRuled_start (p : Product) (o : SessionOptions) : (start p o).form.WellRuled := by
  rw [form_start, Form.value_ofProduct]
  exact ⟨rfl, fun _ _ => Graph.ruled_of_mem_affected,
    (RuleSet.belongsTo_ofFields _).requireTargets _⟩

/-- Every session has the shape, under each way to reset. -/
theorem shaped_performAll (p : Product) (o : SessionOptions) (acts : List Interaction) :
    (start p o).form.Shaped o.values ((start p o).performAll acts).state := by
  have hr := wellRuled_start p o
  have hstart : (start p o).form.Shaped o.values (start p o).state :=
    state_start p o ▸ hr.shaped_start o.values
  exact state_performAll (faithful_start p o) hstart (fun _ field value h => h.change hr field value)
    (fun _ field h => h.blur field) (fun _ h => h.validate hr) (fun _ h => h.forget) hstart.forget
    acts

/-- The keywords of a session's fields are those of the product's fields in its context. -/
theorem exists_field_start (p : Product) (o : SessionOptions) (k : String) :
    (∃ f ∈ (start p o).form.fields, f.keyword = k) ↔
      ∃ f ∈ p.fields, f.inContext o.transactionCode o.stepCode ∧ f.keyword = k := by
  have hkeywords : (start p o).form.fields.map (·.keyword) =
      (p.fields.filter (·.inContext o.transactionCode o.stepCode)).map (·.keyword) :=
    fields_start p o ▸ p.map_fieldsIn (fun _ _ => rfl) _ _
  rw [← List.mem_map, hkeywords]
  simp [and_assoc]

/-- What a submission does besides its answer. -/
theorem submit_snd {s : Session} (hev : s.evaluator.Faithful) : s.submit.2 = { s with
    state := { s.state with errors := s.validate.1.errors }
    events := s.events ++ [.validated s.validate.1.valid s.validate.1.errors.size]
    evaluator := s.evaluator.serveAll (s.form.validate s.state).requests } := by
  rw [← validate_snd_state hev, ← hev.run_snd]
  rfl

end Session

/-- In every session, under each way to reset, the four kinds of flags are there for one and the
same fields: those of the context, and all that a rule of the context is on.  Each entry of the
messages has at least one and belongs to a field of the context that has rules.  Every value that was
given at first is still there or has been replaced.  A submission that fails replaces the messages,
records that it was validated, and has its formulas counted and kept by the evaluator; it changes
nothing else. -/
theorem session_shape (p : Product) (o : SessionOptions) (acts : List Interaction) :
    let s := (Session.start p o).performAll acts
    (s.state.flags.Keyed fun k => (∃ f ∈ p.fields,
      f.inContext o.transactionCode o.stepCode ∧ f.keyword = k) ∨ p.Ruled o k) ∧
    (∀ k messages, s.state.errors[k]? = some messages → messages ≠ [] ∧
      s.form.rules.rulesOf k ≠ [] ∧
      ∃ f ∈ p.fields, f.inContext o.transactionCode o.stepCode ∧ f.keyword = k) ∧
    (∀ k ∈ o.values, k ∈ s.state.values) ∧
    ∀ v, s.submit.1 = .error v → s.submit.2 = { s with
      state := { s.state with errors := v.errors }
      events := s.events ++ [.validated false v.errors.size]
      evaluator := s.evaluator.serveAll (s.form.validate s.state).requests } := by
  intro s
  have hform : s.form = (Session.start p o).form := Session.form_performAll _ acts
  have hev : s.evaluator.Faithful := Session.evaluator_faithful p o acts
  have hshape := Session.shaped_performAll p o acts
  refine ⟨?_, fun k messages hk => ?_, hshape.given, fun v hv => ?_⟩
  · exact hshape.flags.congr fun k =>
      or_congr (Session.exists_field_start p o k) (Session.mem_ruled_start p o k)
  · obtain ⟨hmessages, hrules⟩ := hshape.errors k messages hk
    have hfield := (Session.wellRuled_start p o).rules k (RuleSet.mem_of_rulesOf hrules)
    rw [hform]
    exact ⟨hmessages, hrules, (Session.exists_field_start p o k).1 hfield⟩
  · rw [Session.submit_fst] at hv
    split at hv
    · cases hv
    · rename_i hinvalid
      obtain rfl := Except.error.inj hv
      rw [Session.submit_snd hev, eq_false_of_ne_true hinvalid]

/-- A rule on a field that the product does not have gives it flags.  The age that was given is
there again behind a reset, and a submission that fails shows what is wrong with it. -/
theorem session_shape_age :
    let p : Product := {
      fields := [{ keyword := "AGE", condition := "@AGE > 17" }]
      fieldRules := [{ trigger := "AGE", target := "NOTE", action := .hide }] }
    let o : SessionOptions := {
      transaction := "", step := "", values := Dict.ofPairs [("AGE", "5")],
      settings := { reset := .restoreFlags } }
    let s := (Session.start p o).performAll [.change "AGE" "30", .blur "AGE", .reset]
    ∃ v, s.submit.1 = .error v ∧
      s.submit.2.state = { s.state with errors := v.errors } ∧
      v.errors["AGE"]? = some ["AGE validation failed"] ∧
      "NOTE" ∈ s.state.flags.mandatory ∧ "AGE" ∈ s.state.values := by
  intro p o s
  have hinvalid : s.validate.1.valid = false := by decide +kernel
  have hv : s.submit.1 = .error s.validate.1 := by
    rw [Session.submit_fst, if_neg (by simp [hinvalid])]
  have hs : s = (Session.start p o).performAll [.change "AGE" "30", .blur "AGE", .reset] := rfl
  have hall := session_shape p o [.change "AGE" "30", .blur "AGE", .reset]
  rw [← hs] at hall
  obtain ⟨hflags, -, hgiven, hsubmit⟩ := hall
  refine ⟨s.validate.1, hv, ?_, by decide +kernel, ?_, hgiven "AGE" (by decide +kernel)⟩
  · rw [hsubmit s.validate.1 hv]
  · exact (hflags.mandatory "NOTE").2 (.inr (.inl ⟨_, List.mem_singleton_self _, by decide, rfl⟩))

/-- A submission that fails has evaluated the condition of a field, and the evaluator counts
that. -/
theorem failed_submit_counts :
    let p : Product := { fields := [{
      keyword := "AGE", transaction := "ISSU", step := "NBQUOTE", condition := "@AGE > 17" }] }
    let s := Session.start p { values := Dict.ofPairs [("AGE", "5")] }
    ∃ v, s.submit.1 = .error v ∧ ∀ errors events, s.submit.2 ≠
      { s with state := { s.state with errors := errors }, events := events } := by
  intro p s
  have hinvalid : s.validate.1.valid = false := by decide +kernel
  refine ⟨s.validate.1, ?_, fun errors events hsame => ?_⟩
  · rw [Session.submit_fst, if_neg (by simp [hinvalid])]
  · have hcounts : s.submit.2.evaluator.evaluations = s.evaluator.evaluations :=
      congrArg (·.evaluator.evaluations) hsame
    revert hcounts
    decide +kernel

end FormLogic
