import FormLogic.Proofs.Session.Shape

/-!
# FormLogic.Proofs.Session.Agreement

Fields that are validated one by one agree with a form that is validated as a whole.

* `Session.blurAll`: the session behind blurs of some fields, one after another;
* `frame_blurAll`, `errors_blurAll`: what they leave alone, and the messages behind them;
* `FormState.shownErrors`: the messages of the fields that can be seen;
* `blurs_agree`: blurs of all fields that can be seen show what a validation reports.

What is reported for a field depends on values and mandatory flags, and a blur writes neither.  So
the order of the blurs does not matter, and neither does how often a field is blurred.
-/

namespace FormLogic

open Formula

/-- The messages of the fields that can be seen. -/
def FormState.shownErrors (s : FormState) : Dict (List String) :=
  s.errors.filter fun k _ => s.isVisible k

theorem FormState.getElem?_shownErrors (s : FormState) (k : String) :
    s.shownErrors[k]? = if s.isVisible k then s.errors[k]? else none := by
  rw [shownErrors, Std.ExtTreeMap.getElem?_filter']
  cases s.isVisible k <;> cases s.errors[k]? <;> rfl

namespace Session

variable {s : Session}

/-- The session behind blurs, one after another. -/
def blurAll (s : Session) (names : List String) : Session := s.performAll (names.map .blur)

/-! ## Blurs -/

theorem blurAll_cons (s : Session) (name : String) (names : List String) :
    s.blurAll (name :: names) = (s.blur name).blurAll names := rfl

/-- Blurs leave values and flags. -/
theorem frame_blurAll (hev : s.evaluator.Faithful) (names : List String) :
    (s.blurAll names).state.values = s.state.values ∧
      (s.blurAll names).state.flags = s.state.flags := by
  induction names generalizing s with
  | nil => exact ⟨rfl, rfl⟩
  | cons name names ih =>
    have hrest := ih (faithful_perform hev (.blur name))
    rw [perform, state_blur hev, Form.value_blur] at hrest
    exact hrest

theorem isVisible_blurAll (hev : s.evaluator.Faithful) (names : List String) (k : String) :
    (s.blurAll names).state.isVisible k = s.state.isVisible k := by
  rw [FormState.isVisible, (frame_blurAll hev names).2, ← FormState.isVisible]

/-- Behind blurs each field that was blurred has the messages that it would have at first. -/
theorem errors_blurAll (hev : s.evaluator.Faithful) (names : List String) (k : String) :
    (s.blurAll names).state.errors[k]? =
      if k ∈ names then reportOf s.form.rules s.state k else s.state.errors[k]? := by
  induction names generalizing s with
  | nil => rfl
  | cons name names ih =>
    have hblur : (s.blur name).state.errors[k]? =
        if name = k then reportOf s.form.rules s.state k else s.state.errors[k]? := by
      rw [state_blur hev]
      exact s.form.errors_blur name s.state k
    have hreport : reportOf s.form.rules (s.blur name).state k =
        reportOf s.form.rules s.state k := by
      rw [state_blur hev, Form.value_blur]
      exact reportOf_congr rfl rfl s.form.rules k
    have hform : (s.blur name).form = s.form := rfl
    have hbehind : (s.blur name).evaluator.Faithful := faithful_perform hev (.blur name)
    rw [blurAll_cons, ih hbehind, hblur, hform, hreport]
    by_cases hk : k = name
    · simp [hk]
    · simp [hk, Ne.symm hk]

/-! ## Validations -/

theorem errors_validate (hev : s.evaluator.Faithful) (hr : s.form.WellRuled) (k : String) :
    s.validate.1.errors[k]? =
      if s.state.isVisible k then reportOf s.form.rules s.state k else none := by
  rw [← Form.errors_validate hr.rules, validate_fst hev, Form.value_validate]

/-- A validation leaves nothing for blurs of fields that can be seen to do. -/
theorem errors_validate_blurAll (hev : s.evaluator.Faithful) (hr : s.form.WellRuled) {names : List String}
    (hseen : ∀ k ∈ names, s.state.isVisible k = true) :
    (s.validate.2.blurAll names).state.errors = s.validate.1.errors := by
  have hbehind : s.validate.2.evaluator.Faithful := faithful_perform hev .validate
  refine Std.ExtTreeMap.ext_getElem? fun {k} => ?_
  rw [errors_blurAll hbehind, validate_snd_state hev]
  split
  · rename_i hk
    rw [errors_validate hev hr, if_pos (hseen k hk)]
    exact reportOf_congr rfl rfl s.form.rules k
  · rfl

/-- Blurs of all fields that can be seen show what a validation reports. -/
theorem shownErrors_blurAll (hev : s.evaluator.Faithful) (hr : s.form.WellRuled)
    {given : Dict String} (hs : s.form.Shaped given s.state) {names : List String}
    (hall : ∀ f ∈ s.form.fields, s.state.isVisible f.keyword = true → f.keyword ∈ names) :
    (s.blurAll names).state.shownErrors = s.validate.1.errors := by
  refine Std.ExtTreeMap.ext_getElem? fun {k} => ?_
  rw [FormState.getElem?_shownErrors, isVisible_blurAll hev, errors_blurAll hev,
    errors_validate hev hr]
  by_cases hseen : s.state.isVisible k = true
  · rw [if_pos hseen, if_pos hseen]
    by_cases hk : k ∈ names
    · rw [if_pos hk]
    · -- a field that can be seen and was not blurred has no rules, and so no messages
      have hrules : s.form.rules.rulesOf k = [] := by
        by_contra hrules
        obtain ⟨f, hf, rfl⟩ := hr.rules k (RuleSet.mem_of_rulesOf hrules)
        exact hk (hall f hf hseen)
      rw [if_neg hk, reportOf_eq_none hrules]
      exact Option.eq_none_iff_forall_ne_some.2 fun messages h => (hs.errors k messages h).2 hrules
  · rw [if_neg hseen, if_neg hseen]

end Session

/-- In every session, a validation puts what it reports into the state, and blurs of fields that can
be seen leave that as it is.  Without the validation, blurs of all fields of the context that can be
seen, in any order, show for the fields that can be seen what a validation would report, and the
validation would find the form valid exactly if they show nothing. -/
theorem blurs_agree (p : Product) (o : SessionOptions) (acts : List Interaction) :
    let s := (Session.start p o).performAll acts
    s.validate.2.state.errors = s.validate.1.errors ∧
    (∀ names : List String, (∀ k ∈ names, s.state.isVisible k = true) →
      (s.validate.2.blurAll names).state.errors = s.validate.2.state.errors) ∧
    ∀ names : List String, (∀ f ∈ p.fields, f.inContext o.transactionCode o.stepCode →
        s.state.isVisible f.keyword = true → f.keyword ∈ names) →
      (s.blurAll names).state.shownErrors = s.validate.2.state.errors ∧
      (s.validate.1.valid = true ↔ (s.blurAll names).state.shownErrors = ∅) := by
  intro s
  have hev : s.evaluator.Faithful := Session.evaluator_faithful p o acts
  have hform : s.form = (Session.start p o).form := Session.form_performAll _ acts
  have hr : s.form.WellRuled := hform ▸ Session.wellRuled_start p o
  have hs : s.form.Shaped o.values s.state := hform ▸ Session.shaped_performAll p o acts
  have herrors : s.validate.2.state.errors = s.validate.1.errors :=
    congrArg (·.errors) (Session.validate_snd_state hev)
  rw [herrors]
  refine ⟨rfl, fun names hseen => Session.errors_validate_blurAll hev hr hseen,
    fun names hall => ?_⟩
  have hshown : (s.blurAll names).state.shownErrors = s.validate.1.errors := by
    refine Session.shownErrors_blurAll hev hr hs fun f hf hseen => ?_
    obtain ⟨g, hg, hcontext, hkeyword⟩ :=
      (Session.exists_field_start p o f.keyword).1 ⟨f, hform ▸ hf, rfl⟩
    exact hkeyword ▸ hall g hg hcontext (hkeyword ▸ hseen)
  exact ⟨hshown, hshown ▸ Std.ExtTreeMap.isEmpty_iff⟩

/-- The note was found missing before a change hid it.  Its message stays behind the blurs of the
other fields, and is not among those shown. -/
theorem blurs_agree_hidden :
    let p : Product := {
      fields := [{ keyword := "AGE", condition := "@AGE > 17" },
        { keyword := "NAME", mandatory := true }, { keyword := "NOTE", mandatory := true }]
      fieldRules := [
        { trigger := "AGE", target := "NOTE", action := .hide, gate := "@AGE < 18" }] }
    let o : SessionOptions := { transaction := "", step := "" }
    let s := (Session.start p o).performAll [.blur "NOTE", .change "AGE" "5"]
    (s.blurAll ["NAME", "AGE"]).state.errors["NOTE"]? = some ["NOTE is required"] ∧
      (s.blurAll ["NAME", "AGE"]).state.shownErrors = s.validate.2.state.errors ∧
      (s.validate.2.blurAll ["AGE", "NAME", "AGE"]).state.errors = s.validate.2.state.errors ∧
      s.validate.2.state.errors["AGE"]? = some ["AGE validation failed"] := by
  intro p o s
  have hs : s = (Session.start p o).performAll [.blur "NOTE", .change "AGE" "5"] := rfl
  have hboth := blurs_agree p o [.blur "NOTE", .change "AGE" "5"]
  rw [← hs] at hboth
  obtain ⟨-, hkept, hshown⟩ := hboth
  refine ⟨by decide +kernel, (hshown ["NAME", "AGE"] ?_).1, hkept ["AGE", "NAME", "AGE"] ?_,
    by decide +kernel⟩
  · show ∀ f ∈ p.fields, _
    decide +kernel
  · decide +kernel

end FormLogic
