import FormLogic.Proofs.Session.Offer

/-!
# FormLogic.Proofs.Session.Reset

What a reset forgets.

* `Session.react`, `Session.reactions`: what an interaction shows, and what many of them show;
* `state_performAll`: what changes, blurs, validations and resets keep holds of every later state;
* `Alike`: sessions that differ in their record, their listener and their evaluators at most;
* `Alike.perform`, `Alike.react`: an interaction keeps sessions alike and shows the same of both;
* `log_performAll`: what sessions that are alike have recorded differs by what they had before;
* `reset_forgets`: a reset that restores the flags makes all histories alike.

The memo of drawn options is part of `Alike`: a reset empties it, so that nothing has to be known
about what it held.  The memo of the evaluator is not: it outlives a reset, and two histories leave
different texts in it.  All that is asked of it is that it is faithful, and so that it makes no
difference to any answer.
-/

namespace FormLogic

open Formula

/-- What a session answers.  What `takeEvents` and `takeNotices` hand over has been recorded by
other interactions and is no answer of their own. -/
inductive Answer where
  | none
  | verdict (v : Verdict)
  | submission (r : Except Verdict FormState)
  | options (choices : List Choice)
  | sections (sections : List Section)

/-- What can be seen of an interaction: its answer, the events that it records, the state behind it,
and what that state offers and shows. -/
structure Reaction where
  answer : Answer
  recorded : List Event
  state : FormState
  options : String → List Choice
  sections : List Section

namespace Session

/-- The answer to an interaction. -/
def answer (s : Session) : Interaction → Answer
  | .validate => .verdict s.validate.1
  | .submit => .submission s.submit.1
  | .fieldOptions field => .options (s.fieldOptions field).1
  | .sections => .sections s.sections.1
  | _ => .none

/-- The events that are recorded by an interaction. -/
def recorded (s : Session) (a : Interaction) : List Event :=
  (s.perform a).events.drop s.events.length

/-- What the listener is told by an interaction. -/
def told (s : Session) (a : Interaction) : List Notice :=
  (s.perform a).notices.drop s.notices.length

def react (s : Session) (a : Interaction) : Reaction where
  answer := s.answer a
  recorded := s.recorded a
  state := (s.perform a).state
  options := fun field => ((s.perform a).fieldOptions field).1
  sections := (s.perform a).sections.1

/-- What can be seen of interactions, one after another. -/
def reactions (s : Session) : List Interaction → List Reaction
  | [] => []
  | a :: acts => s.react a :: (s.perform a).reactions acts

/-! ## Frames -/

theorem notify_frame (s : Session) (field value : String) :
    (s.notify field value).initialValues = s.initialValues ∧
      (s.notify field value).resetPolicy = s.resetPolicy ∧
      (s.notify field value).listener = s.listener := by
  obtain ⟨notices, hnotices⟩ := s.notify_eq field value
  rw [hnotices]
  exact ⟨rfl, rfl, rfl⟩

theorem initialValues_perform (s : Session) (a : Interaction) :
    (s.perform a).initialValues = s.initialValues := by
  cases a with
  | change field value => exact (notify_frame _ field value).1
  | _ => rfl

theorem resetPolicy_perform (s : Session) (a : Interaction) :
    (s.perform a).resetPolicy = s.resetPolicy := by
  cases a with
  | change field value => exact (notify_frame _ field value).2.1
  | _ => rfl

theorem listener_change (s : Session) (field value : String) :
    (s.change field value).listener = s.listener :=
  (notify_frame _ field value).2.2

/-- What a reset goes back to is settled at the start. -/
theorem origins_performAll (s : Session) (acts : List Interaction) :
    (s.performAll acts).initialValues = s.initialValues ∧
      (s.performAll acts).initialFlags = s.initialFlags ∧
      (s.performAll acts).resetPolicy = s.resetPolicy := by
  refine performAll_induction (P := fun t => t.initialValues = s.initialValues ∧
    t.initialFlags = s.initialFlags ∧ t.resetPolicy = s.resetPolicy) ⟨rfl, rfl, rfl⟩ ?_
  rintro t ⟨hvalues, hflags, hpolicy⟩ a -
  exact ⟨(t.initialValues_perform a).trans hvalues, (t.initialFlags_perform a).trans hflags,
    (t.resetPolicy_perform a).trans hpolicy⟩

/-- What changes, blurs and validations keep of a state holds of the state that is reached, if it
holds with the values and flags that a reset can go back to. -/
theorem state_performAll {P : FormState → Prop} {s : Session} (hev : s.evaluator.Faithful)
    (hs : P s.state)
    (hchange : ∀ t field value, P t → P (s.form.change field value t).value.1)
    (hblur : ∀ t field, P t → P (s.form.blur field t).value.1)
    (hvalidate : ∀ t, P t → P (s.form.validate t).value.1)
    (hkeep : ∀ t, P t → P { values := s.initialValues, flags := t.flags })
    (hrestore : P { values := s.initialValues, flags := s.initialFlags })
    (acts : List Interaction) : P (s.performAll acts).state := by
  have hall : P (s.performAll acts).state ∧ (s.performAll acts).form = s.form ∧
      (s.performAll acts).initialValues = s.initialValues ∧
      (s.performAll acts).initialFlags = s.initialFlags := by
    refine performAll_faithful (P := fun t => P t.state ∧ t.form = s.form ∧
      t.initialValues = s.initialValues ∧ t.initialFlags = s.initialFlags)
      hev ⟨hs, rfl, rfl, rfl⟩ ?_
    rintro t hev ⟨ht, hform, hvalues, hflags⟩ a -
    refine ⟨?_, (t.form_perform a).trans hform, (t.initialValues_perform a).trans hvalues,
      (t.initialFlags_perform a).trans hflags⟩
    cases a with
    | change field value =>
      rw [perform, state_change hev, hform]
      exact hchange t.state field value ht
    | blur field =>
      rw [perform, state_blur hev, hform]
      exact hblur t.state field ht
    | validate | submit =>
      show P t.validate.2.state
      rw [state_validate hev, hform]
      exact hvalidate t.state ht
    | reset =>
      show P t.resetState
      rw [resetState, hvalues, hflags]
      cases t.resetPolicy with
      | keepFlags => exact hkeep t.state ht
      | restoreFlags => exact hrestore
    | listen | takeEvents | takeNotices | fieldOptions | sections => exact ht
  exact hall.1

/-- What an interaction records depends on the form and the state. -/
theorem recorded_eq {s : Session} (hev : s.evaluator.Faithful) (a : Interaction) :
    s.recorded a = match a with
      | .change field value =>
        [.valueChanged field value (s.form.change field value s.state).value.2]
      | .blur field => [.blurred field (s.form.blur field s.state).value.2]
      | .validate | .submit =>
        let v := (s.form.validate s.state).value.2
        [.validated v.valid v.errors.size]
      | .reset => [.reset]
      | _ => [] := by
  unfold recorded
  cases a with
  | change field value => rw [perform, events_change hev, List.drop_left]
  | blur field => rw [perform, events_blur hev, List.drop_left]
  | validate | submit =>
    show s.validate.2.events.drop s.events.length = _
    rw [events_validate hev, List.drop_left]
  | takeEvents => exact List.drop_nil
  | listen | takeNotices | fieldOptions | sections => exact List.drop_length
  | reset => exact List.drop_left

/-- Events are only added, unless they are taken. -/
theorem events_perform {s : Session} (hev : s.evaluator.Faithful) (a : Interaction) :
    (s.perform a).events = (if a = .takeEvents then [] else s.events) ++ s.recorded a := by
  rw [recorded_eq hev]
  cases a with
  | change field value => exact events_change hev field value
  | blur field => exact events_blur hev field
  | validate | submit => exact events_validate hev
  | listen | takeNotices | fieldOptions | sections => exact (List.append_nil _).symm
  | takeEvents | reset => rfl

/-- A change tells the listener, if there is one, about the values behind it. -/
theorem notices_change {s : Session} (hev : s.evaluator.Faithful) (field value : String) :
    (s.change field value).notices = s.notices ++ s.listener.toList.map fun listener =>
      ⟨listener, field, value, (s.form.change field value s.state).value.1.values⟩ := by
  have hrun := run_fst hev (s.form.change field value s.state)
  unfold change notify
  cases hlistener : s.listener with
  | none => simp [hlistener, record, run]
  | some listener =>
    rw [← hrun]
    simp [hlistener, record, run]

/-- What the listener is told depends on it, the form and the state. -/
theorem told_eq {s : Session} (hev : s.evaluator.Faithful) (a : Interaction) :
    s.told a = match a with
      | .change field value => s.listener.toList.map fun listener =>
        ⟨listener, field, value, (s.form.change field value s.state).value.1.values⟩
      | _ => [] := by
  unfold told
  cases a with
  | change field value => rw [perform, notices_change hev, List.drop_left]
  | takeNotices => exact List.drop_nil
  | _ => exact List.drop_length

/-- The listener is only told more, unless what it was told is taken. -/
theorem notices_perform {s : Session} (hev : s.evaluator.Faithful) (a : Interaction) :
    (s.perform a).notices = (if a = .takeNotices then [] else s.notices) ++ s.told a := by
  rw [told_eq hev]
  cases a with
  | change field value => exact notices_change hev field value
  | takeNotices => rfl
  | _ => exact (List.append_nil _).symm

end Session

/-! ## Sessions without their history -/

/-- Sessions that differ in their record, their listener and their evaluators at most, where the
memos of the evaluators need not hold the same texts. -/
structure Alike (s t : Session) : Prop where
  faithful : s.evaluator.Faithful
  faithful' : t.evaluator.Faithful
  form : s.form = t.form
  state : s.state = t.state
  initialValues : s.initialValues = t.initialValues
  initialFlags : s.initialFlags = t.initialFlags
  resetPolicy : s.resetPolicy = t.resetPolicy
  memo : s.memo = t.memo

namespace Alike

variable {s t : Session}

theorem resetState (h : Alike s t) : s.resetState = t.resetState := by
  unfold Session.resetState
  rw [h.initialValues, h.initialFlags, h.resetPolicy, h.state]

theorem state_perform (h : Alike s t) (a : Interaction) :
    (s.perform a).state = (t.perform a).state := by
  cases a with
  | change field value =>
    rw [Session.perform, Session.perform, Session.state_change h.faithful,
      Session.state_change h.faithful', h.form, h.state]
  | blur field =>
    rw [Session.perform, Session.perform, Session.state_blur h.faithful,
      Session.state_blur h.faithful', h.form, h.state]
  | validate | submit =>
    show s.validate.2.state = t.validate.2.state
    rw [Session.state_validate h.faithful, Session.state_validate h.faithful', h.form, h.state]
  | reset => exact h.resetState
  | _ => exact h.state

theorem memo_perform (h : Alike s t) (a : Interaction) :
    (s.perform a).memo = (t.perform a).memo := by
  cases a with
  | change field value =>
    rw [Session.perform, Session.perform, Session.memo_change, Session.memo_change, h.memo]
  | fieldOptions field =>
    rw [Session.perform, Session.perform, Session.memo_fieldOptions h.faithful,
      Session.memo_fieldOptions h.faithful', h.form, h.state, h.memo]
  | sections =>
    rw [Session.perform, Session.perform, Session.memo_sections h.faithful,
      Session.memo_sections h.faithful', h.form, h.state, h.memo]
  | reset => rfl
  | _ => exact h.memo

/-- What an interaction does depends on nothing in which such sessions differ. -/
theorem perform (h : Alike s t) (a : Interaction) : Alike (s.perform a) (t.perform a) where
  faithful := Session.faithful_perform h.faithful a
  faithful' := Session.faithful_perform h.faithful' a
  form := by rw [s.form_perform a, t.form_perform a, h.form]
  state := h.state_perform a
  initialValues := by rw [s.initialValues_perform a, t.initialValues_perform a, h.initialValues]
  initialFlags := by rw [s.initialFlags_perform a, t.initialFlags_perform a, h.initialFlags]
  resetPolicy := by rw [s.resetPolicy_perform a, t.resetPolicy_perform a, h.resetPolicy]
  memo := h.memo_perform a

theorem fieldOptions (h : Alike s t) (field : String) :
    (s.fieldOptions field).1 = (t.fieldOptions field).1 := by
  rw [Session.fieldOptions_fst h.faithful, Session.fieldOptions_fst h.faithful', h.form, h.state,
    h.memo]

theorem sections (h : Alike s t) : s.sections.1 = t.sections.1 := by
  rw [Session.sections_fst h.faithful, Session.sections_fst h.faithful', h.form, h.state, h.memo]

theorem validate (h : Alike s t) : s.validate.1 = t.validate.1 := by
  rw [Session.validate_fst h.faithful, Session.validate_fst h.faithful', h.form, h.state]

theorem submit (h : Alike s t) : s.submit.1 = t.submit.1 := by
  have hstate : s.validate.2.state = t.validate.2.state := h.state_perform .validate
  unfold Session.submit
  simp only
  rw [h.validate, hstate]

theorem answer (h : Alike s t) (a : Interaction) : s.answer a = t.answer a := by
  cases a with
  | validate => exact congrArg Answer.verdict h.validate
  | submit => exact congrArg Answer.submission h.submit
  | fieldOptions field => exact congrArg Answer.options (h.fieldOptions field)
  | sections => exact congrArg Answer.sections h.sections
  | _ => rfl

theorem recorded (h : Alike s t) (a : Interaction) : s.recorded a = t.recorded a := by
  rw [Session.recorded_eq h.faithful, Session.recorded_eq h.faithful', h.form, h.state]

theorem told (h : Alike s t) (hlistener : s.listener = t.listener) (a : Interaction) :
    s.told a = t.told a := by
  rw [Session.told_eq h.faithful, Session.told_eq h.faithful', h.form, h.state, hlistener]

theorem react (h : Alike s t) (a : Interaction) : s.react a = t.react a := by
  unfold Session.react
  rw [h.answer a, h.recorded a, h.state_perform a, (h.perform a).sections,
    funext (h.perform a).fieldOptions]

theorem reactions (h : Alike s t) (acts : List Interaction) :
    s.reactions acts = t.reactions acts := by
  induction acts generalizing s t with
  | nil => rfl
  | cons a acts ih => rw [Session.reactions, Session.reactions, h.react a, ih (h.perform a)]

end Alike

/-! ## What waits to be taken -/

/-- A list to which interactions add, and which one of them takes away, ends alike in two sessions
that go on adding the same: apart from what was there before, and not even that once it is taken. -/
theorem log_performAll {α : Type} {log : Session → List α}
    {added : Session → Interaction → List α} {take : Interaction} {R : Session → Session → Prop}
    (hlog : ∀ {s : Session}, s.evaluator.Faithful → ∀ a,
      log (s.perform a) = (if a = take then [] else log s) ++ added s a)
    (hfaithful : ∀ {s t}, R s t → s.evaluator.Faithful ∧ t.evaluator.Faithful)
    (hkept : ∀ {s t}, R s t → ∀ a, R (s.perform a) (t.perform a))
    (hadded : ∀ {s t}, R s t → ∀ a, added s a = added t a)
    (acts : List Interaction) {s t : Session} (h : R s t) :
    ∃ rest, log (s.performAll acts) = (if take ∈ acts then [] else log s) ++ rest ∧
      log (t.performAll acts) = (if take ∈ acts then [] else log t) ++ rest := by
  induction acts generalizing s t with
  | nil => exact ⟨[], (List.append_nil _).symm, (List.append_nil _).symm⟩
  | cons a acts ih =>
    obtain ⟨rest, hs, ht⟩ := ih (hkept h a)
    have hs : log (s.performAll (a :: acts)) = _ := hs
    have ht : log (t.performAll (a :: acts)) = _ := ht
    by_cases hlater : take ∈ acts
    · exact ⟨rest, by simpa [hlater] using hs, by simpa [hlater] using ht⟩
    · refine ⟨added s a ++ rest, ?_, ?_⟩
      · rw [hs, hlog (hfaithful h).1]
        simp [hlater, eq_comm]
      · rw [ht, hlog (hfaithful h).2, ← hadded h a]
        simp [hlater, eq_comm]

theorem Session.listener_perform_congr {s t : Session} (h : s.listener = t.listener)
    (a : Interaction) : (s.perform a).listener = (t.perform a).listener := by
  cases a with
  | change field value => rw [perform, perform, listener_change, listener_change, h]
  | listen listener => rfl
  | _ => exact h

/-! ## Behind a reset -/

theorem alike_reset {s t : Session} (hev : s.evaluator.Faithful) (hev' : t.evaluator.Faithful)
    (hform : s.form = t.form)
    (hvalues : s.initialValues = t.initialValues) (hflags : s.initialFlags = t.initialFlags)
    (hs : s.resetPolicy = .restoreFlags) (ht : t.resetPolicy = .restoreFlags) :
    Alike s.reset t.reset where
  faithful := hev
  faithful' := hev'
  form := hform
  state := by
    show s.resetState = t.resetState
    simp only [Session.resetState, hs, ht, hvalues, hflags]
  initialValues := hvalues
  initialFlags := hflags
  resetPolicy := hs.trans ht.symm
  memo := rfl

/-- Under the policy that restores the flags, a reset leads back to one state whatever has been done
before, the initial values with the flags of the first state.  The evaluator stays as it is, with all
texts that the history has left in its memo and with its counters; yet from there on all interactions
show the same.  Events that had not been taken before the reset wait until they are, and the same
events are recorded behind them; a listener, unless the histories have registered different ones, is
told the same. -/
theorem reset_forgets (p : Product) (o : SessionOptions)
    (hpolicy : o.settings.reset = .restoreFlags) (acts₁ acts₂ acts : List Interaction) :
    let s := Session.start p o
    let before₁ := s.performAll acts₁
    let before₂ := s.performAll acts₂
    before₁.reset.state = { values := o.values, flags := s.state.flags } ∧
      before₂.reset.state = { values := o.values, flags := s.state.flags } ∧
      (before₁.reset.evaluator = before₁.evaluator ∧
        before₂.reset.evaluator = before₂.evaluator) ∧
      before₁.reset.reactions acts = before₂.reset.reactions acts ∧
      (∃ rest,
        (before₁.reset.performAll acts).events =
          (if .takeEvents ∈ acts then [] else before₁.events ++ [.reset]) ++ rest ∧
        (before₂.reset.performAll acts).events =
          (if .takeEvents ∈ acts then [] else before₂.events ++ [.reset]) ++ rest) ∧
      (before₁.listener = before₂.listener → ∃ rest,
        (before₁.reset.performAll acts).notices =
          (if .takeNotices ∈ acts then [] else before₁.notices) ++ rest ∧
        (before₂.reset.performAll acts).notices =
          (if .takeNotices ∈ acts then [] else before₂.notices) ++ rest) := by
  intro s before₁ before₂
  have hev : s.evaluator.Faithful := Session.faithful_start p o
  obtain ⟨hvalues₁, hflags₁, hpolicy₁⟩ := s.origins_performAll acts₁
  obtain ⟨hvalues₂, hflags₂, hpolicy₂⟩ := s.origins_performAll acts₂
  have hrestores₁ : before₁.resetPolicy = .restoreFlags := hpolicy₁.trans hpolicy
  have hrestores₂ : before₂.resetPolicy = .restoreFlags := hpolicy₂.trans hpolicy
  have halike : Alike before₁.reset before₂.reset :=
    alike_reset (Session.faithful_performAll hev acts₁) (Session.faithful_performAll hev acts₂)
      ((s.form_performAll acts₁).trans (s.form_performAll acts₂).symm)
      (hvalues₁.trans hvalues₂.symm) (hflags₁.trans hflags₂.symm) hrestores₁ hrestores₂
  have hstate : before₁.reset.state = { values := o.values, flags := s.state.flags } := by
    show before₁.resetState = _
    simp only [Session.resetState, hrestores₁]
    rw [hvalues₁, hflags₁]
    rfl
  refine ⟨hstate, halike.state.symm.trans hstate, ⟨rfl, rfl⟩, halike.reactions acts, ?_,
    fun hlistener => ?_⟩
  · exact log_performAll Session.events_perform (fun h => ⟨h.faithful, h.faithful'⟩)
      Alike.perform Alike.recorded acts halike
  · exact log_performAll (R := fun t u => Alike t u ∧ t.listener = u.listener)
      Session.notices_perform (fun h => ⟨h.1.faithful, h.1.faithful'⟩)
      (fun h a => ⟨h.1.perform a, Session.listener_perform_congr h.2 a⟩)
      (fun h a => h.1.told h.2 a) acts ⟨halike, hlistener⟩

/-- Cities of another state have been drawn and kept, and their field is disabled there.  Behind the
reset the field is enabled and offers the cities of the first state again, as if nothing had been
done, though the evaluator answers for `@STATE` from its memo then and has to read it otherwise. -/
theorem reset_forgets_city :
    let cities : List Row := [Dict.ofPairs [("state", "DELHI"), ("value", "D1")],
      Dict.ofPairs [("state", "MUMBAI"), ("value", "M1")]]
    let city : Field := { keyword := "CITY", sourced := true, values := [.source
      { table := "CITIES", metadata := some { lookup := "state = @STATE" } }] }
    let p : Product := {
      fields := [{ keyword := "STATE" }, city]
      tables := Dict.ofPairs [("CITIES", cities)]
      fieldRules := [
        { trigger := "STATE", triggerValue := "MUMBAI", target := "CITY", action := .disable }] }
    let o : SessionOptions := {
      transaction := "", step := "", values := Dict.ofPairs [("STATE", "DELHI")],
      settings := { reset := .restoreFlags } }
    let s := Session.start p o
    let before := s.performAll [.change "STATE" "MUMBAI", .fieldOptions "CITY", .validate]
    o.settings.reset = .restoreFlags ∧
      before.state.isDisabled "CITY" = true ∧
      (before.memo["CITY"]?.map fun kept => kept.2.map (·.value)) = some ["M1"] ∧
      before.reset.state.isDisabled "CITY" = false ∧
      ("@STATE" ∈ before.reset.evaluator.memo ∧ "@STATE" ∉ s.reset.evaluator.memo) ∧
      before.reset.reactions [.fieldOptions "CITY"] = s.reset.reactions [.fieldOptions "CITY"] ∧
      (s.reset.fieldOptions "CITY").1.map (·.value) = ["D1"] := by
  intro cities city p o s before
  obtain ⟨hstate, -, -, hreactions, -, -⟩ := reset_forgets p o rfl
    [.change "STATE" "MUMBAI", .fieldOptions "CITY", .validate] [] [.fieldOptions "CITY"]
  refine ⟨rfl, by decide +kernel, by decide +kernel, ?_, by decide +kernel, hreactions,
    by decide +kernel⟩
  show (Session.reset _).state.isDisabled "CITY" = false
  rw [hstate]
  decide +kernel

end FormLogic
