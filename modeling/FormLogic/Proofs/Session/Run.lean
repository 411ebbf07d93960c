import FormLogic.Proofs.Formula.Memo
import FormLogic.Session

/-!
# FormLogic.Proofs.Session.Run

Sessions over time.

* `Interaction`: all that can be done with a session;
* `Session.perform`, `Session.performAll`: the session behind one interaction and behind many;
* `performAll_induction`: what every interaction keeps holds of the session that is reached;
* `faithful_perform`, `evaluator_faithful`: the evaluator of a session never answers anything but
  what a text yields when it is read anew;
* `run_fst`: so a session computes what is computed without a memo;
* `state_perform`: the three ways in which an interaction can treat values and flags.

The form of a session never changes, and neither do the values and flags that a reset restores.
-/

namespace FormLogic

open Formula

/-- What is done with a session. -/
inductive Interaction where
  | change (field value : String)
  | blur (field : String)
  | validate
  | submit
  | reset
  | listen (listener : String)
  | takeEvents
  | takeNotices
  | fieldOptions (field : String)
  | sections
deriving DecidableEq, Repr

namespace Session

/-- The session behind an interaction; its answer is left aside. -/
def perform (s : Session) : Interaction → Session
  | .change field value => s.change field value
  | .blur field => s.blur field
  | .validate => s.validate.2
  | .submit => s.submit.2
  | .reset => s.reset
  | .listen listener => s.listen listener
  | .takeEvents => s.takeEvents.2
  | .takeNotices => s.takeNotices.2
  | .fieldOptions field => (s.fieldOptions field).2
  | .sections => s.sections.2

/-- The session behind interactions, one after another. -/
def performAll (s : Session) (acts : List Interaction) : Session := acts.foldl perform s

/-- What every interaction keeps holds of the session that is reached. -/
theorem performAll_induction {P : Session → Prop} {acts : List Interaction} {s : Session}
    (hstart : P s) (hstep : ∀ s, P s → ∀ a ∈ acts, P (s.perform a)) : P (s.performAll acts) :=
  List.foldlRecOn acts perform hstart hstep

/-! ## One interaction -/

theorem notify_eq (s : Session) (field value : String) :
    ∃ notices, s.notify field value = { s with notices := notices } := by
  unfold notify
  split
  · exact ⟨s.notices, rfl⟩
  · exact ⟨_, rfl⟩

@[simp] theorem form_notify (s : Session) (field value : String) :
    (s.notify field value).form = s.form := by
  obtain ⟨notices, hnotices⟩ := s.notify_eq field value
  rw [hnotices]

@[simp] theorem state_notify (s : Session) (field value : String) :
    (s.notify field value).state = s.state := by
  obtain ⟨notices, hnotices⟩ := s.notify_eq field value
  rw [hnotices]

@[simp] theorem events_notify (s : Session) (field value : String) :
    (s.notify field value).events = s.events := by
  obtain ⟨notices, hnotices⟩ := s.notify_eq field value
  rw [hnotices]

@[simp] theorem initialFlags_notify (s : Session) (field value : String) :
    (s.notify field value).initialFlags = s.initialFlags := by
  obtain ⟨notices, hnotices⟩ := s.notify_eq field value
  rw [hnotices]

@[simp] theorem evaluator_notify (s : Session) (field value : String) :
    (s.notify field value).evaluator = s.evaluator := by
  obtain ⟨notices, hnotices⟩ := s.notify_eq field value
  rw [hnotices]

theorem form_change (s : Session) (field value : String) :
    (s.change field value).form = s.form :=
  form_notify _ field value

theorem form_perform (s : Session) (a : Interaction) : (s.perform a).form = s.form := by
  cases a with
  | change field value => exact s.form_change field value
  | _ => rfl

theorem initialFlags_perform (s : Session) (a : Interaction) :
    (s.perform a).initialFlags = s.initialFlags := by
  cases a with
  | change field value => exact initialFlags_notify _ field value
  | _ => rfl

theorem form_performAll (s : Session) (acts : List Interaction) :
    (s.performAll acts).form = s.form :=
  performAll_induction (P := fun t => t.form = s.form) rfl
    fun t ht a _ => (t.form_perform a).trans ht

/-! ## The evaluator -/

/-- The evaluator has a part in every answer and is handed on by every interaction, a reset
included. -/
theorem faithful_perform {s : Session} (hev : s.evaluator.Faithful) (a : Interaction) :
    (s.perform a).evaluator.Faithful := by
  cases a with
  | change field value =>
    have hsame : (s.change field value).evaluator =
        (s.evaluator.run (s.form.change field value s.state)).2 := evaluator_notify _ field value
    rw [perform, hsame]
    exact hev.run _
  | blur field => exact hev.run (s.form.blur field s.state)
  | validate | submit => exact hev.run (s.form.validate s.state)
  | fieldOptions field => exact hev.run (s.form.options field s.state.values s.memo)
  | sections => exact hev.run (s.form.sections s.state s.memo)
  | reset | listen | takeEvents | takeNotices => exact hev

theorem faithful_performAll {s : Session} (hev : s.evaluator.Faithful) (acts : List Interaction) :
    (s.performAll acts).evaluator.Faithful :=
  performAll_induction (P := fun t => t.evaluator.Faithful) hev
    fun _ ht a _ => faithful_perform ht a

/-- What every interaction keeps of sessions with a faithful evaluator holds of the session that is
reached. -/
theorem performAll_faithful {P : Session → Prop} {acts : List Interaction} {s : Session}
    (hev : s.evaluator.Faithful) (hstart : P s)
    (hstep : ∀ s, s.evaluator.Faithful → P s → ∀ a ∈ acts, P (s.perform a)) :
    P (s.performAll acts) := by
  have hall : (s.performAll acts).evaluator.Faithful ∧ P (s.performAll acts) :=
    performAll_induction (P := fun t => t.evaluator.Faithful ∧ P t) ⟨hev, hstart⟩
      fun t ht a ha => ⟨faithful_perform ht.1 a, hstep t ht.1 ht.2 a ha⟩
  exact hall.2

theorem faithful_start (p : Product) (o : SessionOptions) : (start p o).evaluator.Faithful :=
  ((Evaluator.faithful_ofPolicy o.settings.cache).run _).run _

/-- Whatever has been done with a session, its evaluator is faithful. -/
theorem evaluator_faithful (p : Product) (o : SessionOptions) (acts : List Interaction) :
    ((start p o).performAll acts).evaluator.Faithful :=
  faithful_performAll (faithful_start p o) acts

/-! ## What a session computes -/

section

variable {s : Session} (hev : s.evaluator.Faithful)

include hev

/-- A session computes what is computed without a memo, whatever its evaluator has kept so far. -/
theorem run_fst {α : Type} (m : Metered α) : (s.run m).1 = m.value := hev.run_fst m

theorem state_change (field value : String) :
    (s.change field value).state = (s.form.change field value s.state).value.1 :=
  (state_notify _ field value).trans
    (congrArg (·.1) (run_fst hev (s.form.change field value s.state)))

/-- A change records the fields derived anew. -/
theorem events_change (field value : String) :
    (s.change field value).events = s.events ++
      [.valueChanged field value (s.form.change field value s.state).value.2] := by
  have hrun := run_fst hev (s.form.change field value s.state)
  rw [← hrun]
  exact congrArg (· ++ _) (events_notify _ field value)

theorem state_blur (field : String) :
    (s.blur field).state = (s.form.blur field s.state).value.1 :=
  congrArg (·.1) (run_fst hev (s.form.blur field s.state))

theorem state_validate : s.validate.2.state = (s.form.validate s.state).value.1 :=
  congrArg (·.1) (run_fst hev (s.form.validate s.state))

theorem validate_fst : s.validate.1 = (s.form.validate s.state).value.2 :=
  congrArg (·.2) (run_fst hev (s.form.validate s.state))

/-- A validation puts what it reports into the state and leaves the rest. -/
theorem validate_snd_state :
    s.validate.2.state = { s.state with errors := s.validate.1.errors } := by
  rw [state_validate hev, validate_fst hev, Form.value_validate]

/-- A blur records how many messages there are for the field. -/
theorem events_blur (field : String) :
    (s.blur field).events = s.events ++ [.blurred field (s.form.blur field s.state).value.2] :=
  congrArg (fun n => s.events ++ [.blurred field n])
    (congrArg (·.2) (run_fst hev (s.form.blur field s.state)))

/-- A validation records whether the form is valid, and how many fields are not. -/
theorem events_validate : s.validate.2.events = s.events ++
    [.validated (s.form.validate s.state).value.2.valid
      (s.form.validate s.state).value.2.errors.size] :=
  congrArg (fun v : Verdict => s.events ++ [.validated v.valid v.errors.size]) (validate_fst hev)

theorem fieldOptions_fst (field : String) :
    (s.fieldOptions field).1 = (s.form.options field s.state.values s.memo).value.1 :=
  congrArg (·.1) (run_fst hev (s.form.options field s.state.values s.memo))

theorem sections_fst : s.sections.1 = (s.form.sections s.state s.memo).value.1 :=
  congrArg (·.1) (run_fst hev (s.form.sections s.state s.memo))

theorem memo_fieldOptions (field : String) :
    (s.fieldOptions field).2.memo = (s.form.options field s.state.values s.memo).value.2 :=
  congrArg (·.2) (run_fst hev (s.form.options field s.state.values s.memo))

theorem memo_sections : s.sections.2.memo = (s.form.sections s.state s.memo).value.2 :=
  congrArg (·.2) (run_fst hev (s.form.sections s.state s.memo))

/-- Values and flags are written by changes and resets only. -/
theorem state_perform (a : Interaction) :
    (∃ field value, a = .change field value ∧
      (s.perform a).state = (s.form.change field value s.state).value.1) ∨
    (a = .reset ∧ (s.perform a).state = s.resetState) ∨
    ((s.perform a).state.values = s.state.values ∧ (s.perform a).state.flags = s.state.flags) := by
  cases a with
  | change field value => exact .inl ⟨field, value, rfl, state_change hev field value⟩
  | reset => exact .inr (.inl ⟨rfl, rfl⟩)
  | blur field =>
    rw [perform, state_blur hev, Form.value_blur]
    exact .inr (.inr ⟨rfl, rfl⟩)
  | validate | submit =>
    have hstate := validate_snd_state hev
    exact .inr (.inr ⟨congrArg (·.values) hstate, congrArg (·.flags) hstate⟩)
  | _ => exact .inr (.inr ⟨rfl, rfl⟩)

end

/-! ## The first session -/

theorem form_start (p : Product) (o : SessionOptions) :
    (start p o).form = (Form.ofProduct p o.transactionCode o.stepCode).value :=
  (Evaluator.faithful_ofPolicy o.settings.cache).run_fst _

theorem fields_start (p : Product) (o : SessionOptions) :
    (start p o).form.fields = p.fieldsIn o.transactionCode o.stepCode := by
  rw [form_start, Form.value_ofProduct]

theorem state_start (p : Product) (o : SessionOptions) :
    (start p o).state = ((start p o).form.start o.values).value :=
  ((Evaluator.faithful_ofPolicy o.settings.cache).run _).run_fst _

end Session
end FormLogic
