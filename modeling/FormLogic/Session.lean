import FormLogic.Session.Event
import FormLogic.Session.Section

/-!
# FormLogic.Session

Sessions of a user with a form.

* `Session`: the form, its state, and what has been counted, kept and recorded;
* `SessionOptions`, `Session.start`: how a session begins;
* `change`, `blur`, `validate`, `submit`, `reset`: what a user does;
* `fieldOptions`, `sections`: what a user is shown.
-/

namespace FormLogic

open Formula

/-- What a session starts from. -/
structure SessionOptions where
  values : Dict String := ∅
  transaction : Option String := none
  step : Option String := none
  settings : Settings := {}
deriving DecidableEq

/-- The transaction that holds in the session. -/
def SessionOptions.transactionCode (o : SessionOptions) : String :=
  o.transaction.getD o.settings.transaction

/-- The step that holds in the session. -/
def SessionOptions.stepCode (o : SessionOptions) : String := o.step.getD o.settings.step

structure Session where
  form : Form
  state : FormState
  initialValues : Dict String
  initialFlags : Flags
  resetPolicy : ResetPolicy
  evaluator : Evaluator
  memo : Memo
  listener : Option String
  notices : List Notice
  events : List Event

namespace Session

def start (p : Product) (o : SessionOptions) : Session :=
  let (form, ev) := (Evaluator.ofPolicy o.settings.cache).run
    (Form.ofProduct p o.transactionCode o.stepCode)
  let (state, ev) := ev.run (form.start o.values)
  { form := form
    state := state
    initialValues := o.values
    initialFlags := state.flags
    resetPolicy := o.settings.reset
    evaluator := ev
    memo := ∅
    listener := none
    notices := []
    events := [] }

/-- Runs a computation whose questions the session's evaluator answers. -/
def run {α : Type} (s : Session) (m : Metered α) : α × Session :=
  let (a, ev) := s.evaluator.run m
  (a, { s with evaluator := ev })

def record (s : Session) (e : Event) : Session := { s with events := s.events ++ [e] }

/-- Registers a listener in place of the one before. -/
def listen (s : Session) (listener : String) : Session := { s with listener := some listener }

/-- Tells the listener about a change. -/
def notify (s : Session) (field value : String) : Session :=
  match s.listener with
  | none => s
  | some listener => { s with notices := s.notices ++ [⟨listener, field, value, s.state.values⟩] }

/-- Applies an edit and all that follows from it. -/
def change (s : Session) (field value : String) : Session :=
  let ((state, derived), s) := s.run (s.form.change field value s.state)
  ({ s with state := state }.notify field value).record (.valueChanged field value derived)

/-- Marks a field as touched and shows its messages. -/
def blur (s : Session) (field : String) : Session :=
  let ((state, errors), s) := s.run (s.form.blur field s.state)
  { s with state := state }.record (.blurred field errors)

def validate (s : Session) : Verdict × Session :=
  let ((state, v), s) := s.run (s.form.validate s.state)
  (v, { s with state := state }.record (.validated v.valid v.errors.size))

/-- The state, if the form is valid. -/
def submit (s : Session) : Except Verdict FormState × Session :=
  let (v, s) := s.validate
  (if v.valid then .ok s.state else .error v, s)

/-- The state of a reset: the initial values, no messages, no field touched. -/
def resetState (s : Session) : FormState where
  values := s.initialValues
  flags :=
    match s.resetPolicy with
    | .keepFlags => s.state.flags
    | .restoreFlags => s.initialFlags

def reset (s : Session) : Session :=
  { s with state := s.resetState, memo := ∅ }.record .reset

/-- The events since they were last taken. -/
def takeEvents (s : Session) : List Event × Session := (s.events, { s with events := [] })

def takeNotices (s : Session) : List Notice × Session := (s.notices, { s with notices := [] })

/-- The options that a field offers. -/
def fieldOptions (s : Session) (field : String) : List Choice × Session :=
  let ((choices, memo), s) := s.run (s.form.options field s.state.values s.memo)
  (choices, { s with memo := memo })

def sections (s : Session) : List Section × Session :=
  let ((sections, memo), s) := s.run (s.form.sections s.state s.memo)
  (sections, { s with memo := memo })

/-- The value of a field by its type. -/
def typedValue (s : Session) (field : String) : Except Unreadable (Option TypedValue) :=
  s.form.typedValue field s.state

end Session
end FormLogic
