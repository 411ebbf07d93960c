import FormLogic.Options.Source
import FormLogic.Rules.Resolver
import FormLogic.Schema.Product
import FormLogic.Session.Default
import FormLogic.Settings
import FormLogic.TypedValue
import FormLogic.Validation.Verdict

/-!
# FormLogic.Session.Form

A product's form for one transaction and step, and how its states change.

* `Form`: fields, rules and defaults that hold in the transaction and step;
* `Form.start`: the first state, with defaults filled in;
* `Form.change`, `Form.blur`, `Form.validate`: the states after what a user does.
-/

namespace FormLogic

open Formula

/-- The form of a product in one transaction and step. -/
structure Form where
  fields : List Field
  resolver : Resolver
  tables : Tables
  rules : RuleSet
  defaults : Defaults
deriving DecidableEq

def Choice.inContext (c : Choice) (transaction step : String) : Bool :=
  contextAdmits c.transaction c.step transaction step

/-- Gives choices to the fields they belong to, but not to those that draw options from a table.
Only the first of several fields with one keyword is given them. -/
def attachChoices (choices : List Choice) : List String → List Field → List Field
  | _, [] => []
  | served, f :: fs =>
    match choices.filter (·.keyword == f.keyword) with
    | [] => f :: attachChoices choices served fs
    | group =>
      if f.source?.isSome || f.keyword ∈ served then f :: attachChoices choices served fs
      else
        { f with values := group.map .choice } :: attachChoices choices (f.keyword :: served) fs

/-- The fields of a transaction and a step with their choices. -/
def Product.fieldsIn (p : Product) (transaction step : String) : List Field :=
  attachChoices (p.choices.filter (·.inContext transaction step)) []
    (p.fields.filter (·.inContext transaction step))

/-- The flags that a field declares. -/
def Flags.addField (flags : Flags) (f : Field) : Flags where
  visibility := flags.visibility.insert f.keyword (f.behavior != .hidden)
  disabled := flags.disabled.insert f.keyword (f.behavior == .disabled)
  readonly := flags.readonly.insert f.keyword (f.behavior == .readonly)
  mandatory := flags.mandatory.insert f.keyword f.mandatory

def Flags.ofFields (fields : List Field) : Flags := fields.foldl Flags.addField {}

namespace Form

def ofProduct (p : Product) (transaction step : String) : Metered Form := do
  let fields := p.fieldsIn transaction step
  let resolver ← Resolver.forContext p.fieldRules p.valueRules transaction step
  return {
    fields := fields
    resolver := { resolver with defaults := Flags.ofFields fields }
    tables := p.tables
    rules := (RuleSet.ofFields fields).requireTargets fields
      (p.fieldRules.filter (·.inContext transaction step))
    defaults := Defaults.ofFields fields }

theorem value_ofProduct (p : Product) (transaction step : String) :
    (ofProduct p transaction step).value = {
      fields := p.fieldsIn transaction step
      resolver := {
        graph := Graph.ofRules (p.fieldRules.filter (·.inContext transaction step))
          (p.valueRules.filter (·.inContext transaction step))
        defaults := Flags.ofFields (p.fieldsIn transaction step) }
      tables := p.tables
      rules := (RuleSet.ofFields (p.fieldsIn transaction step)).requireTargets
        (p.fieldsIn transaction step) (p.fieldRules.filter (·.inContext transaction step))
      defaults := Defaults.ofFields (p.fieldsIn transaction step) } := by
  rw [ofProduct, Metered.value_bind, Resolver.value_forContext, Metered.value_pure]

/-- The field of a keyword; of several the last one. -/
def field? (form : Form) (keyword : String) : Option Field :=
  form.fields.reverse.find? (·.keyword == keyword)

/-- Names of a cycle, and all cycles of rules and defaults. -/
def cycles (form : Form) : List (List String) :=
  form.resolver.graph.ordered.cycles ++ form.defaults.cycles

/-! ### The first state -/

/-- Fills in the choice that a list field declares as selected, unless the field has a value. -/
def fillSelected (values : Dict String) (f : Field) : Dict String :=
  if values.contains f.keyword || f.type != .list then values
  else
    match f.choices.find? (·.selected) with
    | some c => values.insert f.keyword c.value
    | none => values

/-- Fills in the defaults of fields that have no value. -/
def fillDefaults (form : Form) : List String → Dict String → Metered (Dict String)
  | [], values => pure values
  | name :: names, values =>
    if values.contains name then form.fillDefaults names values
    else
      match form.field? name with
      | none => form.fillDefaults names values
      | some f => do
        match ← f.evaluateDefault values with
        | none => form.fillDefaults names values
        | some value => form.fillDefaults names (values.insert name value)

/-- The first state for given values. -/
def start (form : Form) (values : Dict String) : Metered FormState := do
  let values ← form.fillDefaults form.defaults.order (form.fields.foldl fillSelected values)
  form.resolver.recalculateAll { values := values, flags := form.resolver.defaults }

/-! ### Changes -/

/-- Derives fields anew in their order: the state, and the fields whose values have changed. -/
def cascade (form : Form) : List String → FormState → Metered (FormState × List String)
  | [], s => pure (s, [])
  | name :: names, s =>
    match form.field? name with
    | none => form.cascade names s
    | some f => do
      match ← f.evaluateDefault s.values with
      | none => form.cascade names s
      | some value =>
        if s.value? name = some value then form.cascade names s
        else
          let s ← form.resolver.update name value s
          let (s, derived) ← form.cascade names s
          return (s, name :: derived)

/-- Sets a value with all that follows from it: the state, and the fields derived anew. -/
def change (form : Form) (field value : String) (s : FormState) :
    Metered (FormState × List String) := do
  let s ← form.resolver.update field value s
  let (s, derived) ← form.cascade (form.defaults.downstream field) s
  return ({ s with errors := s.errors.erase field }, derived)

theorem value_change (form : Form) (field value : String) (s : FormState) :
    (form.change field value s).value =
      let c := (form.cascade (form.defaults.downstream field)
        (form.resolver.update field value s).value).value
      ({ c.1 with errors := c.1.errors.erase field }, c.2) := by
  rw [change, Metered.value_bind, Metered.value_bind, Metered.value_pure]

/-- The messages for a field, whether it can be seen or not. -/
def fieldMessages (form : Form) (field : String) (s : FormState) : Metered (List String) :=
  match form.rules[field]? with
  | some rules => validateField field (s.value? field) rules s
  | none => pure []

/-- Replaces the messages of a field. -/
def setErrors (s : FormState) (field : String) (messages : List String) : FormState :=
  { s with
    errors := if messages.isEmpty then s.errors.erase field else s.errors.insert field messages }

/-- Marks a field as touched and validates it: the state, and the number of messages. -/
def blur (form : Form) (field : String) (s : FormState) : Metered (FormState × Nat) := do
  let s := { s with touched := s.touched.insert field }
  let messages ← form.fieldMessages field s
  return (setErrors s field messages, messages.length)

theorem value_blur (form : Form) (field : String) (s : FormState) :
    (form.blur field s).value =
      let s := { s with touched := s.touched.insert field }
      let messages := (form.fieldMessages field s).value
      (setErrors s field messages, messages.length) :=
  Metered.value_bind _ _

/-- The fields that can be seen. -/
def visibleFields (form : Form) (s : FormState) : NameSet :=
  NameSet.ofNames ((form.fields.map (·.keyword)).filter s.isVisible)

/-- Validates all fields that can be seen, and replaces all messages. -/
def validate (form : Form) (s : FormState) : Metered (FormState × Verdict) := do
  let v ← validateForm s form.rules (some (form.visibleFields s))
  return ({ s with errors := v.errors }, v)

theorem value_validate (form : Form) (s : FormState) :
    (form.validate s).value =
      let v := (validateForm s form.rules (some (form.visibleFields s))).value
      ({ s with errors := v.errors }, v) :=
  Metered.value_bind _ _

/-- The value of a field by its type; fields that the form does not have hold text. -/
def typedValue (form : Form) (field : String) (s : FormState) :
    Except Unreadable (Option TypedValue) :=
  match s.value? field with
  | some raw => (((form.field? field).map Field.type).getD FieldType.string).decode raw
  | none => .ok none

end Form

/-- Cycles as messages show them. -/
def cyclesMessage (cycles : List (List String)) : String :=
  "circular dependency: " ++ "; ".intercalate (cycles.map (" -> ".intercalate ·))

/-- What is said when a form cannot be submitted. -/
def Verdict.message (v : Verdict) : String :=
  "validation failed for " ++ toString v.errors.size ++ " field(s)"

end FormLogic
