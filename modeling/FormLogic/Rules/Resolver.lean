import FormLogic.Formula.Evaluator
import FormLogic.Rules.Graph
import FormLogic.State

/-!
# FormLogic.Rules.Resolver

What the rules say about fields and options.

* `Resolver`: the graph of the rules and the flags that hold without them;
* `visibility`, `disabled`, `readonly`, `mandatory`: the flags of a field for given values;
* `offers`: whether a field offers an option;
* `update`, `recalculate`, `recalculateAll`: states with flags brought up to date.
-/

namespace FormLogic

open Formula

/-- Whether a trigger fires: by its gate if there is one, else if the trigger field has a value and
that is the expected one; an empty expectation admits every value. -/
def triggered (trigger : String) (expected gate : Option String) (values : Dict String) :
    Metered Bool :=
  match gate with
  | some formula => Metered.holds formula (.ofValues values)
  | none =>
    let current := values[trigger]?.getD ""
    let wanted := expected.getD ""
    pure (!current.isEmpty && (wanted.isEmpty || current == wanted))

def FieldRule.matches (r : FieldRule) (values : Dict String) : Metered Bool :=
  triggered r.trigger r.triggerValue r.gate? values

def ValueRule.matches (r : ValueRule) (values : Dict String) : Metered Bool :=
  triggered r.trigger (some r.triggerValue) r.gate? values

structure Resolver where
  graph : Graph
  defaults : Flags := {}
deriving DecidableEq

namespace Resolver

def ofRules (fieldRules : List FieldRule) (valueRules : List ValueRule) : Metered Resolver := do
  return { graph := ← Graph.build fieldRules valueRules }

@[simp] theorem value_ofRules (fieldRules : List FieldRule) (valueRules : List ValueRule) :
    (ofRules fieldRules valueRules).value = { graph := Graph.ofRules fieldRules valueRules } := by
  rw [ofRules, Metered.value_bind, Graph.value_build]
  rfl

/-- The rules of a transaction and a step. -/
def forContext (fieldRules : List FieldRule) (valueRules : List ValueRule)
    (transaction step : String) : Metered Resolver :=
  ofRules (fieldRules.filter (·.inContext transaction step))
    (valueRules.filter (·.inContext transaction step))

@[simp] theorem value_forContext (fieldRules : List FieldRule) (valueRules : List ValueRule)
    (transaction step : String) :
    (forContext fieldRules valueRules transaction step).value =
      { graph := Graph.ofRules (fieldRules.filter (·.inContext transaction step))
          (valueRules.filter (·.inContext transaction step)) } :=
  value_ofRules _ _

/-- Whether some rule on the field with this action matches. -/
def anyMatch (r : Resolver) (field : String) (action : Action) (values : Dict String) :
    Metered Bool :=
  Metered.any (·.matches values) ((r.graph.fieldRulesOn field).filter (·.action == action))

/-- A rule that hides and matches decides at once.  Rules that show count if their trigger has a
value; if some do, one of them has to match. -/
def visibilityBy (values : Dict String) (default : Bool) :
    List FieldRule → Bool → Bool → Metered Bool
  | [], anyCounts, anyMatches => pure (if anyCounts then anyMatches else default)
  | r :: rs, anyCounts, anyMatches =>
    match r.action with
    | .hide => do
      if ← r.matches values then return false
      else visibilityBy values default rs anyCounts anyMatches
    | .show =>
      if hasText values r.trigger then do
        let m ← r.matches values
        visibilityBy values default rs true (anyMatches || m)
      else visibilityBy values default rs anyCounts anyMatches
    | _ => visibilityBy values default rs anyCounts anyMatches

def visibility (r : Resolver) (field : String) (values : Dict String) : Metered Bool :=
  visibilityBy values (r.defaults.visibility[field]?.getD true) (r.graph.fieldRulesOn field)
    false false

/-- A rule that disables, be it on the field or on an option, goes before one that enables. -/
def disabled (r : Resolver) (field : String) (values : Dict String) : Metered Bool := do
  if ← r.anyMatch field .disable values then return true
  else if ← Metered.any (·.matches values)
      ((r.graph.valueRulesOn field).filter (·.action == .disable)) then return true
  else if ← r.anyMatch field .enable values then return false
  else return r.defaults.disabled[field]?.getD false

def readonly (r : Resolver) (field : String) (values : Dict String) : Metered Bool := do
  if ← r.anyMatch field .readonly values then return true
  else return r.defaults.readonly[field]?.getD false

def mandatory (r : Resolver) (field : String) (values : Dict String) : Metered Bool := do
  if ← r.anyMatch field .mandatory values then return true
  else if ← r.anyMatch field .optional values then return false
  else return r.defaults.mandatory[field]?.getD false

/-- The first rule that shows the option decides, unless a rule before it hides the option. -/
def offersBy (values : Dict String) : List ValueRule → Metered Bool
  | [] => pure true
  | r :: rs =>
    match r.action with
    | .show => r.matches values
    | .hide => do
      if ← r.matches values then return false else offersBy values rs
    | _ => offersBy values rs

/-- Whether a field offers an option; options that no rule names are offered. -/
def offers (r : Resolver) (field option : String) (values : Dict String) : Metered Bool :=
  offersBy values ((r.graph.valueRulesOn field).filter (·.targetValue == option))

/-- Sets the four flags of a field by the values of the state. -/
def applyFlags (r : Resolver) (s : FormState) (field : String) : Metered FormState := do
  let visible ← r.visibility field s.values
  let disabled ← r.disabled field s.values
  let readonly ← r.readonly field s.values
  let mandatory ← r.mandatory field s.values
  return { s with flags := {
    visibility := s.flags.visibility.insert field visible
    disabled := s.flags.disabled.insert field disabled
    readonly := s.flags.readonly.insert field readonly
    mandatory := s.flags.mandatory.insert field mandatory } }

/-- Sets the flags of fields in their order. -/
def recalculate (r : Resolver) : List String → FormState → Metered FormState
  | [], s => pure s
  | field :: fields, s => do r.recalculate fields (← r.applyFlags s field)

/-- Sets the flags of all fields that have rules. -/
def recalculateAll (r : Resolver) (s : FormState) : Metered FormState :=
  r.recalculate r.graph.ruled s

/-- Sets a value, and the flags of the fields that it affects. -/
def update (r : Resolver) (field value : String) (s : FormState) : Metered FormState :=
  r.recalculate (r.graph.affected field) (s.setValue field value)

end Resolver
end FormLogic
