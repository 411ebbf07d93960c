import FormLogic.Schema.Field

/-!
# FormLogic.Schema.Rule

Rules that make fields and options depend on fields.

* `Action`: what happens to the target;
* `FieldRule`: a rule on a field;
* `ValueRule`: a rule on one option of a field.

A rule is triggered by a value of its trigger field, or by a gate, which is a formula.
-/

namespace FormLogic

inductive Action where
  | show
  | hide
  | enable
  | disable
  | readonly
  | mandatory
  | optional
deriving DecidableEq, Repr

structure FieldRule where
  id : String := ""
  trigger : String := ""
  triggerValue : Option String := none
  target : String := ""
  action : Action := .show
  gate : Option String := none
  operator : Option String := none
  transaction : String := ""
  step : String := ""
deriving DecidableEq, Repr

structure ValueRule where
  id : String := ""
  trigger : String := ""
  triggerValue : String := ""
  target : String := ""
  targetValue : String := ""
  action : Action := .show
  gate : Option String := none
  operator : Option String := none
  transaction : String := ""
  step : String := ""
deriving DecidableEq, Repr

/-- A rule without transaction or step holds in all of them. -/
def contextAdmits (ruleTransaction ruleStep transaction step : String) : Bool :=
  (ruleTransaction.isEmpty || ruleTransaction == transaction) &&
    (ruleStep.isEmpty || ruleStep == step)

def FieldRule.inContext (r : FieldRule) (transaction step : String) : Bool :=
  contextAdmits r.transaction r.step transaction step

def ValueRule.inContext (r : ValueRule) (transaction step : String) : Bool :=
  contextAdmits r.transaction r.step transaction step

end FormLogic
