import FormLogic.Formula.Evaluator
import FormLogic.Pattern.Matching
import FormLogic.State
import FormLogic.Validation.Rule

/-!
# FormLogic.Validation.Verdict

Validating fields.

* `validateField`: the messages for a value of a field;
* `validateFields`: the verdict on named fields;
* `validateForm`: the verdict on all fields that can be seen.
-/

namespace FormLogic

open Formula

/-- Messages by field; there are some for each field that is there. -/
structure Verdict where
  errors : Dict (List String)
deriving DecidableEq

def Verdict.valid (v : Verdict) : Bool := v.errors.isEmpty

/-- All messages in the order of fields. -/
def summary (errors : Dict (List String)) : List String :=
  errors.toList.flatMap (·.2)

def hasError (errors : Dict (List String)) (field : String) : Bool :=
  (errors[field]?.getD []) ≠ []

/-- A value that counts as none; an empty list does. -/
def isMissing (value : Option String) : Bool :=
  match value with
  | none => true
  | some s => s.isEmpty || s == "[]"

def numberIn? (value : Option String) : Option Float :=
  value.bind fun s => Number.readChars? (Text.trimChars s.toList)

/-- Whether a value fails a check.  Only the check for a value and formulas speak of values that are
empty; a field whose mandatory flag is off passes the check for a value. -/
def Check.fails (field : String) (value : Option String) (s : FormState) : Check → Metered Bool
  | .required => pure (s.flags.mandatory[field]? != some false && isMissing value)
  | .pattern _ tree => pure ((present value).any fun v => !tree.occursIn v)
  | .least x => pure ((numberIn? (present value)).any fun n => n < x)
  | .greatest x => pure ((numberIn? (present value)).any fun n => x < n)
  | .shortest n => pure ((present value).any fun v => v.length < n)
  | .longest n => pure ((present value).any fun v => n < v.length)
  | .formula text => do
    return !(← Metered.holds text ((Context.ofValues s.values).with field (value.getD "")))
where
  present (value : Option String) : Option String := value.filter (!·.isEmpty)

/-- Whether a rule applies and its check fails. -/
def ValidationRule.fails (r : ValidationRule) (field : String) (value : Option String)
    (s : FormState) : Metered Bool :=
  match r.condition with
  | none => r.check.fails field value s
  | some condition => do
    if ← Metered.holds condition (.ofValues s.values) then r.check.fails field value s
    else return false

/-- The messages of the rules that a value fails. -/
def validateField (field : String) (value : Option String) (rules : List ValidationRule)
    (s : FormState) : Metered (List String) := do
  return (← Metered.filter (·.fails field value s) rules).map (·.message)

/-- The verdict on the values that fields have. -/
def validateEntries (s : FormState) (entries : List (String × List ValidationRule)) :
    Metered Verdict := do
  let found ← Metered.forEach
    (fun e => do return (e.1, ← validateField e.1 (s.value? e.1) e.2 s)) entries
  return ⟨Dict.ofPairs (found.filter fun e => !e.2.isEmpty)⟩

/-- The verdict on the named fields, whether they can be seen or not. -/
def validateFields (names : List String) (s : FormState) (rules : RuleSet) : Metered Verdict :=
  validateEntries s (names.filterMap fun name => rules[name]?.map fun rs => (name, rs))

/-- The verdict on the fields that the state shows, and that are among the given ones if some are
given. -/
def validateForm (s : FormState) (rules : RuleSet) (visible : Option NameSet) : Metered Verdict :=
  validateEntries s
    (rules.toList.filter fun e => visible.all (·.contains e.1) && s.isVisible e.1)

end FormLogic
