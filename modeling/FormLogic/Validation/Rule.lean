import FormLogic.Formula.Value
import FormLogic.Pattern.Reader
import FormLogic.Schema.Rule

/-!
# FormLogic.Validation.Rule

What the values of fields have to satisfy.

* `Check`: a single requirement;
* `ValidationRule`: a check with its message and a condition for it to apply;
* `RuleSet.ofFields`: the rules that fields state themselves;
* `RuleSet.requireTargets`: rules for fields that other fields can make mandatory.
-/

namespace FormLogic

inductive Check where
  | required
  | pattern (source : String) (tree : Pattern.Tree)
  | least (bound : Float)
  | greatest (bound : Float)
  | shortest (length : Nat)
  | longest (length : Nat)
  /-- A formula that holds of the value. -/
  | formula (text : String)
deriving DecidableEq

structure ValidationRule where
  check : Check
  message : String
  condition : Option String := none
deriving DecidableEq

def ValidationRule.isRequired (r : ValidationRule) : Bool := r.check == .required

/-- Rules by field. -/
abbrev RuleSet := Dict (List ValidationRule)

namespace Field

/-- What messages call a field. -/
def label (f : Field) : String :=
  if Text.allBlank f.caption then f.keyword else f.caption

/-- What is reported when a check fails. -/
def failureText (f : Field) : Check → String
  | .required => f.label ++ " is required"
  | .pattern _ _ => f.label ++ " format is invalid"
  | .least x => f.label ++ " must be at least " ++ Formula.formatNumber x
  | .greatest x => f.label ++ " must be at most " ++ Formula.formatNumber x
  | .shortest n => f.label ++ " must be at least " ++ toString n ++ " characters"
  | .longest n => f.label ++ " must be at most " ++ toString n ++ " characters"
  | .formula _ => f.label ++ " validation failed"

def rule (f : Field) (check : Check) : ValidationRule :=
  ⟨check, f.failureText check, nonBlank? f.validationCondition⟩

/-- The check for the pattern of a field; a pattern that is empty or cannot be read is left out. -/
def patternCheck? (f : Field) : Option Check := do
  let source ← f.pattern
  if source.isEmpty then none else return .pattern source (← Pattern.read? source)

/-- The checks that a field states, in the order in which they are made. -/
def checks (f : Field) : List Check :=
  (if f.mandatory then [.required] else []) ++ f.patternCheck?.toList ++
    (f.least.map Check.least).toList ++ (f.greatest.map Check.greatest).toList ++
    (f.shortest.map Check.shortest).toList ++ (f.longest.map Check.longest).toList ++
    ((nonBlank? f.condition).map Check.formula).toList

def rules (f : Field) : List ValidationRule := f.checks.map f.rule

end Field

namespace RuleSet

/-- The rules of a field take the place of those of an earlier field of its name, unless there are
none. -/
def addField (rules : RuleSet) (f : Field) : RuleSet :=
  if f.rules.isEmpty then rules else rules.insert f.keyword f.rules

def ofFields (fields : List Field) : RuleSet := fields.foldl addField ∅

/-- Puts the check for a value in front of a field's rules, unless it is among them. -/
def require (rules : RuleSet) (f : Field) : RuleSet :=
  let present := rules[f.keyword]?.getD []
  if present.any (·.isRequired) then rules
  else rules.insert f.keyword (f.rule .required :: present)

/-- Requires the target of a rule, if the rule makes it mandatory and it is among the fields. -/
def requireTarget (fields : List Field) (rules : RuleSet) (r : FieldRule) : RuleSet :=
  if r.action = .mandatory then
    match fields.find? (·.keyword == r.target) with
    | some f => rules.require f
    | none => rules
  else rules

/-- Requires all fields that some rule can make mandatory; whether they are mandatory is decided
when they are validated. -/
def requireTargets (rules : RuleSet) (fields : List Field) (fieldRules : List FieldRule) :
    RuleSet :=
  fieldRules.foldl (requireTarget fields) rules

end RuleSet
end FormLogic
