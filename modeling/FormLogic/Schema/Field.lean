import FormLogic.Dict
import FormLogic.Text.Blank

/-!
# FormLogic.Schema.Field

The fields of a product form.

* `FieldType`, `UiBehavior`, `Direction`: how a field holds and shows its value;
* `Choice`: an option that a field offers;
* `SourceSpec`: a table that options are drawn from;
* `Field`: a field with its defaults, bounds and options.
-/

namespace FormLogic

/-- A row of a table: cells by column. -/
abbrev Row := Dict String

/-- Tables by name. -/
abbrev Tables := Dict (List Row)

inductive FieldType where
  | string
  | integer
  | decimal
  | dob
  | date
  | list
  | boolean
  | phone
  | email
  | other
deriving DecidableEq, Repr

/-- How a field behaves before any rule is applied. -/
inductive UiBehavior where
  | shown
  | hidden
  | readonly
  | disabled
deriving DecidableEq, Repr

inductive Direction where
  | input
  | output
  | both
deriving DecidableEq, Repr

/-- An option that a field offers. -/
structure Choice where
  id : String := ""
  keyword : String := ""
  display : String := ""
  value : String := ""
  selected : Bool := false
  sequence : Int := 0
  transaction : String := ""
  step : String := ""
deriving DecidableEq, Repr

/-- Which rows of a table are options, and in which columns their values and captions stand. -/
structure SourceMetadata where
  lookup : Option String := none
  valueColumn : Option String := none
  displayColumn : Option String := none
deriving DecidableEq, Repr

/-- A table that options are drawn from. -/
structure SourceSpec where
  table : String := ""
  kind : String := ""
  metadata : Option SourceMetadata := none
deriving DecidableEq, Repr

/-- An entry of a field's value data. -/
inductive ValueEntry where
  | source (spec : SourceSpec)
  | choice (choice : Choice)
deriving DecidableEq, Repr

structure Field where
  id : String := ""
  keyword : String := ""
  caption : String := ""
  type : FieldType := .string
  dataType : String := ""
  sectionName : String := ""
  default : Option String := none
  mandatory : Bool := false
  direction : Direction := .input
  behavior : UiBehavior := .shown
  least : Option Float := none
  greatest : Option Float := none
  shortest : Option Nat := none
  longest : Option Nat := none
  pattern : Option String := none
  lookup : Option String := none
  condition : Option String := none
  validationCondition : Option String := none
  sequence : Option Int := none
  parent : Option String := none
  lob : String := ""
  sublob : String := ""
  product : Int := 0
  transaction : String := ""
  step : String := ""
  sourced : Bool := false
  values : List ValueEntry := []
deriving DecidableEq

/-- A text that is there and not blank. -/
def nonBlank? (text : Option String) : Option String :=
  text.filter fun s => !Text.allBlank s

namespace Field

def source? (f : Field) : Option SourceSpec :=
  if f.sourced then
    f.values.findSome? fun
      | .source spec => some spec
      | .choice _ => none
  else none

def choices (f : Field) : List Choice :=
  f.values.filterMap fun
    | .choice c => some c
    | .source _ => none

/-- Whether a field belongs to a transaction and a step. -/
def inContext (f : Field) (transaction step : String) : Bool :=
  f.transaction == transaction && f.step == step

end Field

end FormLogic
