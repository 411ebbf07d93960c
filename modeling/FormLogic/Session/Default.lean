import FormLogic.Formula.Evaluator
import FormLogic.Rules.Order
import FormLogic.Schema.Field

/-!
# FormLogic.Session.Default

Defaults of fields, which are formulas.

* `Field.defaultText?`, `Field.evaluateDefault`: the formula and the text it yields;
* `Defaults`: which fields have defaults, in an order in which those they mention come first;
* `Defaults.downstream`: the fields whose defaults a change of a field can reach.
-/

namespace FormLogic

open Formula

/-- The default of a field without blanks at its ends, unless nothing else is there. -/
def Field.defaultText? (f : Field) : Option String :=
  (f.default.map Text.trim).filter (!·.isEmpty)

/-- The text that a default yields.  One that fails and mentions no field stands for itself. -/
def Field.evaluateDefault (f : Field) (values : Dict String) : Metered (Option String) :=
  match f.defaultText? with
  | none => pure none
  | some text => do
    match ← Metered.evaluate text (.ofValues values) with
    | .ok r => return if r.value.isNull then none else some r.value.toText
    | .error _ => return if (references text).isEmpty then some text else none

/-- Adds the fields that the default of a field mentions, itself aside. -/
def addDefaultEdges (edges : Edges) (f : Field) : Edges :=
  match f.defaultText? with
  | some text => edges.insert f.keyword (NameSet.ofNames ((references text).filter (· ≠ f.keyword)))
  | none => edges

/-- The fields that each default mentions. -/
def defaultEdges (fields : List Field) : Edges := fields.foldl addDefaultEdges ∅

/-- The fields that have defaults. -/
structure Defaults where
  edges : Edges
  order : List String
  cycles : List (List String)
deriving DecidableEq

namespace Defaults

def ofFields (fields : List Field) : Defaults :=
  let edges := defaultEdges fields
  let ordered := orderOf edges
  ⟨edges, ordered.order.filter edges.contains, ordered.cycles⟩

/-- The fields whose defaults mention one of the names. -/
def mentioning (d : Defaults) (names : List String) : List String :=
  (d.edges.toList.filter fun e => names.any e.2.contains).map (·.1)

/-- Adds the fields, other than the changed one, whose defaults mention what is found already, for
a number of rounds. -/
def spread (d : Defaults) (changed : String) : Nat → List String → List String
  | 0, found => found
  | n + 1, found =>
    match (d.mentioning (changed :: found)).filter fun f => f ≠ changed && f ∉ found with
    | [] => found
    | fresh => spread d changed n (found ++ fresh)

/-- The fields whose defaults a change can reach, in the order in which they are derived. -/
def downstream (d : Defaults) (changed : String) : List String :=
  let found := d.spread changed d.edges.size []
  d.order.filter (· ∈ found)

end Defaults
end FormLogic
