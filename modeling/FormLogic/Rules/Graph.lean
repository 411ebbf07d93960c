import FormLogic.Formula.Evaluator
import FormLogic.Rules.Order
import FormLogic.Schema.Rule

/-!
# FormLogic.Rules.Graph

Which fields bear on which.

* `Node`: a field with the fields it depends on, those it affects, and the rules on it;
* `Graph.ofRules`: the graph of a set of rules;
* `Graph.build`: the same with an evaluator that finds the fields in the gates;
* `Graph.affected`: all fields that a change of a field can reach.

The trigger of a rule affects its target, and so do the fields in its gate other than the target.
-/

namespace FormLogic

open Formula

/-- A field rule's gate, unless it is blank. -/
def FieldRule.gate? (r : FieldRule) : Option String := nonBlank? r.gate

/-- A value rule's gate, unless it is blank. -/
def ValueRule.gate? (r : ValueRule) : Option String := nonBlank? r.gate

structure Node where
  field : String
  dependsOn : NameSet := ∅
  affects : NameSet := ∅
  fieldRules : List FieldRule := []
  valueRules : List ValueRule := []
deriving DecidableEq

def Node.hasRules (n : Node) : Bool := !n.fieldRules.isEmpty || !n.valueRules.isEmpty

abbrev Nodes := Dict Node

/-- Changes the node of a field, which is there afterwards. -/
def Nodes.update (nodes : Nodes) (field : String) (f : Node → Node) : Nodes :=
  nodes.insert field (f (nodes[field]?.getD { field := field }))

/-- The source affects the target. -/
def Nodes.link (nodes : Nodes) (source target : String) : Nodes :=
  let nodes := Nodes.update nodes source fun n => { n with affects := n.affects.insert target }
  Nodes.update nodes target fun n => { n with dependsOn := n.dependsOn.insert source }

/-- The fields that bear on the target of a rule. -/
def influences (trigger : String) (gate : Option String) (target : String) : List String :=
  trigger :: ((gate.map references).getD []).filter (· ≠ target)

def Nodes.linkAll (nodes : Nodes) (sources : List String) (target : String) : Nodes :=
  sources.foldl (fun nodes source => Nodes.link nodes source target) nodes

/-- Links the sources of a rule to its target, whose node then keeps the rule.  Rules of both kinds
are added in this way. -/
def Nodes.attach (nodes : Nodes) (sources : List String) (target : String) (keep : Node → Node) :
    Nodes :=
  Nodes.update (Nodes.linkAll nodes sources target) target keep

def Node.keepFieldRule (r : FieldRule) (n : Node) : Node :=
  { n with fieldRules := n.fieldRules ++ [r] }

def Node.keepValueRule (r : ValueRule) (n : Node) : Node :=
  { n with valueRules := n.valueRules ++ [r] }

def Nodes.addFieldRule (nodes : Nodes) (r : FieldRule) : Nodes :=
  Nodes.attach nodes (influences r.trigger r.gate? r.target) r.target (Node.keepFieldRule r)

def Nodes.addValueRule (nodes : Nodes) (r : ValueRule) : Nodes :=
  Nodes.attach nodes (influences r.trigger r.gate? r.target) r.target (Node.keepValueRule r)

structure Graph where
  nodes : Nodes
  ordered : Ordered
deriving DecidableEq

namespace Graph

/-- The edges from each node to those it depends on. -/
def edgesOf (nodes : Nodes) : Edges := nodes.map fun _ n => n.dependsOn

def ofRules (fieldRules : List FieldRule) (valueRules : List ValueRule) : Graph :=
  let nodes := valueRules.foldl Nodes.addValueRule (fieldRules.foldl Nodes.addFieldRule ∅)
  ⟨nodes, orderOf (edgesOf nodes)⟩

/-- The fields that bear on the target of a rule, where an evaluator finds those in the gate. -/
def askInfluences (trigger : String) (gate : Option String) (target : String) :
    Metered (List String) :=
  match gate with
  | none => pure [trigger]
  | some text => do return trigger :: (← Metered.dependencies text).filter (· ≠ target)

/-- The graph of a set of rules, where an evaluator finds the fields in the gates. -/
def build (fieldRules : List FieldRule) (valueRules : List ValueRule) : Metered Graph := do
  let addFieldRule (nodes : Nodes) (r : FieldRule) : Metered Nodes := do
    let sources ← askInfluences r.trigger r.gate? r.target
    return Nodes.attach nodes sources r.target (Node.keepFieldRule r)
  let addValueRule (nodes : Nodes) (r : ValueRule) : Metered Nodes := do
    let sources ← askInfluences r.trigger r.gate? r.target
    return Nodes.attach nodes sources r.target (Node.keepValueRule r)
  let nodes ← Metered.fold addFieldRule ∅ fieldRules
  let nodes ← Metered.fold addValueRule nodes valueRules
  return ⟨nodes, orderOf (edgesOf nodes)⟩

@[simp] theorem value_askInfluences (trigger : String) (gate : Option String) (target : String) :
    (askInfluences trigger gate target).value = influences trigger gate target := by
  cases gate <;> simp [askInfluences, influences]

@[simp] theorem value_build (fieldRules : List FieldRule) (valueRules : List ValueRule) :
    (build fieldRules valueRules).value = ofRules fieldRules valueRules := by
  simp only [build, Metered.value_bind, Metered.value_fold, value_askInfluences,
    Metered.value_pure]
  rfl

def node? (g : Graph) (field : String) : Option Node := g.nodes[field]?

def fieldRulesOn (g : Graph) (field : String) : List FieldRule :=
  ((g.node? field).map (·.fieldRules)).getD []

def valueRulesOn (g : Graph) (field : String) : List ValueRule :=
  ((g.node? field).map (·.valueRules)).getD []

/-- The fields that a field affects directly, in the order of names. -/
def successors (g : Graph) (field : String) : List String :=
  ((g.node? field).map (·.affects.toList)).getD []

/-- Fields that have rules, in the order of names. -/
def ruled (g : Graph) : List String :=
  (g.nodes.toList.filter (·.2.hasRules)).map (·.1)

/-- Adds the fields that can be reached from `field`, each behind the one that leads to it.  The
first argument bounds the length of chains. -/
def reach (g : Graph) : Nat → List String → String → List String
  | 0, found, _ => found
  | depth + 1, found, field =>
    (g.successors field).foldl
      (fun found next => if next ∈ found then found else reach g depth (found ++ [next]) next) found

/-- All fields that a change of `field` can reach. -/
def affected (g : Graph) (field : String) : List String :=
  g.reach (g.nodes.size + 1) [] field

end Graph
end FormLogic
