import FormLogic.Command.Arguments
import FormLogic.Command.Table
import FormLogic.Json.Writer
import FormLogic.Schema.Wire
import FormLogic.Session
import FormLogic.Yaml.Writer

/-!
# FormLogic.Command.Report

What requests answer with.

* `Report`: an answer as a tree, and as a table below a few lines;
* `Report.ofEvaluation`, `Report.ofForm`, `Report.ofSession`: the answers of the three requests;
* `Report.write`: their texts in each format.
-/

namespace FormLogic

open Formula Json

namespace Wire

def value : Value → Json
  | .null => .null
  | .bool b => .bool b
  | .number x => .float x
  | .text s => .text s

end Wire

namespace Command

structure Report where
  tree : Json
  /-- What stands above the table. -/
  lines : List String
  table : Table

def cellOfBool (b : Bool) : String := if b then "true" else "false"

/-- The value of a formula and the fields that it read. -/
def Report.ofEvaluation (formula : String) (e : Evaluation) : Report where
  tree := .object [("expression", .text formula), ("value", Wire.value e.value),
    ("dependencies", ofTexts e.dependencies)]
  lines := []
  table := {
    head := ["expression", "value", "dependencies"]
    rows := [[formula, e.value.toText, ", ".intercalate e.dependencies]] }

/-- A field as a form shows it at first. -/
structure FieldSummary where
  sectionName : String
  keyword : String
  type : String
  value : String
  visible : Bool
  mandatory : Bool
  rules : Nat
deriving DecidableEq, Repr

/-- The name of a type of fields, in capitals only at its head. -/
def typeLabel : FieldType → String
  | .dob => "Dob"
  | t => Wire.fieldTypeName t

def FieldSummary.ofEntry (rules : RuleSet) (sectionName : String) (e : Entry) : FieldSummary where
  sectionName := sectionName
  keyword := e.field.keyword
  type := typeLabel e.field.type
  value := e.value.getD ""
  visible := e.visible
  mandatory := e.mandatory
  rules := (rules[e.field.keyword]?.getD []).length

def FieldSummary.tree (f : FieldSummary) : Json :=
  .object [("section", .text f.sectionName), ("keyword", .text f.keyword),
    ("field_type", .text f.type), ("value", .text f.value), ("visible", .bool f.visible),
    ("mandatory", .bool f.mandatory), ("rules", .int f.rules)]

def FieldSummary.cells (f : FieldSummary) : List String :=
  [f.sectionName, f.keyword, f.type, f.value, cellOfBool f.visible, cellOfBool f.mandatory,
    toString f.rules]

/-- A form at the start of a session: its fields, section by section, the order in which they are
evaluated, the cycles of its rules, and how many checks each field has. -/
def Report.ofForm (p : Product) (o : SessionOptions) (s : Session) : Report :=
  let fields := s.sections.1.flatMap fun part =>
    part.entries.map (FieldSummary.ofEntry s.form.rules part.name)
  let ordered := s.form.resolver.graph.ordered
  { tree := .object [("product", .text p.name), ("transaction_code", .text o.transactionCode),
      ("calc_step", .text o.stepCode), ("fields", .list (fields.map FieldSummary.tree)),
      ("evaluation_order", ofTexts ordered.order), ("cycles", .list (ordered.cycles.map ofTexts)),
      ("rule_counts", ofDict (fun rules => .int rules.length) s.form.rules)]
    lines :=
      (p.name ++ " (" ++ o.transactionCode ++ " / " ++ o.stepCode ++ ")") ::
        ("evaluation order: " ++ ", ".intercalate ordered.order) ::
        ordered.cycles.map fun cycle => "cycle: " ++ " -> ".intercalate cycle
    table := {
      head := ["section", "keyword", "type", "value", "visible", "mandatory", "rules"]
      rows := fields.map FieldSummary.cells } }

/-- A field at the end of a session. -/
def fieldCells (s : FormState) (f : Field) : List String :=
  [f.keyword, (s.value? f.keyword).getD "", cellOfBool (s.isVisible f.keyword),
    cellOfBool (s.isDisabled f.keyword), cellOfBool (s.isReadonly f.keyword),
    cellOfBool (s.isMandatory f.keyword), "; ".intercalate (s.fieldErrors f.keyword)]

/-- The state of a session and what has happened in it. -/
def Report.ofSession (s : Session) : Report where
  tree := .object [("state", Wire.formState.encode s.state),
    ("events", .list (s.events.map Wire.event))]
  lines := []
  table := {
    head := ["field", "value", "visible", "disabled", "readonly", "mandatory", "errors"]
    rows := s.form.fields.map (fieldCells s.state) }

/-- The text of a report; it ends in a line break. -/
def Report.write (r : Report) : Format → String
  | .json => r.tree.writeIndented ++ "\n"
  | .yaml => Yaml.write r.tree
  | .table => String.join ((r.lines ++ [r.table.render]).map (· ++ "\n"))

end Command
end FormLogic
