import FormLogic.Formula.Evaluator
import FormLogic.Options.Lookup
import FormLogic.Schema.Field

/-!
# FormLogic.Options.Source

Options drawn from tables.

* `resolveCell`: the text of a cell, which may be a formula;
* `Listing`: the rows, predicates and columns that a field's options are made of;
* `Field.drawOptions`: the options of a sourced field for given values;
* `Field.sourceReferences`: the fields whose values the options depend on.
-/

namespace FormLogic

open Formula

/-- A cell that mentions a field is a formula; if it has no value, its text stands as it is. -/
def resolveCell (values : Dict String) (cell : String) : Metered String :=
  if '@' ∈ cell.toList then do
    match ← Metered.evaluate cell (.ofValues values) with
    | .ok r => return if r.value.isNull then cell else r.value.toText
    | .error _ => return cell
  else pure cell

/-- The text between two equal characters at the ends, if they are this quote. -/
def unquoteWith? (quote : Char) (text : List Char) : Option (List Char) :=
  match text with
  | first :: rest =>
    if first = quote ∧ rest.getLast? = some quote then some rest.dropLast else none
  | [] => none

/-- A text without the quotes around it. -/
def unquote (text : String) : String :=
  match unquoteWith? '\'' text.toList with
  | some inner => String.ofList inner
  | none =>
    match unquoteWith? '"' text.toList with
    | some inner => String.ofList inner
    | none => text

/-- The column that is configured, unless that is blank. -/
def columnOr (configured : Option String) (default : String) : String :=
  ((configured.map Text.trim).filter (!·.isEmpty)).getD default

def SourceMetadata.valueColumnName (m : SourceMetadata) : String := columnOr m.valueColumn "value"

def SourceMetadata.displayColumnName (m : SourceMetadata) : String :=
  columnOr m.displayColumn "display"

/-- The source of a field, if it names a table. -/
def Field.table? (f : Field) : Option SourceSpec :=
  f.source?.filter fun spec => !Text.allBlank spec.table

def SourceSpec.metadataOrEmpty (spec : SourceSpec) : SourceMetadata := spec.metadata.getD {}

/-- What options are made of. -/
structure Listing where
  table : String
  rows : List Row
  predicates : List Predicate
  valueColumn : String
  displayColumn : String
deriving DecidableEq

/-- The listing of a source; none without its table or with a lookup that cannot be read. -/
def SourceSpec.listing? (spec : SourceSpec) (tables : Tables) : Option Listing := do
  let rows ← tables[spec.table]?
  let metadata := spec.metadataOrEmpty
  let predicates ← (readLookup ((nonBlank? metadata.lookup).getD "")).toOption
  return ⟨spec.table, rows, predicates, metadata.valueColumnName, metadata.displayColumnName⟩

/-- The cells that the predicates ask for. -/
def Listing.expected (l : Listing) (values : Dict String) : Metered (List (String × String)) :=
  Metered.forEach
    (fun p => do return (p.column, ← resolveCell values (unquote p.value))) l.predicates

def rowFits (expected : List (String × String)) (row : Row) : Bool :=
  expected.all fun p => row[p.1]? == some p.2

/-- The value and the caption of a row that has a value cell; the caption is the value if the row
has no cell for it. -/
def Listing.project (l : Listing) (values : Dict String) (row : Row) :
    Metered (Option (String × String)) :=
  match row[l.valueColumn]? with
  | none => pure none
  | some cell => do
    let value ← resolveCell values cell
    match row[l.displayColumn]? with
    | none => return some (value, value)
    | some caption => do return some (value, ← resolveCell values caption)

def Listing.entries (l : Listing) (values : Dict String) : Metered (List (String × String)) := do
  let expected ← l.expected values
  let projected ← Metered.forEach (l.project values) (l.rows.filter (rowFits expected))
  return projected.filterMap id

/-- The option of a field that stands at a position of its table's listing. -/
def Field.drawnChoice (f : Field) (table : String) (entry : String × String) (position : Nat) :
    Choice where
  id := table ++ "_" ++ toString position
  keyword := f.keyword
  display := entry.2
  value := entry.1
  selected := false
  sequence := position
  transaction := f.transaction
  step := f.step

/-- The options that a sourced field draws from its table. -/
def Field.drawOptions (f : Field) (tables : Tables) (values : Dict String) :
    Metered (List Choice) :=
  match f.table?.bind (·.listing? tables) with
  | none => pure []
  | some l => do
    return (← l.entries values).zipIdx.map fun p => f.drawnChoice l.table p.1 p.2

/-- All texts in which a field that the options depend on can be mentioned. -/
def SourceSpec.texts (spec : SourceSpec) (tables : Tables) : List String :=
  let metadata := spec.metadataOrEmpty
  metadata.lookup.toList ++ metadata.valueColumn.toList ++ metadata.displayColumn.toList ++
    (tables[spec.table]?.getD []).flatMap fun row =>
      row[metadata.valueColumnName]?.toList ++ row[metadata.displayColumnName]?.toList

/-- The fields whose values the options depend on, each once. -/
def Field.sourceReferences (f : Field) (tables : Tables) : List String :=
  match f.table? with
  | none => []
  | some spec => ((spec.texts tables).flatMap references).eraseDups

end FormLogic
