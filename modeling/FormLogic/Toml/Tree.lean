/-!
# FormLogic.Toml.Tree

TOML documents.

* `Toml`: a value; dates and times are kept as they are written;
* `Draft`: tables under construction, which know how they came to be;
* `Draft.open?`, `Draft.append?`, `Draft.assign?`: the statements of a document;
* `Draft.close`: the finished value.
-/

namespace FormLogic

inductive Toml where
  | text (s : String)
  | int (i : Int)
  | float (x : Float)
  | bool (b : Bool)
  | moment (written : String)
  | list (items : List Toml)
  | table (entries : List (String × Toml))

namespace Toml

def find? (name : String) : Toml → Option Toml
  | .table entries => entries.lookup name
  | _ => none

/-- Tables under construction.  A table is implicit if it has only been passed on the way to
another one, and dotted if a dotted key made it; of a list of tables the latest stands first. -/
inductive Draft where
  | value (v : Toml)
  | table (isImplicit isDotted : Bool) (entries : List (String × Draft))
  | tables (latest : List (List (String × Draft)))

abbrev Draft.Entries := List (String × Draft)

/-- Replaces the entry of a name, or adds one at the end. -/
def setEntry (name : String) (d : Draft) : Draft.Entries → Draft.Entries
  | [] => [(name, d)]
  | e :: es => if e.1 = name then (name, d) :: es else e :: setEntry name d es

/-- Changes the table at the end of a path.  Tables on the way are made as needed; a dotted key
passes only tables that no header has made. -/
def modifyAt? (isDotted : Bool) (change : Bool → Draft.Entries → Option Draft.Entries) :
    List String → Bool → Draft.Entries → Option Draft.Entries
  | [], tableIsDotted, entries => change tableIsDotted entries
  | name :: path, _, entries =>
    match entries.lookup name with
    | none => do
      let inner ← modifyAt? isDotted change path isDotted []
      return setEntry name (.table true isDotted inner) entries
    | some (.value _) => none
    | some (.tables []) => none
    | some (.tables (latest :: earlier)) => do
      if isDotted then none
      else
        let inner ← modifyAt? isDotted change path false latest
        return setEntry name (.tables (inner :: earlier)) entries
    | some (.table isImplicit innerIsDotted inner) => do
      if isDotted && !isImplicit then none
      else
        let inner ← modifyAt? isDotted change path innerIsDotted inner
        return setEntry name (.table isImplicit innerIsDotted inner) entries

/-- The header of a table.  A table is opened once; one that is implicit may still be. -/
def openTable? (name : String) (_ : Bool) (entries : Draft.Entries) : Option Draft.Entries :=
  match entries.lookup name with
  | none => some (setEntry name (.table false false []) entries)
  | some (.table true false inner) => some (setEntry name (.table false false inner) entries)
  | some _ => none

/-- The header of one more table of a list. -/
def appendTable? (name : String) (_ : Bool) (entries : Draft.Entries) : Option Draft.Entries :=
  match entries.lookup name with
  | none => some (setEntry name (.tables [[]]) entries)
  | some (.tables ts) => some (setEntry name (.tables ([] :: ts)) entries)
  | some _ => none

/-- A key and its value.  A dotted key belongs to a table that dotted keys make, and a plain one to
a table that they do not. -/
def assignKey? (isDotted : Bool) (name : String) (v : Toml) (tableIsDotted : Bool)
    (entries : Draft.Entries) : Option Draft.Entries :=
  if isDotted ≠ tableIsDotted || (entries.lookup name).isSome then none
  else some (setEntry name (.value v) entries)

/-- Splits off the last name of a path. -/
def splitLast? : List String → Option (List String × String)
  | [] => none
  | path => path.getLast?.map fun name => (path.dropLast, name)

def open? (path : List String) (root : Draft.Entries) : Option Draft.Entries := do
  let (path, name) ← splitLast? path
  modifyAt? false (openTable? name) path false root

def append? (path : List String) (root : Draft.Entries) : Option Draft.Entries := do
  let (path, name) ← splitLast? path
  modifyAt? false (appendTable? name) path false root

/-- Assigns below the table of a header. -/
def assign? (header path : List String) (v : Toml) (root : Draft.Entries) :
    Option Draft.Entries := do
  let (path, name) ← splitLast? path
  modifyAt? false
    (fun isDotted entries =>
      modifyAt? true (assignKey? (!path.isEmpty) name v) path isDotted entries)
    header false root

mutual

/-- The finished value of a draft. -/
def close : Draft → Toml
  | .value v => v
  | .table _ _ entries => .table (closeEntries entries)
  | .tables latest => .list (closeTables latest).reverse

def closeEntries : List (String × Draft) → List (String × Toml)
  | [] => []
  | (name, d) :: es => (name, close d) :: closeEntries es

def closeTables : List (List (String × Draft)) → List Toml
  | [] => []
  | t :: ts => .table (closeEntries t) :: closeTables ts

end

end Toml
end FormLogic
