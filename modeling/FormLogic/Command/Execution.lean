import FormLogic.Command.Help
import FormLogic.Command.Report
import FormLogic.Schema.Wire

/-!
# FormLogic.Command.Execution

Carrying out what the command line asks for.

* `Surroundings`: the files and the variables that a request may read;
* `Failure`: why a request cannot be carried out;
* `execute`: what the program answers to its arguments.
-/

namespace FormLogic
namespace Command

open Formula Json

/-- Why a file cannot be read. -/
inductive FileFault where
  | missing
  | directory
  | notDirectory
  | unreadable (reason : String)
deriving DecidableEq, Repr

def FileFault.message : FileFault → String
  | .missing => "No such file or directory (os error 2)"
  | .directory => "Is a directory (os error 21)"
  | .notDirectory => "Not a directory (os error 20)"
  | .unreadable reason => reason

/-- What a request may read. -/
structure Surroundings where
  /-- The directory of the user. -/
  home : Option String
  /-- A settings file that no option has to name. -/
  config : Option String
  read : String → Except FileFault String

/-- Why a request cannot be carried out. -/
inductive Failure where
  | configFile (path : String) (why : FileFault)
  | configText (path : String) (why : SettingsFault)
  | schemaFile (path : String) (why : FileFault)
  | schemaText (path : String) (why : TextFault)
  | valuesFile (path : String) (why : FileFault)
  | valuesText (path : String) (why : TextMisfit)
  | formula (source : String) (why : Fault)
  | circular (cycles : List (List String))
deriving DecidableEq

/-- What was done, then what went wrong, from the outside inwards. -/
def Failure.message : Failure → String
  | .configFile path why =>
    "loading config " ++ path ++ ": IO error: " ++ why.message ++ ": " ++ why.message
  | .configText path why => "loading config " ++ path ++ ": " ++ why.message?.getD "config error"
  | .schemaFile path why => "reading schema " ++ path ++ ": " ++ why.message
  | .schemaText path .malformed => "parsing schema " ++ path ++ ": JSON error"
  | .schemaText path (.misfit why) =>
    "parsing schema " ++ path ++ ": JSON error: " ++ why.message ++ ": " ++ why.message
  | .valuesFile path why => "reading values " ++ path ++ ": " ++ why.message
  | .valuesText path why => "parsing values " ++ path ++ ": " ++ why.message?.getD "JSON error"
  | .formula source why => "evaluating \x60" ++ source ++ "\x60: " ++ why.message
  | .circular cycles => cyclesMessage cycles

/-- A file that is searched for below a directory. -/
def below (directory file : String) : String :=
  if directory.endsWith "/" then directory ++ file else directory ++ "/" ++ file

/-- The settings file that the user keeps. -/
def Surroundings.userConfig? (w : Surroundings) : Option String :=
  w.home.map (below · ".formkit/config.toml")

/-- The settings of a file. -/
def Surroundings.settingsOf (w : Surroundings) (path : String) : Except Failure Settings := do
  let text ← (w.read path).mapError (.configFile path)
  (Settings.ofToml text).mapError (.configText path)

/-- The settings of the file that is named, else of the one that the user keeps. -/
def Surroundings.settings (w : Surroundings) (named : Option String) :
    Except Failure Settings :=
  match named.or w.config, w.userConfig? with
  | some path, _ => w.settingsOf path
  | none, some path =>
    match w.read path with
    | .error .missing | .error .notDirectory => .ok {}
    | _ => w.settingsOf path
  | none, none => .ok {}

def Surroundings.product (w : Surroundings) (path : String) : Except Failure Product := do
  let text ← (w.read path).mapError (.schemaFile path)
  (Product.ofText text).mapError (.schemaText path)

/-- The text that a field gets from a value; null gives none. -/
def fieldText? : Json → Option String
  | .null => none
  | .text s => some s
  | j => some j.write

def fieldTexts (values : Dict Json) : Dict String :=
  Dict.ofPairs (values.toList.filterMap fun p => (fieldText? p.2).map fun s => (p.1, s))

/-- The initial values of a file. -/
def Surroundings.values (w : Surroundings) (path : String) : Except Failure (Dict String) := do
  let text ← (w.read path).mapError (.valuesFile path)
  let values ← ((Stream.dict Stream.value).run text).mapError (.valuesText path)
  return fieldTexts values

def InspectRequest.execute (r : InspectRequest) (w : Surroundings) (settings : Settings) :
    Except Failure Report := do
  let product ← w.product r.schema
  let options : SessionOptions := ⟨∅, r.transaction, r.step, settings⟩
  let s := Session.start product options
  if r.strict && !s.form.cycles.isEmpty then throw (.circular s.form.cycles)
  return .ofForm product options s

/-- The changes in order, then the blurs, a reset and a validation. -/
def RunRequest.replay (r : RunRequest) (s : Session) : Session :=
  let s := r.changes.foldl (fun s change => s.change change.1 change.2) s
  let s := r.blurs.foldl Session.blur s
  let s := if r.reset then s.reset else s
  if r.validate then s.validate.2 else s

def RunRequest.execute (r : RunRequest) (w : Surroundings) (settings : Settings) :
    Except Failure Report := do
  let product ← w.product r.schema
  let values ←
    match r.values with
    | some path => w.values path
    | none => pure ∅
  return .ofSession (r.replay (Session.start product ⟨values, r.transaction, r.step, settings⟩))

def EvalRequest.execute (r : EvalRequest) : Except Failure Report := do
  let e ← (evaluate r.formula (.ofValues (Dict.ofPairs r.values))).mapError (.formula r.formula)
  return .ofEvaluation r.formula e

/-- The settings are read first, also where no use is made of them. -/
def Invocation.execute (i : Invocation) (w : Surroundings) : Except Failure String := do
  let settings ← w.settings i.config
  let report ←
    match i.request with
    | .inspect r => r.execute w settings
    | .run r => r.execute w settings
    | .eval r => r.execute
  return report.write i.format

/-- The files that carrying out an invocation may read. -/
def Invocation.paths (i : Invocation) (w : Surroundings) : List String :=
  i.config.toList ++ w.config.toList ++ w.userConfig?.toList ++
    match i.request with
    | .inspect r => [r.schema]
    | .run r => r.schema :: r.values.toList
    | .eval _ => []

/-- What the program ends with and prints. -/
structure Reply where
  exit : Nat
  output : String := ""
  complaint : String := ""
deriving DecidableEq, Repr

def Stop.reply : Stop → Reply
  | .usage => { exit := 2, complaint := helpOn none }
  | .help topic => { exit := 0, output := helpOn topic }
  | .version => { exit := 0, output := versionText }

/-- The answer to arguments: 0 for success, 1 for failure, 2 for arguments that cannot be read. -/
def execute (w : Surroundings) (arguments : List String) : Reply :=
  match readInvocation arguments with
  | .error stop => stop.reply
  | .ok invocation =>
    match invocation.execute w with
    | .ok output => { exit := 0, output := output }
    | .error failure => { exit := 1, complaint := "Error: " ++ failure.message ++ "\n" }

end Command
end FormLogic
