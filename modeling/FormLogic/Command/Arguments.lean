import FormLogic.Text.Blank

/-!
# FormLogic.Command.Arguments

What the command line asks for.

* `Invocation`: a request with the options that all requests have;
* `Stop`: why there is none: it cannot be read, or help or the version is asked for;
* `readInvocation`: reads arguments.

Options may stand before or behind the name of the request; what stands behind `--` is no option.
-/

namespace FormLogic
namespace Command

open Text

inductive Format where
  | table
  | json
  | yaml
deriving DecidableEq, Repr

inductive Stop where
  | usage
  | help (topic : Option String)
  | version
deriving DecidableEq, Repr

structure InspectRequest where
  schema : String
  transaction : Option String
  step : Option String
  strict : Bool
deriving DecidableEq, Repr

structure RunRequest where
  schema : String
  values : Option String
  transaction : Option String
  step : Option String
  changes : List (String × String)
  blurs : List String
  reset : Bool
  validate : Bool
deriving DecidableEq, Repr

structure EvalRequest where
  formula : String
  values : List (String × String)
deriving DecidableEq, Repr

inductive Request where
  | inspect (r : InspectRequest)
  | run (r : RunRequest)
  | eval (r : EvalRequest)
deriving DecidableEq, Repr

structure Invocation where
  config : Option String
  format : Format
  request : Request
deriving DecidableEq, Repr

def Format.ofName? (name : String) : Option Format :=
  match name with
  | "table" => some .table
  | "json" => some .json
  | "yaml" => some .yaml
  | _ => none

/-- A key without blanks at its ends, an equals sign and a value. -/
def readAssignment? (text : String) : Option (String × String) :=
  match text.toList.dropWhile (· ≠ '=') with
  | [] => none
  | _ :: value =>
    let key := trimChars (text.toList.takeWhile (· ≠ '='))
    if key = [] then none else some (String.ofList key, String.ofList value)

/-- What an option takes. -/
inductive Kind where
  | flag
  | text
  | path
  | format
  | assignment
deriving DecidableEq, Repr

/-- Whether a value is one that an option of this kind takes. -/
def Kind.admits (kind : Kind) (value : String) : Bool :=
  match kind with
  | .flag | .text => true
  | .path => !value.isEmpty
  | .format => (Format.ofName? value).isSome
  | .assignment => (readAssignment? value).isSome

structure OptionSpec where
  name : String
  short : Option Char
  kind : Kind
  repeats : Bool
  /-- What the value stands for. -/
  value : String
  about : String
deriving DecidableEq, Repr

/-- What the arguments behind the name of a request, or those in front of it, may be. -/
structure Grammar where
  topic : Option String
  options : List OptionSpec
  /-- How many words that are no options there may be. -/
  words : Nat
deriving DecidableEq, Repr

def configOption : OptionSpec :=
  ⟨"config", none, .path, false, "CONFIG", "Engine configuration file (TOML)"⟩

def formatOption : OptionSpec :=
  ⟨"format", some 'f', .format, false, "FORMAT",
    "Output format [default: table] [possible values: table, json, yaml]"⟩

def schemaOption : OptionSpec :=
  ⟨"schema", some 's', .path, false, "SCHEMA", "Schema JSON file"⟩

def transactionOption : OptionSpec :=
  ⟨"transaction", none, .text, false, "TRANSACTION",
    "Transaction code (defaults to the configured one)"⟩

def stepOption : OptionSpec :=
  ⟨"step", none, .text, false, "STEP", "Calculation step (defaults to the configured one)"⟩

def strictOption : OptionSpec :=
  ⟨"strict", none, .flag, false, "", "Fail when rules or default expressions are circular"⟩

def valuesOption : OptionSpec :=
  ⟨"values", none, .path, false, "VALUES", "Initial values (JSON object)"⟩

def setOption : OptionSpec :=
  ⟨"set", none, .assignment, true, "CHANGES", "Change a field: KEY=VALUE"⟩

def blurOption : OptionSpec := ⟨"blur", none, .text, true, "BLURS", "Blur a field"⟩

def resetOption : OptionSpec :=
  ⟨"reset", none, .flag, false, "", "Reset the form after the edits"⟩

def validateOption : OptionSpec :=
  ⟨"validate", none, .flag, false, "", "Validate the whole form at the end"⟩

def valueOption : OptionSpec :=
  ⟨"value", none, .assignment, true, "VALUES", "Field value: KEY=VALUE"⟩

/-- Options that all requests have; they may also stand in front of the request. -/
def commonGrammar : Grammar := ⟨none, [configOption, formatOption], 0⟩

def inspectGrammar : Grammar :=
  ⟨some "inspect", [configOption, schemaOption, formatOption, transactionOption, stepOption,
    strictOption], 0⟩

def runGrammar : Grammar :=
  ⟨some "run", [configOption, schemaOption, formatOption, valuesOption, transactionOption,
    stepOption, setOption, blurOption, resetOption, validateOption], 0⟩

def evalGrammar : Grammar := ⟨some "eval", [configOption, valueOption, formatOption], 1⟩

/-- What has been read: options by name with their values, words that are no options, and an
option that still needs its value. -/
structure Reading where
  options : List (String × String) := []
  words : List String := []
  pending : Option OptionSpec := none
deriving DecidableEq, Repr

/-- Whether an argument has the form of an option. -/
def looksLikeOption (argument : String) : Bool :=
  match argument.toList with
  | '-' :: _ :: _ => true
  | _ => false

/-- The option that an argument names, and the value attached to it. -/
structure Named where
  spec : OptionSpec
  attached : Option String
deriving DecidableEq, Repr

/-- What a name means that no option has. -/
def Grammar.unnamed (g : Grammar) (isHelp isVersion : Bool) : Stop :=
  if isHelp then .help g.topic
  else if isVersion && g.topic.isNone then .version
  else .usage

/-- Reads the name of an option: two dashes and a word, or one dash and a character. -/
def Grammar.readName (g : Grammar) (argument : List Char) : Except Stop Named :=
  match argument with
  | '-' :: '-' :: rest =>
    let name := String.ofList (rest.takeWhile (· ≠ '='))
    let attached :=
      match rest.dropWhile (· ≠ '=') with
      | [] => none
      | _ :: value => some (String.ofList value)
    match g.options.find? (·.name == name) with
    | some spec => .ok ⟨spec, attached⟩
    | none =>
      .error (g.unnamed (name == "help" && attached.isNone) (name == "version" && attached.isNone))
  | '-' :: c :: rest =>
    let value := if rest.head? = some '=' then rest.tail else rest
    match g.options.find? (·.short == some c) with
    | some spec => .ok ⟨spec, if rest = [] then none else some (String.ofList value)⟩
    | none => .error (g.unnamed (c == 'h') (c == 'V'))
  | _ => .error .usage

/-- Gives a value to an option. -/
def Reading.give (r : Reading) (spec : OptionSpec) (value : String) : Except Stop Reading :=
  if !spec.kind.admits value then .error .usage
  else if !spec.repeats && r.options.any (·.1 == spec.name) then .error .usage
  else .ok { r with options := r.options ++ [(spec.name, value)], pending := none }

/-- Takes an argument that has the form of an option. -/
def Reading.takeOption (g : Grammar) (r : Reading) (argument : String) : Except Stop Reading := do
  if r.pending.isSome then throw .usage
  let named ← g.readName argument.toList
  match named.spec.kind, named.attached with
  | .flag, none => r.give named.spec ""
  | .flag, some _ => throw .usage
  | _, some value => r.give named.spec value
  | _, none => return { r with pending := some named.spec }

/-- Takes an argument that is no option: the value of one, or a word. -/
def Reading.takeWord (g : Grammar) (r : Reading) (argument : String) : Except Stop Reading :=
  match r.pending with
  | some spec => r.give spec argument
  | none =>
    if r.words.length < g.words then .ok { r with words := r.words ++ [argument] }
    else .error .usage

/-- Reads the arguments behind the name of a request. -/
def Grammar.read (g : Grammar) (r : Reading) : List String → Except Stop Reading
  | [] => if r.pending.isSome then .error .usage else .ok r
  | argument :: rest =>
    if argument = "--" ∧ r.pending = none then rest.foldlM (Reading.takeWord g) r
    else if looksLikeOption argument then do g.read (← r.takeOption g argument) rest
    else do g.read (← r.takeWord g argument) rest

/-- Reads the arguments up to the name of the request. -/
def readCommon (r : Reading) : List String → Except Stop (Reading × String × List String)
  | [] => .error .usage
  | argument :: rest =>
    if looksLikeOption argument then do readCommon (← r.takeOption commonGrammar argument) rest
    else
      match r.pending with
      | some spec => do readCommon (← r.give spec argument) rest
      | none => .ok (r, argument, rest)

/-- The value of an option. -/
def Reading.value? (r : Reading) (name : String) : Option String := r.options.lookup name

/-- The values of an option, in the order given. -/
def Reading.values (r : Reading) (name : String) : List String :=
  (r.options.filter (·.1 == name)).map (·.2)

def Reading.assignments (r : Reading) (name : String) : List (String × String) :=
  (r.values name).filterMap readAssignment?

/-- A value that has to be there. -/
def Reading.needed (r : Reading) (name : String) : Except Stop String :=
  match r.value? name with
  | some value => .ok value
  | none => .error .usage

def Reading.inspect (r : Reading) : Except Stop Request := do
  return .inspect {
    schema := ← r.needed "schema"
    transaction := r.value? "transaction"
    step := r.value? "step"
    strict := (r.value? "strict").isSome }

def Reading.run (r : Reading) : Except Stop Request := do
  return .run {
    schema := ← r.needed "schema"
    values := r.value? "values"
    transaction := r.value? "transaction"
    step := r.value? "step"
    changes := r.assignments "set"
    blurs := r.values "blur"
    reset := (r.value? "reset").isSome
    validate := (r.value? "validate").isSome }

def Reading.eval (r : Reading) : Except Stop Request :=
  match r.words with
  | [formula] => .ok (.eval ⟨formula, r.assignments "value"⟩)
  | _ => .error .usage

/-- A request by name: what its arguments may be, and how they make it up. -/
def requestOf? (name : String) : Option (Grammar × (Reading → Except Stop Request)) :=
  match name with
  | "inspect" => some (inspectGrammar, Reading.inspect)
  | "run" => some (runGrammar, Reading.run)
  | "eval" => some (evalGrammar, Reading.eval)
  | _ => none

/-- Help on a request, or on all of them. -/
def readHelp (topics : List String) : Stop :=
  match topics with
  | [] => .help none
  | [topic] =>
    if topic = "help" ∨ (requestOf? topic).isSome then .help (some topic) else .usage
  | _ => .usage

/-- Reads arguments.  A common option behind the name of the request goes before one in front. -/
def readInvocation (arguments : List String) : Except Stop Invocation := do
  let (before, name, rest) ← readCommon {} arguments
  if name = "help" then throw (readHelp rest)
  match requestOf? name with
  | none => throw .usage
  | some (grammar, make) =>
    let behind ← grammar.read {} rest
    let request ← make behind
    let common (option : String) : Option String :=
      (behind.value? option).or (before.value? option)
    return {
      config := common "config"
      format := ((common "format").bind Format.ofName?).getD .table
      request := request }

end Command
end FormLogic
