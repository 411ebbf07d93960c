import FormLogic.Command.Arguments

/-!
# FormLogic.Command.Help

What is said about the command line itself.

* `versionText`: the name and the version of the program;
* `helpOn`: help on one request, or on all of them.
-/

namespace FormLogic
namespace Command

def programName : String := "formkit"

def versionText : String := programName ++ " 0.1.0\n"

/-- Two columns, the first as wide as it has to be. -/
def helpRows (rows : List (String × String)) : List String :=
  let width := (rows.map (·.1.length)).foldl max 0
  rows.map fun row =>
    "  " ++ row.1 ++ String.ofList (List.replicate (width - row.1.length + 2) ' ') ++ row.2

/-- An option as it is given. -/
def OptionSpec.label (o : OptionSpec) : String :=
  (match o.short with
    | some c => "-" ++ String.ofList [c] ++ ", "
    | none => "    ") ++
    "--" ++ o.name ++ (if o.kind = .flag then "" else " <" ++ o.value ++ ">")

def requestRows : List (String × String) :=
  [("inspect", "Summarize a schema for one transaction/step"),
    ("run", "Replay events against a schema and print the final state"),
    ("eval", "Evaluate one expression"),
    ("help", "Print this message or the help of the given subcommand(s)")]

def helpRow : String × String := ("-h, --help", "Print help")

/-- The rows on options: those of a request and the ones that every request has. -/
def optionRows (g : Grammar) : List (String × String) :=
  g.options.map (fun o => (o.label, o.about)) ++ [helpRow]

/-- A text on a request: what it does, how it is written and what its parts mean. -/
def helpText (about usage : String) (parts : List (String × List (String × String))) : String :=
  String.join <| (about ++ "\n\nUsage: " ++ programName ++ usage ++ "\n") ::
    parts.map fun part =>
      "\n" ++ part.1 ++ ":\n" ++ String.join ((helpRows part.2).map (· ++ "\n"))

/-- Help on a request, or on all of them. -/
def helpOn (topic : Option String) : String :=
  let about := (topic.bind fun name => requestRows.lookup name).getD ""
  match topic with
  | some "inspect" =>
    helpText about " inspect [OPTIONS] --schema <SCHEMA>" [("Options", optionRows inspectGrammar)]
  | some "run" =>
    helpText about " run [OPTIONS] --schema <SCHEMA>" [("Options", optionRows runGrammar)]
  | some "eval" =>
    helpText about " eval [OPTIONS] <EXPRESSION>"
      [("Arguments", [("<EXPRESSION>", "Expression text, e.g. \"@PREMIUM * 10\"")]),
        ("Options", optionRows evalGrammar)]
  | some "help" => helpText about " help [COMMAND]..." []
  | _ =>
    helpText "Inspect form schemas and replay form sessions" " [OPTIONS] <COMMAND>"
      [("Commands", requestRows),
        ("Options", optionRows commonGrammar ++ [("-V, --version", "Print version")])]

end Command
end FormLogic
