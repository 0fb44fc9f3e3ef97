import Workflow.Command.Options
import Workflow.Document.Schema

/-!
# The commands

There are four commands: a document can be validated, the fragments of a plan merged, a graph run,
and the schema of documents printed. `Request.read` says what a command line asks for.
-/

namespace Workflow.Command

/-- How a graph is to be run. -/
structure RunOptions where
  graph : String
  /-- The file with the record of the run to go on with. -/
  resume : Option String
  /-- Whether prompts are answered by themselves. -/
  isOffline : Bool
  allBranches : Bool
  /-- The folder for the records of runs. -/
  folder : Option String
deriving DecidableEq, Repr

/-- What is to be done. -/
inductive Task where
  | validate (file : String) (asFragment : Bool)
  | merge (plan : String) (output : Option String) (asJson : Bool)
  | run (options : RunOptions)
  | schema (kind : DocumentKind)
deriving DecidableEq, Repr

/-- A task, with what all of them have in common. -/
structure Order where
  /-- The file with the tool catalog. -/
  catalog : Option String
  isStrict : Bool
  task : Task
deriving DecidableEq, Repr

/-- What a command line asks for. -/
inductive Request where
  /-- A text, which is all that is wanted. -/
  | print (text : String)
  /-- Nothing, for the line is not understood. -/
  | mistake
  | perform (order : Order)
deriving DecidableEq, Repr

/-! ## Forms -/

/-- The name under which the program is called. -/
def program : String := "weft"

/-- The program with its version. -/
def versionText : String := "weft-rs 0.1.0\n"

/-- The option for the tool catalog. -/
def catalogOption : OptionForm :=
  ⟨"catalog", some 'c', some "CATALOG", "Tool catalog (YAML); overrides WEFT_TOOL_CATALOG"⟩

/-- The option for strictness. -/
def strictOption : OptionForm :=
  ⟨"strict", none, none, "Treat Minor findings as blocking; overrides WEFT_STRICT"⟩

/-- What stands before the command. -/
def programForm : CommandForm := ⟨program, "", none, [catalogOption, strictOption]⟩

/-- The form of the command that validates. -/
def validateForm : CommandForm where
  name := "validate"
  about := "Validate a graph or fragment document"
  word := some ⟨"FILE", none, [], "Path to the document"⟩
  options :=
    [catalogOption, ⟨"fragment", none, none, "Read the document as a fragment"⟩, strictOption]

/-- The form of the command that merges. -/
def mergeForm : CommandForm where
  name := "merge"
  about := "Merge a plan of fragments into one graph"
  word := some ⟨"PLAN", none, [], "Path to the plan document"⟩
  options :=
    [catalogOption,
      ⟨"output", some 'o', some "OUTPUT", "Write the merged graph here instead of stdout"⟩,
      ⟨"json", none, none, "Emit JSON instead of YAML"⟩, strictOption]

/-- The form of the command that runs. -/
def runForm : CommandForm where
  name := "run"
  about := "Execute a graph"
  word := some ⟨"GRAPH", none, [], "Path to the graph document"⟩
  options :=
    [catalogOption, ⟨"resume", some 'r', some "RESUME", "Continue from a saved run snapshot"⟩,
      ⟨"offline", none, none, "Echo prompts instead of calling the model"⟩, strictOption,
      ⟨"all-branches", none, none, "Fork at every branch point and run each branch"⟩,
      ⟨"save-dir", none, some "SAVE_DIR", "Snapshot directory; overrides WEFT_EXECUTIONS_DIR"⟩]

/-- The kinds of documents, by the words for them. -/
def kindWords : List (String × DocumentKind) :=
  [("graph", .graph), ("fragment", .fragment), ("plan", .plan)]

/-- The form of the command that prints a schema. -/
def schemaForm : CommandForm where
  name := "schema"
  about := "Print the JSON Schema of a document kind"
  word := some ⟨"KIND", some "graph", kindWords.map (·.1), ""⟩
  options := [catalogOption, strictOption]

/-- The forms of all commands. -/
def forms : List CommandForm := [validateForm, mergeForm, runForm, schemaForm]

/-- What the command for help does. -/
def helpAbout : String := "Print this message or the help of the given subcommand(s)"

/-- The help on the program. -/
def programHelp : String :=
  "Usage: " ++ program ++ " [OPTIONS] <COMMAND>\n\nCommands:\n"
    ++ columns (forms.map (fun form => (form.name, form.about)) ++ [("help", helpAbout)])
    ++ "\n" ++ optionLines (programForm.options ++ [helpOption, versionOption])

/-- The help on the command for help. -/
def helpHelp : String :=
  helpAbout ++ "\n\nUsage: " ++ program ++ " help [COMMAND]...\n\nArguments:\n"
    ++ columns [("[COMMAND]...", "Print help for the subcommand(s)")]

/-- The form of a command. -/
def form? (name : String) : Option CommandForm := forms.find? (·.name = name)

/-! ## Reading -/

/-- The task that a command makes of what is given. -/
def makeTask? (name : String) (given : Given) : Option Task :=
  match name, given.words with
  | "validate", [file] => some (.validate file (given.has "fragment"))
  | "merge", [plan] => some (.merge plan (given.value? "output") (given.has "json"))
  | "run", [graph] =>
      some (.run
        { graph
          resume := given.value? "resume"
          isOffline := given.has "offline"
          allBranches := given.has "all-branches"
          folder := given.value? "save-dir" })
  | "schema", [] => some (.schema .graph)
  | "schema", [word] => (kindWords.lookup word).map .schema
  | _, _ => none

/-- The help that is asked for by the names of commands. -/
def readHelp : List String → Request
  | [] => .print programHelp
  | ["help"] => .print helpHelp
  | [name] =>
      match form? name with
      | some form => .print (form.help program)
      | none => .mistake
  | _ => .mistake

/-- A command and its arguments, after what is given before it. The catalog that is given last
counts. -/
def readCommand (before : Given) (form : CommandForm) (arguments : List String) : Request :=
  match readArguments form false .nothing arguments with
  | .help => .print (form.help program)
  | .version | .mistake => .mistake
  | .given given _ =>
      match makeTask? form.name given with
      | some task =>
          if programForm.isSound before then
            .perform
              { catalog := given.value? "catalog" <|> before.value? "catalog"
                isStrict := given.has "strict" || before.has "strict"
                task }
          else .mistake
      | none => .mistake

/-- What a command line asks for. -/
def Request.read (arguments : List String) : Request :=
  match readArguments programForm true .nothing arguments with
  | .help => .print programHelp
  | .version => .print versionText
  | .mistake | .given _ [] => .mistake
  | .given before (name :: rest) =>
      if name = "help" then readHelp rest
      else
        match form? name with
        | some form => readCommand before form rest
        | none => .mistake

end Workflow.Command
