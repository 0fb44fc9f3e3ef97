import Workflow.Chat
import Workflow.Command.Basic
import Workflow.Document.Loader
import Workflow.Error
import Workflow.Merge.Join
import Workflow.Run.Runner
import Workflow.Run.Snapshot
import Workflow.Validation.Plan
import Workflow.Yaml.Printer

/-!
# What commands do

A command reads files and variables and asks the service of the model; what it reads and asks is
given to it as functions. What comes of it is a value: a text to print, files to write, and then
another text to print or the message of a failure. So nothing here depends on when a file is
written, and a command line that is refused says so before anything is written.
-/

namespace Workflow.Command

/-! ## Outcomes -/

/-- A file to be written. -/
structure NewFile where
  /-- The folder that is made if it is missing. -/
  folder : Option String
  path : String
  text : String
deriving DecidableEq, Repr

/-- What comes of a command. -/
structure Outcome where
  /-- What is printed before files are written. -/
  printed : String
  /-- The files that are written, in order, up to the first that cannot be written. -/
  files : List NewFile
  /-- The message if a file cannot be written, from the reason for it. -/
  unwritten : String → String
  /-- What is printed in the end, or the message of the failure. -/
  conclusion : Except String String

namespace Outcome

/-- A command that fails and writes nothing. -/
def failed (message : String) : Outcome := ⟨"", [], id, .error message⟩

/-- A command that only prints. -/
def ofText (text : String) : Outcome := ⟨"", [], id, .ok text⟩

/-- The outcome with a text printed before. -/
def after (printed : String) (outcome : Outcome) : Outcome :=
  { outcome with printed := printed ++ outcome.printed }

/-- Goes on with a value, or fails. -/
def withValue {α : Type} (value : Except String α) (next : α → Outcome) : Outcome :=
  match value with
  | .ok value => next value
  | .error message => failed message

end Outcome

/-! ## Surroundings -/

/-- What a command finds around it. -/
structure Surroundings where
  /-- The variables, by their names. -/
  environment : String → Option String
  /-- The text of a file that can be read. -/
  file? : String → Option String
  /-- The reply of the service of the model, or why there is none. -/
  exchange : ChatRequest → Except String ChatReply
  /-- The ids of new runs. -/
  newId : Nat → String
  /-- When new runs are started. -/
  now : String

namespace Surroundings

/-- What a file holds, read by a function of its text. -/
def load {α : Type} (s : Surroundings) (what path : String) (read : String → Option α) :
    Except String α :=
  match (s.file? path).bind read with
  | some value => .ok value
  | none => .error ("failed to load " ++ what ++ " " ++ path)

/-- The document in a file. -/
def loadDocument {α : Type} (s : Surroundings) (what path : String)
    (load : Format → String → Except LoadError α) : Except String α :=
  s.load what path fun text => (load (Format.ofPath path text) text).toOption

/-- The tool catalog in the file that the order or the settings name; without it no tool
is known. -/
def loadTools (s : Surroundings) (settings : Settings) (order : Order) : Except String Catalog :=
  match order.catalog <|> settings.catalogFile with
  | some path => s.load "tool catalog" path fun text => (loadCatalog text).toOption
  | none => .ok .empty

/-- The reply to a prompt. -/
def ask (s : Surroundings) (service : ChatService) (prompt : String) : Except String String :=
  match s.exchange (service.request prompt) with
  | .ok reply => (ChatService.answer reply).mapError ChatError.message
  | .error message => .error message

end Surroundings

/-! ## Findings -/

/-- Findings, one on a line. -/
def findingLines (report : Report) : String :=
  String.join (report.violations.map fun v => v.text ++ "\n")

/-- Prints findings, and goes on unless they block. -/
def checked (report : Report) (strict : Bool) (next : Outcome) : Outcome :=
  Outcome.after (findingLines report)
    (if report.isAcceptedWith strict then next
      else .failed (toString report.violations.length ++ " finding(s) block acceptance"))

/-! ## The commands -/

/-- Validates a document. -/
def validateFile (s : Surroundings) (catalog : Catalog) (strict : Bool) (file : String)
    (asFragment : Bool) : Outcome :=
  let report :=
    if asFragment then
      (s.loadDocument "fragment" file loadFragment).map (Fragment.validate catalog.schema?)
    else (s.loadDocument "graph" file loadGraph).map fun graph => graph.validate catalog.schema?
  Outcome.withValue report fun report =>
    checked report strict (.ofText (file ++ " is valid\n"))

/-- A graph as a document in JSON or in YAML. -/
def graphText (asJson : Bool) (graph : Graph) : String :=
  let document := (GraphDocument.ofGraph graph).toJson
  if asJson then document.pretty else Yaml.write document

/-- Puts a text out, to a file if one is given. -/
def putOut (output : Option String) (text : String) : Outcome :=
  match output with
  | none => .ofText text
  | some path =>
      { printed := ""
        files := [⟨none, path, text⟩]
        unwritten := fun _ => "failed to write " ++ path
        conclusion := .ok ("Merged graph written to " ++ path ++ "\n") }

/-- Joins the fragments of a plan, and puts the joint graph out. -/
def mergePlan (schemas : Schemas) (strict : Bool) (plan : Plan) (output : Option String)
    (asJson : Bool) : Outcome :=
  match merge schemas plan.fragments plan.dependencies with
  | .error report => Outcome.after (findingLines report) (.failed "merge rejected")
  | .ok graph =>
      let out := putOut output (graphText asJson graph)
      if strict then checked (graph.validate schemas) strict out else out

/-- What runs in a command have made: ids so far, and the records to be saved, the last
one first. -/
structure Session where
  ids : Nat
  saved : List Run

/-- The file for the record of a run. -/
def recordFile (folder : String) (run : Run) : NewFile :=
  let separator := if folder.toList.getLast? = some '/' then "" else "/"
  ⟨some folder, folder ++ separator ++ run.fileName, run.text⟩

/-- What is said about a run in the end. -/
def runLine (run : Run) : String :=
  "Run " ++ run.id ++ ": " ++ run.status.name ++ " after [" ++ " -> ".intercalate run.trail ++ "]\n"

/-- What is said about runs in the end; of a single one also what its steps have recorded. -/
def runsText (runs : List Run) : String :=
  String.join (runs.map runLine)
    ++ match runs with
      | [run] => run.state.toJson.pretty ++ "\n"
      | _ => ""

/-- The engine for a graph, new or from a record. -/
def makeEngine (s : Surroundings) (graph : Graph) (schemas : Schemas) (resume : Option String) :
    Except String Engine :=
  match resume with
  | none => (Engine.start graph schemas (s.newId 0) s.now).mapError RunError.message
  | some path =>
      (s.load "snapshot" path Run.ofText?).bind fun run =>
        (Engine.restore graph schemas run).mapError RunError.message

/-- How prompts are answered: by themselves, or by the service that the settings name. -/
def makeReasoner (s : Surroundings) (settings : Settings) (isOffline : Bool) :
    Except String (Reasoner Session) :=
  if isOffline then .ok fun prompt session => (.ok prompt, session)
  else
    ((ChatService.ofSettings settings).map fun service prompt session =>
      (s.ask service prompt, session)).mapError fun e => (WorkflowError.ofSettings e).message

/-- The runner of a command. Conditions choose branches, and where they do not the model does. -/
def makeRunner (s : Surroundings) (catalog : Catalog) (reasoner : Reasoner Session) :
    Runner Session where
  collaborators := ⟨some reasoner, some (selectByCondition (some (selectByReasoner reasoner)))⟩
  dispatch := fun invocation session => (catalog.dispatch invocation.tool, session)
  newId := fun session => (s.newId session.ids, { session with ids := session.ids + 1 })
  save := fun run session => { session with saved := run :: session.saved }

/-- Drives an engine to the end, along one branch or all. -/
def driveEngine (runner : Runner Session) (allBranches : Bool) (folder : String) (e : Engine) :
    Outcome :=
  let (result, session) :=
    if allBranches then runner.runAllBranches e ⟨1, []⟩
    else
      let (run, session) := runner.run e ⟨1, []⟩
      (.ok [run], session)
  { printed := ""
    files := session.saved.reverse.map (recordFile folder)
    unwritten := id
    conclusion :=
      match result with
      | .ok runs => .ok (runsText runs)
      | .error e => .error (WorkflowError.run e).message }

/-- Runs a graph. -/
def runGraph (s : Surroundings) (settings : Settings) (catalog : Catalog) (strict : Bool)
    (options : RunOptions) (graph : Graph) : Outcome :=
  let outcome :=
    Outcome.withValue (makeReasoner s settings options.isOffline) fun reasoner =>
      Outcome.withValue (makeEngine s graph catalog.schema? options.resume) fun e =>
        driveEngine (makeRunner s catalog reasoner) options.allBranches
          (options.folder.getD settings.runFolder) e
  if strict then checked (graph.validate catalog.schema?) strict outcome else outcome

/-- Carries out a task with its settings. -/
def performWith (s : Surroundings) (settings : Settings) (order : Order) : Outcome :=
  let strict := order.isStrict || settings.isStrict
  let tools := s.loadTools settings order
  match order.task with
  | .validate file asFragment =>
      Outcome.withValue tools fun catalog => validateFile s catalog strict file asFragment
  | .merge plan output asJson =>
      Outcome.withValue tools fun catalog =>
        Outcome.withValue (s.loadDocument "plan" plan loadPlan) fun plan =>
          mergePlan catalog.schema? strict plan output asJson
  | .run options =>
      Outcome.withValue tools fun catalog =>
        Outcome.withValue (s.loadDocument "graph" options.graph loadGraph) fun graph =>
          runGraph s settings catalog strict options graph
  | .schema kind => .ofText (kind.schema.pretty ++ "\n")

/-- The files that an order reads, with these variables. -/
def namedFiles (environment : String → Option String) (order : Order) : List String :=
  order.catalog.toList ++ (environment "WEFT_TOOL_CATALOG").toList
    ++ match order.task with
      | .validate file _ => [file]
      | .merge plan _ _ => [plan]
      | .run options => options.graph :: options.resume.toList
      | .schema _ => []

/-- Carries out a task. -/
def perform (s : Surroundings) (order : Order) : Outcome :=
  Outcome.withValue
    ((Settings.read s.environment).mapError fun e => (WorkflowError.ofSettings e).message)
    fun settings => performWith s settings order

end Workflow.Command
