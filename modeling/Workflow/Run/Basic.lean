import Workflow.Reference.Resolve
import Workflow.Report
import Workflow.State
import Workflow.Tool

/-!
# Runs

A run follows one path of a graph. It stops wherever something from outside is needed, the result of
a tool or the choice of a branch, and all that it needs to go on later is in its record: where it
stands, what the completed steps have recorded, and in which order they were completed.
-/

namespace Workflow

/-! ## Errors -/

/-- Why an operation on a run failed. -/
inductive RunError where
  /-- The graph was refused before the run started. -/
  | rejected (report : Report)
  /-- A placeholder has no value. -/
  | invalidReference (step referenced field : String)
  /-- No transition of the step has the label. -/
  | noMatchingBranch (step label : String)
  | toolFailed (step tool message : String)
  /-- The result of a tool lacks fields that the tool declares. -/
  | incompleteToolResult (step : String) (missing : List String)
  | reasonerFailed (step message : String)
  | selectorFailed (step message : String)
  /-- The operation is not possible in the status that the run has. -/
  | invalidTransition (status operation : String)
  | stepNotFound (step : String)
deriving DecidableEq, Repr

namespace RunError

/-- The message for a failed operation. -/
def message : RunError → String
  | rejected report => "Graph rejected: " ++ report.text
  | invalidReference step referenced field =>
      "Step '" ++ step ++ "' references '" ++ referenced ++ "." ++ field
        ++ "', which is not available"
  | noMatchingBranch step label =>
      "Step '" ++ step ++ "' has no transition labelled '" ++ label ++ "'"
  | toolFailed step tool message =>
      "Tool '" ++ tool ++ "' failed at step '" ++ step ++ "': " ++ message
  | incompleteToolResult step missing =>
      "Tool result for step '" ++ step ++ "' is missing fields: " ++ Text.quotedList missing
  | reasonerFailed step message => "Reasoning failed at step '" ++ step ++ "': " ++ message
  | selectorFailed step message => "Branch selection failed at step '" ++ step ++ "': " ++ message
  | invalidTransition status operation => "Run is " ++ status ++ "; cannot " ++ operation
  | stepNotFound step => "Step not found: " ++ step

/-- The word for the kind of failure. -/
def kind : RunError → String
  | rejected _ => "rejected"
  | invalidReference .. => "invalid_reference"
  | noMatchingBranch .. => "no_matching_branch"
  | toolFailed .. => "tool_failed"
  | incompleteToolResult .. => "incomplete_tool_result"
  | reasonerFailed .. => "reasoner_failed"
  | selectorFailed .. => "selector_failed"
  | invalidTransition .. => "invalid_transition"
  | stepNotFound _ => "step_not_found"

/-- The step at which the operation failed. -/
def step? : RunError → Option String
  | rejected _ | invalidTransition .. => none
  | invalidReference step .. | noMatchingBranch step _ | toolFailed step .. => some step
  | incompleteToolResult step _ | reasonerFailed step _ | selectorFailed step _ => some step
  | stepNotFound step => some step

/-- The failure of a run at a placeholder without value. An artifact has no field. -/
def ofResolve : ResolveError → RunError
  | .invalidReference step referenced field => .invalidReference step referenced field
  | .danglingArtifact step artifact => .invalidReference step artifact ""
  | .unresolvedArtifact artifact fragment => .invalidReference fragment artifact ""

end RunError

/-! ## Records -/

/-- Where a failed run stopped and why. -/
structure Failure where
  step : Option String
  kind : String
  message : String
deriving DecidableEq, Repr

/-- The failure that an error is recorded as. -/
def Failure.ofError (error : RunError) : Failure := ⟨error.step?, error.kind, error.message⟩

/-- How far a run has come. -/
inductive RunStatus where
  | pending
  | running
  | awaitingTool (invocation : Invocation)
  /-- One of the labels has to be chosen to leave the step. -/
  | awaitingBranch (step : String) (labels : List String)
  | completed
  | failed (failure : Failure)
  | aborted
deriving DecidableEq

namespace RunStatus

/-- The word for a status. -/
def name : RunStatus → String
  | pending => "pending"
  | running => "running"
  | awaitingTool _ => "awaiting_tool"
  | awaitingBranch .. => "awaiting_branch"
  | completed => "completed"
  | failed _ => "failed"
  | aborted => "aborted"

/-- Whether the run has ended. -/
def isTerminal : RunStatus → Bool
  | completed | failed _ | aborted => true
  | _ => false

end RunStatus

/-- Where a run stands in its graph. -/
inductive Cursor where
  /-- The step is executed next. -/
  | enter (step : String)
  /-- The step is completed, and its outgoing transition is taken next. -/
  | leave (step : String)
  /-- The run has ended. -/
  | idle
deriving DecidableEq, Repr

/-- The step at which a cursor stands. -/
def Cursor.step? : Cursor → Option String
  | enter step | leave step => some step
  | idle => none

/-- The record of a run. -/
structure Run where
  id : String
  startedAt : String
  /-- The run that this one was forked from. -/
  parent : Option String
  status : RunStatus
  state : State
  cursor : Cursor
  /-- The completed steps in order. -/
  trail : List String
  /-- The completed paths, each up to a final step. -/
  finished : List (List String)
deriving DecidableEq

namespace Run

/-- A run at the entry of a graph. -/
def start (id startedAt entry : String) : Run :=
  { id
    startedAt
    parent := none
    status := .pending
    state := .empty
    cursor := .enter entry
    trail := []
    finished := [] }

/-- The name of the file in which the run is saved. -/
def fileName (run : Run) : String := "execution_" ++ run.id ++ ".json"

/-- Ends the run with a failure. -/
def fail (run : Run) (error : RunError) : Run :=
  { run with status := .failed (.ofError error), cursor := .idle }

/-- Records the output of a step, after which the step is left. -/
def complete (run : Run) (step : String) (outputs : Fields) : Run :=
  { run with
    state := run.state.commit step outputs
    trail := run.trail ++ [step]
    cursor := .leave step }

/-- Ends the run at a final step. -/
def finish (run : Run) (step : String) : Run :=
  { run with
    trail := run.trail ++ [step]
    finished := run.finished ++ [run.trail ++ [step]]
    cursor := .idle
    status := .completed }

/-- Takes a transition. -/
def goTo (run : Run) (target : String) : Run :=
  { run with cursor := .enter target, status := .running }

/-- The refusal of an operation in the status of the run. -/
def refusal (run : Run) (operation : String) : RunError :=
  .invalidTransition run.status.name operation

end Run

end Workflow
