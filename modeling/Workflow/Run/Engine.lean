import Workflow.Run.Basic
import Workflow.Run.Selection
import Workflow.Validation.Graph

/-!
# Engines

An engine moves a run through a graph. It accepts only graphs without critical findings, so that
being accepted is part of what an engine is. While it advances it asks the reasoner and the selector
by itself; it stops for a tool, and at a branch if it has no selector, until the result or the
choice is handed in.

A failure of the reasoner, of a tool or of a choice ends the run and is recorded in it. A refused
operation leaves the run as it is.
-/

namespace Workflow

variable {World : Type}

/-- What an engine can ask while it advances. Without a reasoner reasoning steps fail, without a
selector branches are left to the caller. -/
structure Collaborators (World : Type) where
  reasoner : Option (Reasoner World)
  selector : Option (Selector World)

/-- A run of an accepted graph. -/
structure Engine where
  graph : Graph
  schemas : Schemas
  run : Run
  accepted : (graph.validate schemas).isAccepted = true

namespace Engine

/-! ## Making engines -/

/-- The engine with another record of its run. -/
def withRun (e : Engine) (run : Run) : Engine := { e with run }

/-- A new run of a graph. -/
def start (graph : Graph) (schemas : Schemas) (id startedAt : String) : Except RunError Engine :=
  if accepted : (graph.validate schemas).isAccepted = true then
    match graph.entry with
    | some entry => .ok { graph, schemas, run := .start id startedAt entry, accepted }
    | none => .error (.stepNotFound "<entry>")
  else .error (.rejected (graph.validate schemas))

/-- The step at which a run stands, if the graph lacks it. -/
def missingStep? (graph : Graph) (cursor : Cursor) : Option String :=
  cursor.step?.filter fun step => !graph.contains step

/-- An engine that goes on with a recorded run. -/
def restore (graph : Graph) (schemas : Schemas) (run : Run) : Except RunError Engine :=
  if accepted : (graph.validate schemas).isAccepted = true then
    match missingStep? graph run.cursor with
    | some step => .error (.stepNotFound step)
    | none => .ok { graph, schemas, run, accepted }
  else .error (.rejected (graph.validate schemas))

/-- The step with this id, which a restored run may name although the graph lacks it. -/
def step (e : Engine) (id : String) : Except RunError Step :=
  match e.graph.step? id with
  | some step => .ok step
  | none => .error (.stepNotFound id)

/-! ## Moves -/

/-- What becomes of a run by a move. -/
inductive Move where
  /-- The next move follows. -/
  | goesOn (run : Run)
  /-- The run is suspended or has ended. -/
  | stops (run : Run)
  | fails (run : Run) (error : RunError)

/-- A move that ends the run with a failure. -/
def Move.failed (run : Run) (error : RunError) : Move := .fails (run.fail error) error

/-- Reaches a tool step: the resolved call is handed out. -/
def enterTool (run : Run) (step tool : String) (parameters : Fields) : Move :=
  match resolveParameters step parameters run.state with
  | .ok resolved => .stops { run with status := .awaitingTool ⟨step, tool, resolved⟩ }
  | .error error => .failed run (.ofResolve error)

/-- Reaches a reasoning step: the answer to the resolved prompt is recorded. -/
def enterReasoning (reasoner : Option (Reasoner World)) (run : Run) (step prompt : String)
    (world : World) : Move × World :=
  match resolvePrompt step prompt run.state with
  | .error error => (.failed run (.ofResolve error), world)
  | .ok resolved =>
      match reasoner with
      | none => (.failed run (.reasonerFailed step "no reasoner configured"), world)
      | some ask =>
          match ask resolved world with
          | (.ok answer, world) =>
              (.goesOn (run.complete step (Dict.empty.insert "response" (.text answer))), world)
          | (.error message, world) => (.failed run (.reasonerFailed step message), world)

/-- Executes a step. -/
def enter (c : Collaborators World) (run : Run) (step : Step) (world : World) : Move × World :=
  match step.action with
  | .final => (.stops (run.finish step.id), world)
  | .tool name parameters => (enterTool run step.id name parameters, world)
  | .reasoning prompt => enterReasoning c.reasoner run step.id prompt world

/-- Takes the transition with a label. -/
def follow (run : Run) (step : Step) (label : String) : Except RunError Run :=
  match step.transitionFor? label with
  | some t => .ok (run.goTo t.target)
  | none => .error (.noMatchingBranch step.id label)

/-- The failure of a run for which no transition was chosen. -/
def selectionError (step : String) : SelectError → RunError
  | .noConditionHolds _ => .noMatchingBranch step ""
  | .failed message => .selectorFailed step message

/-- Leaves a step: by its only transition, or by the one that is chosen. -/
def leave (c : Collaborators World) (run : Run) (step : Step) (world : World) : Move × World :=
  match step.transitions with
  | [only] => (.goesOn { run with cursor := .enter only.target }, world)
  | _ =>
      match c.selector with
      | none => (.stops { run with status := .awaitingBranch step.id step.labels }, world)
      | some select =>
          match select step run.state world with
          | (.error error, world) => (.failed run (selectionError step.id error), world)
          | (.ok label, world) =>
              match follow run step label with
              | .ok run => (.goesOn run, world)
              | .error error => (.failed run error, world)

/-- One move of the run. -/
def move (c : Collaborators World) (e : Engine) (world : World) : Move × World :=
  match e.run.cursor with
  | .enter id =>
      match e.step id with
      | .ok step => enter c e.run step world
      | .error error => (.fails e.run error, world)
  | .leave id =>
      match e.step id with
      | .ok step => leave c e.run step world
      | .error error => (.fails e.run error, world)
  | .idle => (.fails e.run (e.run.refusal "advance"), world)

/-! ## Advancing -/

/-- What an operation that asks the world answers, with the engine and the world after it. -/
structure Outcome (World : Type) (α : Type) where
  result : Except RunError α
  engine : Engine
  world : World

/-- Moves until the run stops, at most `moves` times. -/
def moveOn (c : Collaborators World) (moves : Nat) (e : Engine) (world : World) :
    Outcome World RunStatus :=
  match moves with
  | 0 => ⟨.ok e.run.status, e, world⟩
  | moves + 1 =>
      match e.move c world with
      | (.goesOn run, world) => moveOn c moves (e.withRun run) world
      | (.stops run, world) => ⟨.ok run.status, e.withRun run, world⟩
      | (.fails run error, world) => ⟨.error error, e.withRun run, world⟩

/-- Each step of an accepted graph is entered and left at most once. -/
def maxMoves (e : Engine) : Nat := 2 * e.graph.steps.size + 1

/-- Moves a run until it is suspended or ends. -/
def advance (c : Collaborators World) (e : Engine) (world : World) : Outcome World RunStatus :=
  match e.run.status with
  | .pending | .running =>
      let e := e.withRun { e.run with status := .running }
      moveOn c e.maxMoves e world
  | _ => ⟨.error (e.run.refusal "advance"), e, world⟩

/-! ## Handing in results -/

/-- Ends the run with a failure. -/
def failWith {α : Type} (e : Engine) (error : RunError) : Except RunError α × Engine :=
  (.error error, e.withRun (e.run.fail error))

/-- Refuses an operation. -/
def refuse {α : Type} (e : Engine) (operation : String) : Except RunError α × Engine :=
  (.error (e.run.refusal operation), e)

/-- Records the result of the tool that the run waits for. A result without all declared outputs
ends the run. -/
def resume (e : Engine) (outputs : Fields) : Except RunError Unit × Engine :=
  match e.run.status with
  | .awaitingTool invocation =>
      match ((e.schemas invocation.tool).map (·.missingOutputs outputs)).getD [] with
      | [] =>
          (.ok (), e.withRun { e.run.complete invocation.step outputs with status := .running })
      | missing => e.failWith (.incompleteToolResult invocation.step missing)
  | _ => e.refuse "resume"

/-- Records that the tool failed for which the run waits, and gives the error recorded. -/
def failTool (e : Engine) (message : String) : Except RunError RunError × Engine :=
  match e.run.status with
  | .awaitingTool invocation =>
      let error := RunError.toolFailed invocation.step invocation.tool message
      (.ok error, e.withRun (e.run.fail error))
  | _ => e.refuse "fail a tool"

/-- Takes the transition with a label, for which the run waits. -/
def chooseBranch (e : Engine) (label : String) : Except RunError Unit × Engine :=
  match e.run.status with
  | .awaitingBranch id _ =>
      match e.step id with
      | .error error => (.error error, e)
      | .ok step =>
          match follow e.run step label with
          | .ok run => (.ok (), e.withRun run)
          | .error error => e.failWith error
  | _ => e.refuse "choose a branch"

/-- Ends the run and forgets what its steps recorded. -/
def abort (e : Engine) : Except RunError Unit × Engine :=
  if e.run.status.isTerminal then e.refuse "abort"
  else (.ok (), e.withRun { e.run with state := .empty, cursor := .idle, status := .aborted })

/-! ## Forking -/

/-- The run that is forked from another one along a transition. -/
def forkedRun (run : Run) (id target : String) : Run :=
  { run.goTo target with id, parent := some run.id }

/-- One engine for each target, with a new id each. -/
def forkAlong (newId : World → String × World) (e : Engine) :
    List String → World → List Engine × World
  | [], world => ([], world)
  | target :: rest, world =>
      let (id, world) := newId world
      let (others, world) := forkAlong newId e rest world
      (e.withRun (forkedRun e.run id target) :: others, world)

/-- Splits a run that waits for the choice of a branch: one run for each transition, all of which
go on from what is recorded so far. The run itself is left as it is. -/
def fork (newId : World → String × World) (e : Engine) (world : World) :
    Except RunError (List Engine) × World :=
  match e.run.status with
  | .awaitingBranch id _ =>
      match e.step id with
      | .ok step =>
          let (engines, world) := forkAlong newId e step.targets world
          (.ok engines, world)
      | .error error => (.error error, world)
  | _ => (.error (e.run.refusal "fork"), world)

/-! ## What stays -/

@[simp] theorem graph_withRun (e : Engine) (run : Run) : (e.withRun run).graph = e.graph := rfl

@[simp] theorem schemas_withRun (e : Engine) (run : Run) : (e.withRun run).schemas = e.schemas :=
  rfl

@[simp] theorem run_withRun (e : Engine) (run : Run) : (e.withRun run).run = run := rfl

@[simp] theorem withRun_withRun (e : Engine) (run run' : Run) :
    (e.withRun run).withRun run' = e.withRun run' := rfl

end Engine

end Workflow
