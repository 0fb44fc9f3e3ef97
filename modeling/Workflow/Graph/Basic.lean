import Workflow.Json.Basic
import Workflow.Text.Quoted

/-!
# Workflow graphs

A graph is a set of steps with different names, connected by labelled transitions, and an entry. A
step calls a tool, asks a reasoner, or ends the workflow. Nothing here makes a graph sound: targets
may be missing and steps unreachable, and telling so is the task of validation.
-/

namespace Workflow

/-- What a step does when it is reached. -/
inductive Action where
  /-- Calls a tool with literal parameters, placeholders in them. -/
  | tool (name : String) (parameters : Fields)
  /-- Asks the reasoner; the answer is recorded as the field `response`. -/
  | reasoning (prompt : String)
  /-- Ends the run. -/
  | final
deriving DecidableEq

/-- The word for an action in listings. -/
def Action.kind : Action → String
  | .tool .. => "call_tool"
  | .reasoning _ => "call_llm"
  | .final => "final"

/-- A labelled way to another step. -/
structure Transition where
  label : String
  target : String
deriving DecidableEq, Repr

/-- A step of a graph. -/
structure Step where
  id : String
  action : Action
  transitions : List Transition
  /-- The planner's note on the step. It is carried along and never interpreted. -/
  thoughts : Option String
deriving DecidableEq

namespace Step

/-- Whether the step ends the run. -/
def isFinal (step : Step) : Bool :=
  match step.action with
  | .final => true
  | _ => false

/-- Whether a choice between transitions has to be made on leaving the step. -/
def isBranchPoint (step : Step) : Bool := 2 ≤ step.transitions.length

/-- The tool that the step calls. -/
def tool? (step : Step) : Option String :=
  match step.action with
  | .tool name _ => some name
  | _ => none

/-- The targets of the transitions in order. -/
def targets (step : Step) : List String := step.transitions.map (·.target)

/-- The labels of the transitions in order. -/
def labels (step : Step) : List String := step.transitions.map (·.label)

/-- The first transition with this label. -/
def transitionFor? (step : Step) (label : String) : Option Transition :=
  step.transitions.find? (·.label = label)

/-- The step with its transitions to `old` led to `new`. -/
def retarget (old new : String) (step : Step) : Step :=
  { step with
    transitions := step.transitions.map fun t =>
      if t.target = old then { t with target := new } else t }

end Step

/-- What a planner says about a graph as a whole. -/
structure GraphInfo where
  title : Option String
  description : Option String
  objective : Option String
  /-- The request that the planner answered. -/
  request : Option String
deriving DecidableEq, Repr

namespace GraphInfo

/-- No information. -/
def empty : GraphInfo := ⟨none, none, none, none⟩

/-- Fills what is missing from `other`. Different descriptions are put on lines of their own. -/
def absorb (info other : GraphInfo) : GraphInfo where
  title := info.title <|> other.title
  description :=
    match info.description, other.description with
    | some mine, some theirs => if mine = theirs then some mine else some (mine ++ "\n" ++ theirs)
    | some mine, none => some mine
    | none, theirs => theirs
  objective := info.objective <|> other.objective
  request := info.request <|> other.request

end GraphInfo

/-- What an operation on a graph may fail with. -/
inductive GraphError where
  | duplicateStep (id : String)
  | stepNotFound (id : String)
  | cycle (ids : List String)
  | noEntry
deriving DecidableEq, Repr

/-- The message for a failed operation on a graph. -/
def GraphError.message : GraphError → String
  | .duplicateStep id => "Duplicate step id: " ++ id
  | .stepNotFound id => "Step not found: " ++ id
  | .cycle ids => "Cycle detected through steps: " ++ Text.quotedList ids
  | .noEntry => "Graph has no entry step"

/-- Steps by id, and the step where a run starts. -/
structure Graph where
  steps : Dict Step
  entry : Option String
  info : GraphInfo
  /-- A step is filed under its id. -/
  keyed : ∀ p ∈ steps.entries, p.2.id = p.1
deriving DecidableEq

namespace Graph

/-- The graph without steps. -/
def empty : Graph := ⟨.empty, none, .empty, by simp [Dict.empty]⟩

/-- The ids of the steps, in ascending order. -/
def ids (g : Graph) : List String := g.steps.keys

/-- The steps, in ascending order of their ids. -/
def stepList (g : Graph) : List Step := g.steps.values

/-- The step with this id. -/
def step? (g : Graph) (id : String) : Option Step := g.steps.get? id

/-- Whether there is a step with this id. -/
def contains (g : Graph) (id : String) : Bool := g.steps.contains id

/-- The step with this id, or the failure to find it. -/
def getStep (g : Graph) (id : String) : Except GraphError Step :=
  match g.step? id with
  | some step => .ok step
  | none => .error (.stepNotFound id)

/-- The entry step, or the failure to find it. -/
def entryStep (g : Graph) : Except GraphError Step :=
  match g.entry with
  | some id => g.getStep id
  | none => .error .noEntry

/-- Adds a step with a new id. -/
def addStep (g : Graph) (step : Step) : Except GraphError Graph :=
  if g.contains step.id then .error (.duplicateStep step.id)
  else
    .ok
      { g with
        steps := g.steps.insert step.id step
        keyed := fun p hp => by
          rcases Dict.mem_of_mem_insert hp with rfl | hp
          · rfl
          · exact g.keyed p hp }

/-- Makes an existing step the entry. -/
def setEntry (g : Graph) (id : String) : Except GraphError Graph :=
  if g.contains id then .ok { g with entry := some id } else .error (.stepNotFound id)

/-- The graph with other information. -/
def withInfo (g : Graph) (info : GraphInfo) : Graph := { g with info := info }

/-- The final steps, in ascending order of their ids. -/
def finals (g : Graph) : List Step := g.stepList.filter Step.isFinal

/-- The ids of the steps with a transition to `id`. -/
def predecessors (g : Graph) (id : String) : List String :=
  (g.stepList.filter fun step => id ∈ step.targets).map (·.id)

/-- The targets of a step; there are none if the step does not exist. -/
def successors (g : Graph) (id : String) : List String := ((g.step? id).map Step.targets).getD []

/-- Leads every transition to `old`, and the entry if it is `old`, to `new`. -/
def retarget (g : Graph) (old new : String) : Graph :=
  { g with
    steps := g.steps.map (Step.retarget old new)
    entry := if g.entry = some old then some new else g.entry
    keyed := fun p hp => by
      obtain ⟨step, hs, he⟩ := Dict.mem_of_mem_map hp
      rw [he]
      exact g.keyed _ hs }

/-- The graph without the step `id`; transitions to it are kept. -/
def removeStep (g : Graph) (id : String) : Graph :=
  { g with
    steps := g.steps.erase id
    keyed := fun p hp => g.keyed p (Dict.mem_of_mem_erase hp) }

theorem id_of_step? {g : Graph} {id : String} {step : Step} (h : g.step? id = some step) :
    step.id = id :=
  g.keyed _ ((Dict.get?_eq_some_iff _ _ _).1 h)

theorem step?_addStep {g g' : Graph} {step : Step} (h : g.addStep step = .ok g') (id : String) :
    g'.step? id = if id = step.id then some step else g.step? id := by
  unfold addStep at h
  split at h
  · cases h
  · cases h
    exact Dict.get?_insert _ _ _ _

end Graph

end Workflow
