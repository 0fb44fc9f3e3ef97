import Workflow.Document.Reading
import Workflow.Graph.Order
import Workflow.Report
import Workflow.Text.Blank

/-!
# Graph documents

The form in which planners write graphs. Much may be left implicit: a number may be an id, a step
with one transition need not list it, parameters may be a list of entries, the entry is step `1` or
the first one listed, and where no step has a transition the steps follow each other as listed. A
graph that is written out again states all of this.
-/

namespace Workflow

open Source

/-- The kind of action that a step declares. -/
inductive ActionKind where
  | callTool
  | callLlm
deriving DecidableEq, Repr

/-- The word for a kind of action in documents. -/
def ActionKind.word : ActionKind → String
  | .callTool => "call_tool"
  | .callLlm => "call_llm"

/-- The name of a kind of action in messages. -/
def ActionKind.name : ActionKind → String
  | .callTool => "CallTool"
  | .callLlm => "CallLlm"

/-- Parameters as written. -/
inductive ParametersDocument where
  | map (fields : Fields)
  | list (entries : List (String × Json))
deriving DecidableEq

/-- A transition as written. -/
structure TransitionDocument where
  condition : String
  nextStep : String
deriving DecidableEq, Repr

/-- A step as written. -/
structure StepDocument where
  id : String
  action : Option ActionKind
  toolName : Option String
  parameters : ParametersDocument
  prompt : Option String
  thoughts : Option String
  transition : Option TransitionDocument
  transitions : List TransitionDocument
  isFinal : Bool
deriving DecidableEq

/-- A graph as written. -/
structure GraphDocument where
  title : Option String
  description : Option String
  objective : Option String
  /-- What is known of the origin of the graph: the request that the planner answered. -/
  metadata : Option (Option String)
  entry : Option String
  steps : List StepDocument
deriving DecidableEq

/-! ## Reading -/

/-- Reads the id of a step: a text, or a number without sign, which stands for its digits. -/
def readStepId (source : Source) : Reading String := do
  match ← value? source with
  | .text id => return id
  | value => return toString (← (value.nat? : Reading Nat))

/-- Reads a parameter entry. -/
def readParameterEntry (source : Source) : Reading (String × Json) := do
  let fields ← record? ["key", "value"] source
  let key ← fields.required "key" text?
  let value ← fields.required "value" value?
  return (key, value)

/-- Reads parameters: a map, or a list of entries. -/
def readParameters (source : Source) : Reading ParametersDocument := do
  match ← source.setAside? with
  | .map standing entries => return .map (← dict? value? (.map standing entries))
  | .list standing items => return .list (← list? readParameterEntry (.list standing items))
  | _ => failure

/-- Reads a transition. -/
def readTransition (source : Source) : Reading TransitionDocument := do
  let fields ← record? ["condition", "next_step"] source
  let condition ← fields.required "condition" text?
  let nextStep ← fields.required "next_step" readStepId
  return { condition, nextStep }

/-- The fields of a step. -/
def stepFields : List String :=
  ["id", "action", "tool_name", "parameters", "prompt", "thoughts", "transition", "transitions",
    "is_final"]

/-- Reads a step. -/
def readStep (source : Source) : Reading StepDocument := do
  let fields ← record? stepFields source
  let id ← fields.required "id" readStepId
  let action ←
    fields.optional "action" (word? [("call_tool", ActionKind.callTool), ("call_llm", .callLlm)])
  let toolName ← fields.optional "tool_name" text?
  let parameters ← fields.default "parameters" (.map .empty) readParameters
  let prompt ← fields.optional "prompt" text?
  let thoughts ← fields.optional "thoughts" text?
  let transition ← fields.optional "transition" readTransition
  let transitions ← fields.default "transitions" [] (list? readTransition)
  let isFinal ← fields.default "is_final" false bool?
  return { id, action, toolName, parameters, prompt, thoughts, transition, transitions, isFinal }

/-- Reads what is known of the origin of a graph. -/
def readMetadata (source : Source) : Reading (Option String) := do
  let fields ← record? ["original_prompt"] source
  fields.optional "original_prompt" text?

/-- The fields of a graph. -/
def graphFields : List String :=
  ["title", "description", "target_objective", "metadata", "entry", "steps"]

/-- Reads a graph. -/
def readGraph (source : Source) : Reading GraphDocument := do
  let fields ← record? graphFields source
  let title ← fields.optional "title" text?
  let description ← fields.optional "description" text?
  let objective ← fields.optional "target_objective" text?
  let metadata ← fields.optional "metadata" readMetadata
  let entry ← fields.optional "entry" readStepId
  let steps ← fields.required "steps" (list? readStep)
  return { title, description, objective, metadata, entry, steps }

/-! ## What is wrong with a document -/

namespace Violation

/-- A graph lists no steps. -/
def noSteps : Violation := ⟨.schemaViolation, [], "graph has no steps"⟩

/-- An id is used for a second step. -/
def repeatedId (id : String) : Violation :=
  ⟨.duplicateStepId, [id], "step id '" ++ id ++ "' is used more than once"⟩

/-- The entry is not among the steps. -/
def unknownEntry (entry : String) : Violation :=
  ⟨.schemaViolation, [entry], "entry '" ++ entry ++ "' is not a step of the graph"⟩

/-- A final step declares an action. -/
def finalActs (id : String) (kind : ActionKind) : Violation :=
  ⟨.schemaViolation, [id], "final step '" ++ id ++ "' also declares action " ++ kind.name⟩

/-- A step that is not final declares no action. -/
def noAction (id : String) : Violation :=
  ⟨.schemaViolation, [id], "step '" ++ id ++ "' has no action and is not final"⟩

/-- A tool step does not name its tool. -/
def noToolName (id : String) : Violation :=
  ⟨.schemaViolation, [id], "call_tool step '" ++ id ++ "' has no tool_name"⟩

/-- A reasoning step has no prompt. -/
def noPrompt (id : String) : Violation :=
  ⟨.schemaViolation, [id], "call_llm step '" ++ id ++ "' has no prompt"⟩

/-- A parameter is listed twice. -/
def repeatedParameter (id key : String) : Violation :=
  ⟨.schemaViolation, [id], "step '" ++ id ++ "' sets parameter '" ++ key ++ "' twice"⟩

end Violation

/-! ## From documents to graphs -/

/-- The keys that a list of entries repeats, once for each repetition; `seen` are the
keys before. -/
def repeatedKeys (seen : List String) : List (String × Json) → List String
  | [] => []
  | (key, _) :: rest =>
      (if key ∈ seen then [key] else []) ++ repeatedKeys (key :: seen) rest

/-- The parameters of a step, or the findings on keys that are listed twice. -/
def ParametersDocument.toFields (id : String) : ParametersDocument → Except (List Violation) Fields
  | .map fields => .ok fields
  | .list entries =>
      match repeatedKeys [] entries with
      | [] => .ok (Dict.ofList entries)
      | keys => .error (keys.map (.repeatedParameter id))

namespace StepDocument

/-- Whether the document states a transition. -/
def hasTransitions (doc : StepDocument) : Bool := doc.transition.isSome || !doc.transitions.isEmpty

/-- The transitions of the step. -/
def allTransitions (doc : StepDocument) : List Transition :=
  (doc.transition.toList ++ doc.transitions).map fun t => ⟨t.condition, t.nextStep⟩

/-- The action of the step, or what is wrong with it. -/
def toAction (doc : StepDocument) : Except (List Violation) Action :=
  match doc.isFinal, doc.action with
  | true, some kind => .error [.finalActs doc.id kind]
  | true, none => .ok .final
  | false, none => .error [.noAction doc.id]
  | false, some .callTool =>
      match doc.toolName.filter fun name => !Text.isBlankText name with
      | none => .error [.noToolName doc.id]
      | some name => (doc.parameters.toFields doc.id).map (.tool name)
  | false, some .callLlm =>
      match doc.prompt with
      | none => .error [.noPrompt doc.id]
      | some prompt => .ok (.reasoning prompt)

/-- The step, or what is wrong with it. -/
def toStep (doc : StepDocument) : Except (List Violation) Step :=
  doc.toAction.map fun action => ⟨doc.id, action, doc.allTransitions, doc.thoughts⟩

end StepDocument

/-- The steps in which each that is not final leads to the one listed after it. -/
def chainSteps : List StepDocument → List StepDocument
  | doc :: next :: rest =>
      (if doc.isFinal then doc else { doc with transition := some ⟨"always", next.id⟩ })
        :: chainSteps (next :: rest)
  | docs => docs

/-- A graph in the making, and what was found wrong so far. -/
structure GraphDraft where
  graph : Graph
  /-- The ids that have occurred. -/
  seen : List String
  findings : List Violation

/-- Adds the step of a document. Only the first step of an id counts, whatever is wrong with it. -/
def GraphDraft.add (draft : GraphDraft) (doc : StepDocument) : GraphDraft :=
  if doc.id ∈ draft.seen then { draft with findings := draft.findings ++ [.repeatedId doc.id] }
  else
    match doc.toStep with
    | .error findings =>
        { draft with seen := doc.id :: draft.seen, findings := draft.findings ++ findings }
    | .ok step =>
        { draft with
          seen := doc.id :: draft.seen
          graph := (draft.graph.addStep step).toOption.getD draft.graph }

namespace GraphDocument

/-- The information on the graph as a whole. -/
def info (doc : GraphDocument) : GraphInfo :=
  ⟨doc.title, doc.description, doc.objective, doc.metadata.join⟩

/-- Whether the steps follow each other as listed. -/
def isLinear (doc : GraphDocument) : Bool :=
  1 < doc.steps.length && !doc.steps.any StepDocument.hasTransitions

/-- The steps with the transitions that follow from their order. -/
def linkedSteps (doc : GraphDocument) : List StepDocument :=
  if doc.isLinear then chainSteps doc.steps else doc.steps

/-- The entry: the one stated, or step `1`, or the first one listed. In a list of steps that follow
each other it is the first one, whatever the ids. -/
def entryId? (doc : GraphDocument) : Option String :=
  match doc.entry with
  | some id => some id
  | none =>
      let ids := doc.steps.map (·.id)
      if doc.isLinear then ids.head? else if "1" ∈ ids then some "1" else ids.head?

/-- The graph of a document, or all that is wrong with it. -/
def toGraph (doc : GraphDocument) : Except Report Graph :=
  if doc.steps.isEmpty then .error ⟨[.noSteps]⟩
  else
    let start : GraphDraft := ⟨Graph.empty.withInfo doc.info, [], []⟩
    let draft := doc.linkedSteps.foldl GraphDraft.add start
    let entry := doc.entryId?
    let entryFindings :=
      match entry with
      | some id => if id ∈ draft.seen then [] else [Violation.unknownEntry id]
      | none => []
    match draft.findings ++ entryFindings with
    | [] => .ok ((entry.bind fun id => (draft.graph.setEntry id).toOption).getD draft.graph)
    | findings => .error ⟨findings⟩

end GraphDocument

/-! ## From graphs to documents -/

/-- The document of a step. -/
def StepDocument.ofStep (step : Step) : StepDocument :=
  let bare : StepDocument :=
    { id := step.id
      action := none
      toolName := none
      parameters := .map .empty
      prompt := none
      thoughts := step.thoughts
      transition := none
      transitions := step.transitions.map fun t => ⟨t.label, t.target⟩
      isFinal := false }
  match step.action with
  | .tool name parameters =>
      { bare with action := some .callTool, toolName := some name, parameters := .map parameters }
  | .reasoning prompt => { bare with action := some .callLlm, prompt := some prompt }
  | .final => { bare with isFinal := true }

/-- The document of a graph. The steps are in topological order, or in the order of their ids if
there is a cycle. -/
def GraphDocument.ofGraph (g : Graph) : GraphDocument where
  title := g.info.title
  description := g.info.description
  objective := g.info.objective
  metadata := g.info.request.map some
  entry := g.entry
  steps :=
    (match g.topologicalSteps with
      | .ok steps => steps
      | .error _ => g.stepList).map .ofStep

/-! ## Writing -/

/-- A field with a text, left out if there is none. -/
def textField? (name : String) (value : Option String) : Option (String × Json) :=
  Json.field? name (value.map .text)

/-- A field with a list, left out if it is empty. -/
def listField? (name : String) (items : List Json) : Option (String × Json) :=
  if items.isEmpty then none else some (name, .array items)

/-- The parameters as written; empty ones are left out. -/
def ParametersDocument.toJson? : ParametersDocument → Option Json
  | .map fields => if fields.isEmpty then none else some (.ofFields fields)
  | .list [] => none
  | .list entries =>
      some (.array (entries.map fun (key, value) => .object [("key", .text key), ("value", value)]))

/-- The transition as written. -/
def TransitionDocument.toJson (doc : TransitionDocument) : Json :=
  .object [("condition", .text doc.condition), ("next_step", .text doc.nextStep)]

/-- The step as written; what is empty is left out. -/
def StepDocument.toJson (doc : StepDocument) : Json :=
  .record
    [Json.field "id" (.text doc.id), textField? "action" (doc.action.map (·.word)),
      textField? "tool_name" doc.toolName, Json.field? "parameters" doc.parameters.toJson?,
      textField? "prompt" doc.prompt, textField? "thoughts" doc.thoughts,
      Json.field? "transition" (doc.transition.map (·.toJson)),
      listField? "transitions" (doc.transitions.map (·.toJson)),
      if doc.isFinal then Json.field "is_final" (.bool true) else none]

/-- The fields of the graph as written; what is empty is left out. -/
def GraphDocument.toFields (doc : GraphDocument) : List (Option (String × Json)) :=
  [textField? "title" doc.title, textField? "description" doc.description,
    textField? "target_objective" doc.objective,
    Json.field? "metadata" (doc.metadata.map fun request =>
      .record [textField? "original_prompt" request]),
    textField? "entry" doc.entry, Json.field "steps" (.array (doc.steps.map (·.toJson)))]

/-- The graph as written. -/
def GraphDocument.toJson (doc : GraphDocument) : Json := .record doc.toFields

end Workflow
