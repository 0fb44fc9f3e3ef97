import Workflow.Graph.Order
import Workflow.Text.Blank
import Workflow.Tool
import Workflow.Validation.Finding

/-!
# Validation of graphs

A graph is checked step by step and as a whole, and every defect that can be seen is reported. A
graph without critical findings is a tree of steps below its entry, in which each reference is to a
step that every run has completed when the reference is read.

Of a graph that is not complete, a fragment, the checks are the same but for the artifacts that it
declares to read.
-/

namespace Workflow

open Violation (Origin)

/-! ## Steps -/

/-- The mismatch between the kind of a step and its transitions. -/
def Step.terminalFindings (step : Step) : List Violation :=
  match step.isFinal, step.transitions.isEmpty with
  | true, false => [.finalContinues step.id]
  | false, true => [.neverTerminates step.id]
  | _, _ => []

/-- The missing targets and repeated labels among transitions; `seen` are the labels before them. -/
def Graph.transitionFindings (g : Graph) (id : String) (seen : List String) :
    List Transition → List Violation
  | [] => []
  | t :: rest =>
      (if g.contains t.target then [] else [.dangling id t.target])
        ++ (if t.label ∈ seen then [.repeatedLabel id t.label] else [])
        ++ g.transitionFindings id (t.label :: seen) rest

/-- The defects of the action of a step. -/
def Step.actionFindings (schemas : Schemas) (step : Step) : List Violation :=
  match step.action with
  | .tool name parameters =>
      match schemas name with
      | none => [.unknownTool step.id name]
      | some schema =>
          (schema.inputs.filter fun i => i.required && !parameters.contains i.name).map
              (fun i => .missingInput step.id i.name name)
            ++ (parameters.keys.filter fun key => !schema.declaresInput key).map
              (fun key => .unexpectedParameter step.id key name)
  | .reasoning prompt => if Text.isBlankText prompt then [.emptyPrompt step.id] else []
  | .final => []

/-- The defects of a step that can be seen without its surroundings. -/
def Graph.stepFindings (schemas : Schemas) (g : Graph) (step : Step) : List Violation :=
  step.terminalFindings ++ g.transitionFindings step.id [] step.transitions
    ++ step.actionFindings schemas

/-! ## Branches -/

/-- The pairs of branches that meet, for the branches of the step `id` with what each reaches. -/
def branchFindings (id : String) : List (String × List String) → List Violation
  | [] => []
  | (labelA, reachA) :: rest =>
      rest.filterMap (fun (labelB, reachB) =>
          let shared := reachA.filter (· ∈ reachB)
          if shared.isEmpty then none else some (.branchesMeet id labelA labelB shared))
        ++ branchFindings id rest

/-- The branches of a step that lead to existing steps, each with what it reaches. -/
def Graph.branches (g : Graph) (step : Step) : List (String × List String) :=
  (step.transitions.filter fun t => g.contains t.target).map fun t =>
    (t.label, g.reachable t.target)

/-- The pairs of branches of any step that meet. -/
def Graph.isolationFindings (g : Graph) : List Violation :=
  (g.stepList.filter Step.isBranchPoint).flatMap fun step =>
    branchFindings step.id (g.branches step)

/-! ## References -/

/-- Whether a step records the field when it completes. Of a tool that is not declared every field
is accepted, because the tool itself is reported. -/
def Step.produces (schemas : Schemas) (step : Step) (field : String) : Bool :=
  match step.action with
  | .reasoning _ => field = "response"
  | .tool name _ =>
      match schemas name with
      | some schema => schema.declaresOutput field
      | none => true
  | .final => false

/-- Whether some path from the entry to a step avoids another step. -/
def Graph.bypasses (g : Graph) (entry source step : String) : Bool :=
  source ≠ entry && (g.reachable entry).contains step
    && (g.reachableAvoiding entry (some source)).contains step

/-- The defect of a reference to an output. -/
def Graph.outputFinding (schemas : Schemas) (g : Graph) (entry : String) (step : Step)
    (origin : Origin) (source field : String) : Option Violation :=
  match g.step? source with
  | none => some (.unknownSource step.id source field origin)
  | some producer =>
      if source = step.id ∧ origin = .action then some (.ownOutput step.id field)
      else if source ≠ step.id ∧ g.bypasses entry source step.id then
        some (.notAlwaysBefore step.id source field origin)
      else if producer.produces schemas field then none
      else some (.unknownField step.id source field origin)

/-- The defect of a reference, where `allowed` says which artifacts may occur. -/
def Graph.referenceFinding (schemas : Schemas) (allowed : String → Bool) (g : Graph)
    (entry : String) (step : Step) (origin : Origin) : Reference → Option Violation
  | .output source field => g.outputFinding schemas entry step origin source field
  | .artifact name =>
      if allowed name then none else some (.undeclaredArtifact step.id name origin)

/-- The references to check in a step: each once, and those of its labels only if they do not occur
in its action. -/
def Step.checkedReferences (step : Step) : List (Origin × Reference) :=
  step.actionReferences.eraseDups.map (Origin.action, ·)
    ++ (step.labelReferences.filter (· ∉ step.actionReferences)).map (Origin.label, ·)

/-- The defects of the references of all steps. -/
def Graph.referenceFindings (schemas : Schemas) (allowed : String → Bool) (g : Graph)
    (entry : String) : List Violation :=
  g.stepList.flatMap fun step =>
    step.checkedReferences.filterMap fun (origin, reference) =>
      g.referenceFinding schemas allowed entry step origin reference

/-! ## The graph as a whole -/

/-- The steps that cannot be reached from the entry. -/
def Graph.unreachableFindings (g : Graph) (entry : String) : List Violation :=
  let reached := g.reachable entry
  (g.ids.filter (· ∉ reached)).map (.unreachable · entry)

/-- The cycle of the graph, if there is one. -/
def Graph.cycleFindings (g : Graph) : List Violation :=
  match g.topologicalIds with
  | .error (.cycle ids) => [.cycle ids]
  | _ => []

/-- The lack of a final step that can be reached from the entry. -/
def Graph.finalFindings (g : Graph) (entry : String) : List Violation :=
  if ((g.reachable entry).filterMap g.step?).any Step.isFinal then [] else [.noFinalStep entry]

/-- All defects of a graph, where `allowed` says which artifacts may occur. -/
def Graph.findings (schemas : Schemas) (allowed : String → Bool) (g : Graph) : List Violation :=
  g.stepList.flatMap (g.stepFindings schemas)
    ++ match g.entry.filter g.contains with
      | none => [.noEntry]
      | some entry =>
          g.unreachableFindings entry ++ g.cycleFindings ++ g.isolationFindings
            ++ g.referenceFindings schemas allowed entry ++ g.finalFindings entry

/-- The report on a complete graph: no artifact may occur in it. -/
def Graph.validate (schemas : Schemas) (g : Graph) : Report :=
  ⟨g.findings schemas fun _ => false⟩

end Workflow
