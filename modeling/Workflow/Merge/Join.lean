import Workflow.Merge.Wiring

/-!
# Joining the fragments of a plan

An accepted plan becomes one graph: the steps of all fragments under their new names, the entry of
the first fragment, what the planner says about all of them, and jumps in place of the final steps
after which another fragment goes on. The graph is validated again, because wiring may bring
branches together or cut a reference off from its source.
-/

namespace Workflow

/-- The finding for two steps of one name in the joined graph. -/
def Violation.collision (e : GraphError) : Violation := ⟨.duplicateStepId, [], e.message⟩

/-- A graph in the making and what went wrong so far. -/
structure Joint where
  graph : Graph
  failures : List Violation

/-- Adds a step under its new name. -/
def Joint.addStep (table : ArtifactTable) (fragment : Fragment) (position : Nat) (joint : Joint)
    (step : Step) : Joint :=
  match renameStep table fragment position step with
  | .error e =>
      { joint with failures := joint.failures ++ [.unbound (fragment.newName position step.id) e] }
  | .ok renamed =>
      match joint.graph.addStep renamed with
      | .ok graph => { joint with graph := graph }
      | .error e => { joint with failures := joint.failures ++ [.collision e] }

/-- The steps of all fragments in one graph. -/
def joinSteps (fragments : List Fragment) : Joint :=
  let table := artifactTable fragments
  fragments.zipIdx.foldl
    (fun joint (fragment, position) =>
      fragment.graph.stepList.foldl (Joint.addStep table fragment position) joint)
    ⟨.empty, []⟩

/-- The entry of the first fragment in the joined graph. -/
def joinedStart? (fragments : List Fragment) : Option String := do
  let first ← fragments.head?
  let entry ← first.graph.entry
  first.newName? 0 entry

/-- The graph with an entry, if the step exists. -/
def Graph.startingAt (g : Graph) (entry : Option String) : Graph :=
  match entry with
  | some id => (g.setEntry id).toOption.getD g
  | none => g

/-- What the planner says about the fragments, taken together. -/
def joinedInfo (fragments : List Fragment) : GraphInfo :=
  fragments.foldl (fun info fragment => info.absorb fragment.graph.info) .empty

/-- Joins the fragments of a plan along its dependencies, or reports why that is not possible. -/
def merge (schemas : Schemas) (fragments : List Fragment)
    (dependencies : Option (List Dependency)) : Except Report Graph :=
  let dependencies := dependencies.getD (deriveDependencies fragments)
  let planReport := validatePlan schemas fragments dependencies
  if !planReport.isAccepted then .error planReport
  else
    let joint := joinSteps fragments
    let wiring := planWiring fragments dependencies
    let failures := joint.failures ++ wiring.failures
    if !failures.isEmpty then .error ⟨failures⟩
    else
      let graph :=
        ((joint.graph.startingAt (joinedStart? fragments)).withInfo (joinedInfo fragments)).redirect
          wiring.redirects
      let graphReport := graph.validate schemas
      if graphReport.isAccepted then .ok graph else .error (planReport ++ graphReport)

end Workflow
