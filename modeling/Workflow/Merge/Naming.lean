import Workflow.Condition.Renaming
import Workflow.Fragment
import Workflow.Reference.Artifact
import Workflow.Report

/-!
# Names in a joined graph

When fragments become one graph, the step `x` of the fragment at place `n`, counted from one, gets
the name `x_n`. Everything that names a step follows: placeholders, the paths of conditions, and the
targets of transitions. An artifact is bound to the field that its first offering fragment names.
-/

namespace Workflow

/-- The name of a step of the fragment at place `number`. -/
def scopedName (id : String) (number : Nat) : String := id ++ "_" ++ toString number

namespace Fragment

/-- The new name of a step of the fragment at a position, counted from zero; a name that is no step
of the fragment has none. -/
def newName? (fragment : Fragment) (position : Nat) (id : String) : Option String :=
  if fragment.graph.contains id then some (scopedName id (position + 1)) else none

/-- The new name of a step, or the name as it is. -/
def newName (fragment : Fragment) (position : Nat) (id : String) : String :=
  (fragment.newName? position id).getD id

/-- The reference with the new name of its step. -/
def renameReference (fragment : Fragment) (position : Nat) : Reference → Option Reference
  | .output step field => (fragment.newName? position step).map fun new => .output new field
  | .artifact _ => none

end Fragment

/-- The sources of the artifacts that a fragment at a position offers, added to a table. -/
def declareProduced (table : ArtifactTable) (fragment : Fragment) (position : Nat) :
    ArtifactTable :=
  fragment.produces.entries.foldl
    (fun table (artifact, binding) =>
      table.declare artifact ⟨position, fragment.newName position binding.step, binding.field⟩)
    table

/-- The sources of all artifacts of a plan. -/
def artifactTable (fragments : List Fragment) : ArtifactTable :=
  fragments.zipIdx.foldl (fun table (fragment, position) => declareProduced table fragment position)
    .empty

/-- The finding for a step whose artifacts cannot be bound. -/
def Violation.unbound (step : String) (e : ResolveError) : Violation :=
  ⟨.unresolvedArtifact, [step], e.message⟩

/-- A transition label of the fragment at a position in the joined graph. -/
def renameLabel (table : ArtifactTable) (fragment : Fragment) (position : Nat) (label : String) :
    Except ResolveError String := do
  let placeholders := substituteText (fragment.renameReference position) label
  let bound ← table.resolveLabel placeholders position fragment.name
  return Condition.renameSteps (fragment.newName? position) bound

/-- A transition of the fragment at a position in the joined graph. -/
def renameTransition (table : ArtifactTable) (fragment : Fragment) (position : Nat)
    (t : Transition) : Except ResolveError Transition := do
  let label ← renameLabel table fragment position t.label
  return ⟨label, fragment.newName position t.target⟩

/-- A step of the fragment at a position in the joined graph. -/
def renameStep (table : ArtifactTable) (fragment : Fragment) (position : Nat) (step : Step) :
    Except ResolveError Step := do
  let action ←
    table.resolveAction (step.action.substitute (fragment.renameReference position)) position
      fragment.name
  let transitions ← step.transitions.mapM (renameTransition table fragment position)
  return ⟨fragment.newName position step.id, action, transitions, step.thoughts⟩

end Workflow
