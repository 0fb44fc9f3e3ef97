import Workflow.Graph.Reach
import Workflow.Reference.Scan

/-!
# Fragments

A fragment is the graph of one part of a task. It reads values from other parts by artifact
placeholders and offers values of its own under artifact names. A plan is a list of fragments in the
order of their execution, and a dependency says which fragment an artifact comes from.
-/

namespace Workflow

/-- The output field that stands behind an artifact. -/
structure ArtifactBinding where
  step : String
  field : String
deriving DecidableEq, Repr

/-- A graph with the artifacts that it offers and reads. -/
structure Fragment where
  name : String
  graph : Graph
  produces : Dict ArtifactBinding
  consumes : List String
deriving DecidableEq

/-- The name of the artifact that a reference is to. -/
def Reference.artifact? : Reference → Option String
  | .artifact name => some name
  | .output _ _ => none

namespace Fragment

/-- The artifacts that occur in the steps of the fragment, in ascending order. -/
def referencedArtifacts (fragment : Fragment) : List String :=
  sortedNames
    (fragment.graph.stepList.flatMap fun step => step.references.filterMap Reference.artifact?)

/-- The artifacts that the fragment reads: those it declares and those that occur in its steps, in
ascending order. -/
def consumedArtifacts (fragment : Fragment) : List String :=
  sortedNames (fragment.referencedArtifacts ++ fragment.consumes)

/-- Whether the fragment offers the artifact. -/
def producesArtifact (fragment : Fragment) (artifact : String) : Bool :=
  fragment.produces.contains artifact

/-- The steps of the fragment in which the artifact occurs. -/
def consumingSteps (fragment : Fragment) (artifact : String) : List String :=
  (fragment.graph.stepList.filter fun step => .artifact artifact ∈ step.references).map (·.id)

end Fragment

/-- The artifact goes from one fragment to another. -/
structure Dependency where
  artifact : String
  producer : String
  consumer : String
deriving DecidableEq, Repr

/-- The dependencies of one fragment on those before it: for each artifact that it reads, on the
first that offers it. -/
def dependenciesOn (earlier : List Fragment) (consumer : Fragment) : List Dependency :=
  consumer.consumedArtifacts.filterMap fun artifact =>
    (earlier.find? (·.producesArtifact artifact)).map fun producer =>
      ⟨artifact, producer.name, consumer.name⟩

/-- The dependencies of fragments on each other and on those before them. -/
def deriveDependenciesAfter (earlier : List Fragment) : List Fragment → List Dependency
  | [] => []
  | fragment :: rest =>
      dependenciesOn earlier fragment ++ deriveDependenciesAfter (earlier ++ [fragment]) rest

/-- The dependencies that follow from what the fragments of a plan offer and read. -/
def deriveDependencies (fragments : List Fragment) : List Dependency :=
  deriveDependenciesAfter [] fragments

end Workflow
