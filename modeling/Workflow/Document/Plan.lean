import Workflow.Document.Graph
import Workflow.Fragment

/-!
# Fragment and plan documents

A fragment is written as a graph with a name, the artifacts that it offers and those that it reads.
A plan lists fragments, and the dependencies between them if they are not to be derived.
-/

namespace Workflow

open Source

/-- A fragment as written. -/
structure FragmentDocument where
  name : String
  graph : GraphDocument
  produces : Dict ArtifactBinding
  consumes : List String
deriving DecidableEq

/-- A plan as written. -/
structure PlanDocument where
  fragments : List FragmentDocument
  dependencies : Option (List Dependency)
deriving DecidableEq

/-- Fragments in the order of their execution, with the dependencies that the planner stated. -/
structure Plan where
  fragments : List Fragment
  dependencies : Option (List Dependency)
deriving DecidableEq

/-! ## Reading -/

/-- Reads a binding. -/
def readBinding (source : Source) : Reading ArtifactBinding := do
  let fields ← record? ["step", "field"] source
  let step ← fields.required "step" readStepId
  let field ← fields.required "field" text?
  return { step, field }

/-- Reads a fragment. The fields of its graph stand among its own. -/
def readFragment (source : Source) : Reading FragmentDocument := do
  let (fields, rest) ← splitRecord? ["name", "produces", "consumes"] source
  let name ← fields.required "name" text?
  let graph ← readGraph (.map .aside rest)
  let produces ← fields.default "produces" .empty (dict? readBinding)
  let consumes ← fields.default "consumes" [] (list? text?)
  return { name, graph, produces, consumes }

/-- Reads a dependency. -/
def readDependency (source : Source) : Reading Dependency := do
  let fields ← record? ["artifact", "producer", "consumer"] source
  let artifact ← fields.required "artifact" text?
  let producer ← fields.required "producer" text?
  let consumer ← fields.required "consumer" text?
  return { artifact, producer, consumer }

/-- Reads a plan. -/
def readPlan (source : Source) : Reading PlanDocument := do
  let fields ← record? ["fragments", "dependencies"] source
  let fragments ← fields.required "fragments" (list? readFragment)
  let dependencies ← fields.optional "dependencies" (list? readDependency)
  return { fragments, dependencies }

/-! ## From documents to fragments and back -/

/-- The fragment of a document, or all that is wrong with its graph. -/
def FragmentDocument.toFragment (doc : FragmentDocument) : Except Report Fragment :=
  match doc.graph.toGraph with
  | .ok graph => .ok ⟨doc.name, graph, doc.produces, doc.consumes⟩
  | .error report => .error (report.within doc.name)

/-- The document of a fragment. -/
def FragmentDocument.ofFragment (fragment : Fragment) : FragmentDocument :=
  ⟨fragment.name, .ofGraph fragment.graph, fragment.produces, fragment.consumes⟩

/-- The fragments of documents, or all that is wrong with any of them. -/
def toFragments : List FragmentDocument → Except Report (List Fragment)
  | [] => .ok []
  | doc :: rest =>
      match doc.toFragment, toFragments rest with
      | .ok fragment, .ok fragments => .ok (fragment :: fragments)
      | .error report, .ok _ => .error report
      | .ok _, .error report => .error report
      | .error first, .error others => .error (first ++ others)

/-- The plan of a document, or all that is wrong with it. -/
def PlanDocument.toPlan (doc : PlanDocument) : Except Report Plan :=
  (toFragments doc.fragments).map fun fragments => ⟨fragments, doc.dependencies⟩

/-! ## Writing -/

/-- The binding as written. -/
def ArtifactBinding.toJson (binding : ArtifactBinding) : Json :=
  .object [("step", .text binding.step), ("field", .text binding.field)]

/-- The fragment as written; what is empty is left out. -/
def FragmentDocument.toJson (doc : FragmentDocument) : Json :=
  .record
    ([Json.field "name" (.text doc.name)] ++ doc.graph.toFields
      ++ [if doc.produces.isEmpty then none
          else Json.field "produces" (.ofFields (doc.produces.map (·.toJson))),
        listField? "consumes" (doc.consumes.map .text)])

end Workflow
