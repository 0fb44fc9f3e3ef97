import Workflow.Validation.Graph

/-!
# Validation of fragments and plans

A fragment is checked as a graph in which the artifacts that it declares to read may occur, and each
of its bindings has to be to a field that a step writes. The fragments of a plan have different
names, each artifact that one of them reads is offered by it or by one before it, and a dependency
leads from an earlier fragment that offers the artifact to a later one.
-/

namespace Workflow

/-! ## One fragment -/

/-- The defect of a binding. -/
def Fragment.bindingFinding (schemas : Schemas) (fragment : Fragment) (artifact : String)
    (binding : ArtifactBinding) : Option Violation :=
  match fragment.graph.step? binding.step with
  | some step =>
      if step.produces schemas binding.field then none
      else some (.boundToUnknownField artifact binding.field binding.step)
  | none => some (.boundToUnknownStep artifact binding.step)

/-- The defects of a fragment, each marked with its name. -/
def Fragment.findings (schemas : Schemas) (fragment : Fragment) : List Violation :=
  (fragment.graph.findings schemas (· ∈ fragment.consumes)
    ++ fragment.produces.entries.filterMap fun (artifact, binding) =>
        fragment.bindingFinding schemas artifact binding).map (Violation.within fragment.name)

/-- The report on a fragment by itself. -/
def Fragment.validate (schemas : Schemas) (fragment : Fragment) : Report :=
  ⟨fragment.findings schemas⟩

/-! ## A list of fragments -/

/-- The defects of the fragments one by one, and the names that occur before; `names` are those of
the fragments before them. -/
def fragmentFindings (schemas : Schemas) (names : List String) : List Fragment → List Violation
  | [] => []
  | fragment :: rest =>
      (if fragment.name ∈ names then [.repeatedFragment fragment.name] else [])
        ++ fragment.findings schemas
        ++ fragmentFindings schemas (fragment.name :: names) rest

/-- The artifacts that are read without being offered up to the reader; `earlier` are the fragments
before. -/
def consumptionFindings (earlier : List Fragment) : List Fragment → List Violation
  | [] => []
  | fragment :: rest =>
      (fragment.consumedArtifacts.filter fun artifact =>
          !(earlier ++ [fragment]).any (·.producesArtifact artifact)).map (fun artifact =>
            .noProducer fragment.name artifact (fragment.consumingSteps artifact)
              ((rest.find? (·.producesArtifact artifact)).map (·.name)))
        ++ consumptionFindings (earlier ++ [fragment]) rest

/-- The artifacts that neither their fragment nor a later one reads. -/
def productionFindings : List Fragment → List Violation
  | [] => []
  | fragment :: rest =>
      (fragment.produces.entries.filter fun (artifact, _) =>
          !(fragment :: rest).any (artifact ∈ ·.consumedArtifacts)).map (fun (artifact, binding) =>
            .neverConsumed artifact binding.step fragment.name)
        ++ productionFindings rest

/-! ## Dependencies -/

/-- The position of the last fragment with this name. -/
def fragmentPosition? (fragments : List Fragment) (name : String) : Option Nat :=
  (fragments.zipIdx.reverse.find? (·.1.name = name)).map (·.2)

/-- The defects of a dependency. -/
def dependencyFindings (fragments : List Fragment) (d : Dependency) : List Violation :=
  match fragmentPosition? fragments d.producer, fragmentPosition? fragments d.consumer with
  | some producer, some consumer =>
      (if consumer ≤ producer then [.backwards d] else [])
        ++ if (fragments[producer]?).any (·.producesArtifact d.artifact) then []
        else [.notOffered d]
  | _, _ => [.unknownFragments d]

/-- The report on the fragments of a plan and the dependencies between them. -/
def validatePlan (schemas : Schemas) (fragments : List Fragment) (dependencies : List Dependency) :
    Report :=
  if fragments.isEmpty then ⟨[.noFragments]⟩
  else
    ⟨fragmentFindings schemas [] fragments ++ consumptionFindings [] fragments
      ++ productionFindings fragments ++ dependencies.flatMap (dependencyFindings fragments)⟩

end Workflow
