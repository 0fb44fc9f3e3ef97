import Workflow.Proofs.Document.Acceptance
import Workflow.Proofs.Document.Written
import Workflow.Proofs.Validation.Accepted

/-!
# Graphs and fragments survive being written

What a document may leave implicit, it states when it is made from a graph: it names the entry, and
as each step but the first is reached by a transition, its steps are not taken to follow each other
as listed. The document therefore describes the graph that it was made from, in whatever order it
lists the steps.

Main statement: `Graph.documents_give_back`, an accepted graph and a fragment with such a graph are
read again from their documents, whatever the order in which the fields of objects were kept.
-/

namespace Workflow

/-! ## Steps -/

/-- The step can be told from its document: the name of a tool is not blank. -/
def Step.IsNamed (step : Step) : Prop :=
  ∀ name parameters, step.action = .tool name parameters → Text.isBlankText name = false

namespace StepDocument

@[simp] theorem id_ofStep (step : Step) : (ofStep step).id = step.id := by
  unfold ofStep
  cases step.action <;> rfl

theorem isFinal_ofStep (step : Step) : (ofStep step).isFinal = step.isFinal := by
  unfold ofStep Step.isFinal
  cases step.action <;> rfl

theorem allTransitions_ofStep (step : Step) : (ofStep step).allTransitions = step.transitions := by
  have none_alone : (ofStep step).transition = none := by
    unfold ofStep
    cases step.action <;> rfl
  have listed : (ofStep step).transitions = step.transitions.map fun t => ⟨t.label, t.target⟩ := by
    unfold ofStep
    cases step.action <;> rfl
  simp [allTransitions, none_alone, listed, Function.comp_def]

theorem hasTransitions_ofStep_iff (step : Step) :
    (ofStep step).hasTransitions = false ↔ step.transitions = [] := by
  rw [← allTransitions_eq_nil_iff, allTransitions_ofStep]

theorem declares_ofStep {step : Step} (named : step.IsNamed) :
    (ofStep step).Declares step.action := by
  unfold ofStep
  cases action : step.action with
  | tool name parameters =>
      exact .call rfl rfl rfl (named name parameters action) (.map parameters)
  | reasoning prompt => exact .ask rfl rfl rfl
  | final => exact .final rfl rfl

theorem describes_ofStep {step : Step} (named : step.IsNamed) : (ofStep step).Describes step where
  id := (id_ofStep step).symm
  action := declares_ofStep named
  transitions := (allTransitions_ofStep step).symm
  thoughts := by
    unfold ofStep
    cases step.action <;> rfl

theorem isCanonical_ofStep {step : Step} (canonical : step.IsCanonical) :
    (ofStep step).IsCanonical := by
  have empty : (Dict.empty : Fields).AllCanonical := by simp [Dict.AllCanonical, Dict.empty]
  unfold ofStep
  cases action : step.action with
  | tool name parameters => exact ⟨parameters, rfl, canonical name parameters action⟩
  | reasoning prompt => exact ⟨.empty, rfl, empty⟩
  | final => exact ⟨.empty, rfl, empty⟩

end StepDocument

/-! ## Graphs -/

namespace GraphDocument

/-- The document lists the steps of the graph in some order. -/
theorem exists_steps_ofGraph (g : Graph) :
    ∃ steps : List Step, (ofGraph g).steps = steps.map .ofStep ∧ steps.Perm g.stepList := by
  cases h : g.topologicalIds with
  | ok order =>
      refine ⟨order.filterMap g.step?, ?_, ?_⟩
      · rw [ofGraph, Graph.topologicalSteps_eq_ok h]
      · exact Graph.perm_filterMap_step? (Graph.perm_of_topologicalIds h)
  | error error =>
      refine ⟨g.stepList, ?_, .refl _⟩
      rw [ofGraph, Graph.topologicalSteps, h]
      rfl

theorem info_ofGraph (g : Graph) : (ofGraph g).info = g.info := by
  have request : (g.info.request.map some).join = g.info.request := by cases g.info.request <;> rfl
  rw [info, ofGraph, request]

variable {g : Graph} {entry : String}

/-- If all steps are reached from the entry, two of them are not without a transition. -/
theorem isLinear_ofGraph (reached : ∀ id, g.contains id = true → g.Reachable entry id) :
    (ofGraph g).isLinear = false := by
  obtain ⟨steps, hsteps, perm⟩ := exists_steps_ofGraph g
  rw [isLinear, Bool.and_eq_false_iff]
  by_cases several : 1 < (ofGraph g).steps.length
  · right
    have distinct : (steps.map (·.id)).Nodup := (perm.map _).nodup_iff.2 (Graph.map_id_nodup g)
    have others : ∃ step ∈ steps, step.id ≠ entry := by
      rw [hsteps, List.length_map] at several
      by_contra! only
      have constant : steps.map (·.id) = List.replicate steps.length entry := by
        rw [List.eq_replicate_iff, List.length_map]
        exact ⟨rfl, by simpa using only⟩
      rw [constant, List.nodup_replicate] at distinct
      omega
    obtain ⟨step, hstep, other⟩ := others
    obtain ⟨walk, w⟩ := reached step.id (Graph.contains_of_mem_stepList (perm.subset hstep))
    obtain ⟨_, leads, _⟩ := Relation.TransGen.head'_iff.1 (w.transGen other.symm)
    obtain ⟨start, hstart, target⟩ := (Graph.mem_successors_iff _ _ _).1 leads
    have goes_on : start.transitions ≠ [] := by
      intro none
      simp [Step.targets, none] at target
    have listed : start ∈ steps := perm.mem_iff.2 (Graph.mem_stepList_of_step? hstart)
    simp only [hsteps, Bool.not_eq_false', List.any_map, List.any_eq_true]
    refine ⟨start, listed, ?_⟩
    rw [Function.comp_apply, ← Bool.not_eq_false, StepDocument.hasTransitions_ofStep_iff]
    exact goes_on
  · left
    simpa using several

/-- The document of a graph with an entry is a graph. -/
theorem isSound_ofGraph (hentry : g.entry = some entry) (there : g.contains entry = true)
    (named : ∀ step ∈ g.stepList, step.IsNamed) : (ofGraph g).IsSound := by
  obtain ⟨steps, hsteps, perm⟩ := exists_steps_ofGraph g
  have ids : (ofGraph g).steps.map (·.id) = steps.map (·.id) := by simp [hsteps, Function.comp_def]
  have listed : entry ∈ steps.map (·.id) := by
    rw [(perm.map _).mem_iff, Graph.map_id_stepList]
    exact (Graph.mem_ids_iff g entry).2 there
  constructor
  · intro none
    rw [← ids, none] at listed
    cases listed
  · rw [ids]
    exact (perm.map _).nodup_iff.2 (Graph.map_id_nodup g)
  · intro doc hdoc
    rw [hsteps] at hdoc
    obtain ⟨step, hstep, rfl⟩ := List.mem_map.1 hdoc
    exact ⟨_, StepDocument.declares_ofStep (named step (perm.subset hstep))⟩
  · intro id stated
    have written : g.entry = some id := stated
    rw [hentry, Option.some.injEq] at written
    rw [ids, ← written]
    exact listed

/-- A graph is described by its document, if the steps are not taken to follow each other. -/
theorem describes_ofGraph (hentry : g.entry = some entry)
    (named : ∀ step ∈ g.stepList, step.IsNamed)
    (as_listed : (ofGraph g).linkedSteps = (ofGraph g).steps) : (ofGraph g).Describes g := by
  obtain ⟨steps, hsteps, perm⟩ := exists_steps_ofGraph g
  refine ⟨fun step => ?_, ?_, (info_ofGraph g).symm⟩
  · rw [as_listed, hsteps]
    constructor
    · intro hstep
      have written := StepDocument.describes_ofStep (named step hstep)
      exact ⟨_, List.mem_map_of_mem (perm.mem_iff.2 hstep), written⟩
    · rintro ⟨doc, hdoc, describes⟩
      obtain ⟨other, hother, rfl⟩ := List.mem_map.1 hdoc
      have hother := perm.subset hother
      have written := StepDocument.describes_ofStep (named other hother)
      rwa [describes.unique written]
  · have stated : (ofGraph g).entry = some entry := hentry
    rw [entryId?_of_stated stated, hentry]

/-- A graph in which all steps are reached from the entry is given back by its document. -/
theorem toGraph_ofGraph (hentry : g.entry = some entry) (there : g.contains entry = true)
    (reached : ∀ id, g.contains id = true → g.Reachable entry id)
    (named : ∀ step ∈ g.stepList, step.IsNamed) : (ofGraph g).toGraph = .ok g := by
  have as_listed : (ofGraph g).linkedSteps = (ofGraph g).steps := by
    rw [linkedSteps, isLinear_ofGraph reached]
    rfl
  rw [toGraph_eq_ok_iff]
  exact ⟨isSound_ofGraph hentry there named, describes_ofGraph hentry named as_listed⟩

theorem isCanonical_ofGraph (canonical : ∀ step ∈ g.stepList, step.IsCanonical) :
    (ofGraph g).IsCanonical := by
  obtain ⟨steps, hsteps, perm⟩ := exists_steps_ofGraph g
  intro doc hdoc
  rw [hsteps] at hdoc
  obtain ⟨step, hstep, rfl⟩ := List.mem_map.1 hdoc
  exact StepDocument.isCanonical_ofStep (canonical step (perm.subset hstep))

end GraphDocument

/-- An accepted graph whose tools have names, and any fragment with such a graph, come back from the
values that their documents are written as. -/
theorem Graph.documents_give_back {schemas : Schemas} {allowed : String → Bool} {g : Graph}
    (accepted : Report.isAccepted ⟨g.findings schemas allowed⟩ = true)
    (named : ∀ step ∈ g.stepList, step.IsNamed)
    (canonical : ∀ step ∈ g.stepList, step.IsCanonical) :
    (∀ value, (GraphDocument.ofGraph g).toJson.Reorders value →
      (readGraph (.ofJson value)).result?.map (·.toGraph) = some (.ok g)) ∧
    ∀ fragment : Fragment, fragment.graph = g →
      ∀ value, (FragmentDocument.ofFragment fragment).toJson.Reorders value →
        (readFragment (.ofJson value)).result?.map (·.toFragment) = some (.ok fragment) := by
  obtain ⟨_, entry, hentry, there, unreachable, _⟩ :=
    (harmless_findings_iff schemas allowed g).1 ((isAccepted_iff_harmless _).1 accepted)
  have reached := (harmless_unreachableFindings_iff g entry).1 unreachable
  have back : (GraphDocument.ofGraph g).toGraph = .ok g :=
    GraphDocument.toGraph_ofGraph hentry there reached named
  have canonical' := GraphDocument.isCanonical_ofGraph canonical
  constructor
  · intro value same
    have read := readGraph_of_shows _ canonical' (Source.shows_ofJson same)
    simp [read, Reading.result?, back]
  · rintro fragment rfl value same
    have read := readFragment_of_shows (.ofFragment fragment) canonical' (Source.shows_ofJson same)
    have back' : (FragmentDocument.ofFragment fragment).toFragment = .ok fragment := by
      rw [FragmentDocument.toFragment, FragmentDocument.ofFragment, back]
    simp [read, Reading.result?, back']

theorem call_of_mem_forecast {step : Step} (hstep : step ∈ forecast.stepList) {name : String}
    {parameters : Fields} (calls : step.action = .tool name parameters) :
    name = "weather" ∧ parameters = Dict.empty.insert "city" (.text "Oslo") := by
  have listed : ∀ step ∈ forecast.stepList, step ∈ forecastSteps := by decide +kernel
  have four := listed step hstep
  simp only [forecastSteps, List.mem_cons, List.not_mem_nil, or_false] at four
  rcases four with rfl | rfl | rfl | rfl <;> cases calls
  exact ⟨rfl, rfl⟩

theorem isCanonical_of_mem_forecast : ∀ step ∈ forecast.stepList, step.IsCanonical := by
  intro step hstep name parameters calls
  rw [(call_of_mem_forecast hstep calls).2]
  intro p hp
  obtain rfl := List.mem_singleton.1 hp
  trivial

theorem forecast_documents_give_back :
    (forecast.validate forecastSchemas).isAccepted = true ∧
      (∀ step ∈ forecast.stepList, step.IsNamed) ∧
      (∀ step ∈ forecast.stepList, step.IsCanonical) ∧
      (readGraph (.ofJson (GraphDocument.ofGraph forecast).toJson)).result?.map (·.toGraph) =
        some (.ok forecast) := by
  have named : ∀ step ∈ forecast.stepList, step.IsNamed := by
    intro step hstep name parameters calls
    rw [(call_of_mem_forecast hstep calls).1]
    decide +kernel
  refine ⟨forecast_isAccepted, named, isCanonical_of_mem_forecast, ?_⟩
  have back := Graph.documents_give_back forecast_isAccepted named isCanonical_of_mem_forecast
  exact back.1 _ (.refl _)

end Workflow
