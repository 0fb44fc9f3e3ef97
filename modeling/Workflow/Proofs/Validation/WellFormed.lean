import Workflow.Proofs.Graph.Walk
import Workflow.Proofs.Reference.Substitution
import Workflow.Validation.Graph

/-!
# Well-formed graphs

What a graph has to be so that it can be run, said without the searches that validation makes: by
walks from the entry, and by what the steps read and write.
-/

namespace Workflow

/-- A completed step has recorded the field: the answer of a reasoner, or a declared output of a
tool. -/
def Step.Writes (schemas : Schemas) (step : Step) (field : String) : Prop :=
  match step.action with
  | .reasoning _ => field = "response"
  | .tool name _ => ∃ schema, schemas name = some schema ∧ field ∈ schema.outputs
  | .final => False

theorem Step.isFinal_iff (step : Step) : step.isFinal = true ↔ step.action = .final := by
  unfold Step.isFinal
  cases step.action <;> simp

/-- A step that writes something is not final. -/
theorem Step.Writes.not_final {schemas : Schemas} {step : Step} {field : String}
    (h : step.Writes schemas field) : step.action ≠ .final := by
  intro final
  simp [Step.Writes, final] at h

/-- A tool that is known and has what it requires is so when references in its parameters are
replaced. -/
theorem Action.tool_known_of_substitute {schemas : Schemas} {action : Action}
    {replace : Reference → Option Reference}
    (known : ∀ name parameters, action = .tool name parameters →
      ∃ schema, schemas name = some schema ∧
        ∀ input ∈ schema.inputs, input.required = true → parameters.contains input.name = true)
    {name : String} {parameters : Fields} (h : action.substitute replace = .tool name parameters) :
    ∃ schema, schemas name = some schema ∧
      ∀ input ∈ schema.inputs, input.required = true → parameters.contains input.name = true := by
  obtain ⟨original, hact, keys⟩ := Action.exists_of_substitute_eq_tool h
  obtain ⟨schema, hschema, supplied⟩ := known name original hact
  refine ⟨schema, hschema, fun input hinput required => ?_⟩
  rw [keys]
  exact supplied input hinput required

namespace Graph

/-- The field is there when a run reaches `target`: the step `source` writes it, and lies on every
path from the entry to `target`. In this sense each step lies on every path to itself. -/
structure Supplies (schemas : Schemas) (g : Graph) (entry source field target : String) : Prop where
  writes : ∃ producer, g.step? source = some producer ∧ producer.Writes schemas field
  passed : ∀ walk, g.Walk entry target walk → source ∈ walk

/-- A graph that can be run from its entry. -/
structure WellFormed (schemas : Schemas) (g : Graph) (entry : String) : Prop where
  reached : ∀ id, g.contains id = true → g.Reachable entry id
  targets_exist : ∀ step ∈ g.stepList, ∀ target ∈ step.targets, g.contains target = true
  ends_iff_final : ∀ step ∈ g.stepList, (step.transitions = [] ↔ step.action = .final)
  labels_nodup : ∀ step ∈ g.stepList, step.labels.Nodup
  acyclic : g.Acyclic
  /-- Nothing is reachable by two transitions of one step. -/
  isolated : ∀ step ∈ g.stepList,
    step.targets.Pairwise fun a b => ∀ id, g.Reachable a id → ¬ g.Reachable b id
  tools_known : ∀ step ∈ g.stepList, ∀ name parameters, step.action = .tool name parameters →
    ∃ schema, schemas name = some schema ∧
      ∀ input ∈ schema.inputs, input.required = true → parameters.contains input.name = true
  no_artifact : ∀ step ∈ g.stepList, ∀ name,
    .artifact name ∉ step.actionReferences ∧
      ∀ label ∈ step.labels, ¬ LabelReads label (.artifact name)
  action_supplied : ∀ step ∈ g.stepList, ∀ source field,
    .output source field ∈ step.actionReferences →
      source ≠ step.id ∧ g.Supplies schemas entry source field step.id
  /-- A label may also read what its own step writes. -/
  label_supplied : ∀ step ∈ g.stepList, ∀ label ∈ step.labels, ∀ source field,
    LabelReads label (.output source field) → g.Supplies schemas entry source field step.id
  final_reached : ∃ step ∈ g.stepList, step.action = .final ∧ g.Reachable entry step.id

namespace WellFormed

variable {schemas : Schemas} {g : Graph} {entry : String}

theorem contains_entry (wf : g.WellFormed schemas entry) : g.contains entry = true := by
  obtain ⟨_, _, _, h⟩ := wf.final_reached
  exact h.contains_first

theorem contains_target (wf : g.WellFormed schemas entry) {id target : String}
    (h : target ∈ g.successors id) : g.contains target = true := by
  obtain ⟨step, hstep, htarget⟩ := (mem_successors_iff g id target).1 h
  exact wf.targets_exist step (mem_stepList_of_step? hstep) target htarget

/-- A path that can go on leads on to an existing step. -/
theorem walk_step (wf : g.WellFormed schemas entry) {first id target : String}
    {walk : List String} (w : g.Walk first id walk) (h : target ∈ g.successors id) :
    g.Walk first target (walk ++ [target]) :=
  w.step h (wf.contains_target h)

end WellFormed

end Graph

end Workflow
