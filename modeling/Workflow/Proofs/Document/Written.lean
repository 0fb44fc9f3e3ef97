import Workflow.Document.Plan
import Workflow.Proofs.Document.Reading

/-!
# Written documents are read again

A document that was written is read as itself: what was left out because it is empty is filled in
again, and a text that is an id stays a text. Parameters have to be written as a map, with canonical
values.

Main statements: `readGraph_of_shows` and `readFragment_of_shows`.
-/

namespace Workflow

open Source

variable {source : Source}

/-! ## Parts of steps -/

theorem readStepId_of_shows {id : String} (h : source.Shows (.text id)) :
    readStepId source = pure id := by
  have read := value?_of_shows (.text id) trivial source h
  simp only [readStepId, read, pure_bind]

theorem readTransition_of_shows (doc : TransitionDocument) (h : source.Shows doc.toJson) :
    readTransition source = pure doc := by
  have distinct : ([("condition", Json.text doc.condition),
      ("next_step", Json.text doc.nextStep)].map (·.1)).Nodup := by simp
  obtain ⟨found, hrecord, shows⟩ := record?_of_shows ["condition", "next_step"] distinct h
  have condition : found.required "condition" text? = pure doc.condition :=
    shows.required (by decide) rfl fun _ => text?_of_shows
  have nextStep : found.required "next_step" readStepId = pure doc.nextStep :=
    shows.required (by decide) rfl fun _ => readStepId_of_shows
  simp only [readTransition, hrecord, condition, nextStep, pure_bind]

theorem word?_of_shows (kind : ActionKind) (h : source.Shows (.text kind.word)) :
    word? [("call_tool", ActionKind.callTool), ("call_llm", .callLlm)] source = pure kind := by
  rw [h.text]
  cases kind <;> rfl

theorem Dict.eq_empty_of_isEmpty {α : Type} {d : Dict α} (h : d.isEmpty = true) : d = .empty := by
  obtain ⟨entries, sorted⟩ := d
  obtain rfl : entries = [] := List.isEmpty_iff.1 h
  rfl

/-- The values of all entries are canonical. -/
def Dict.AllCanonical (fields : Fields) : Prop := ∀ p ∈ fields.entries, p.2.IsCanonical

/-- The parameters of the step are canonical. -/
def Step.IsCanonical (step : Step) : Prop :=
  ∀ name parameters, step.action = .tool name parameters → parameters.AllCanonical

theorem fields_of_shows {fields : Fields} (canonical : fields.AllCanonical)
    (h : source.Shows (.ofFields fields)) : dict? value? source = pure fields := by
  have same : fields.map id = fields := by
    cases fields
    simp [Dict.map]
  rw [← same] at h
  apply dict?_of_shows h
  intro p hp part shows
  exact value?_of_shows p.2 (canonical p hp) part shows

theorem readParameters_of_shows {fields : Fields} (canonical : fields.AllCanonical)
    (h : source.Shows (.ofFields fields)) : readParameters source = pure (.map fields) := by
  obtain ⟨aside, haside, shows⟩ := h.setAside
  have read := fields_of_shows canonical shows
  obtain ⟨standing, fields', ordered, _, rfl, _, _⟩ := shows.object
  simp only [readParameters, haside, pure_bind, read]

/-! ## Steps -/

namespace StepDocument

/-- The fields of a step as written, those that are left out included. -/
def slots (doc : StepDocument) : List (String × Option Json) :=
  [ ("id", some (.text doc.id)),
    ("action", (doc.action.map (·.word)).map .text),
    ("tool_name", doc.toolName.map .text),
    ("parameters", doc.parameters.toJson?),
    ("prompt", doc.prompt.map .text),
    ("thoughts", doc.thoughts.map .text),
    ("transition", doc.transition.map (·.toJson)),
    ("transitions",
      if doc.transitions.isEmpty then none else some (.array (doc.transitions.map (·.toJson)))),
    ("is_final", if doc.isFinal then some (.bool true) else none) ]

theorem map_fst_slots (doc : StepDocument) : doc.slots.map (·.1) = stepFields := rfl

theorem toJson_eq_present (doc : StepDocument) : doc.toJson = .object (present doc.slots) := by
  have transitions : listField? "transitions" (doc.transitions.map (·.toJson)) =
      Json.field? "transitions" (if doc.transitions.isEmpty then none
        else some (.array (doc.transitions.map (·.toJson)))) := by
    unfold listField?
    rw [List.isEmpty_map]
    split <;> rfl
  have is_final : (if doc.isFinal then Json.field "is_final" (.bool true) else none) =
      Json.field? "is_final" (if doc.isFinal then some (.bool true) else none) := by
    split <;> rfl
  rw [toJson, transitions, is_final]
  rfl

/-- The parameters of the step are a map of canonical values. -/
def IsCanonical (doc : StepDocument) : Prop :=
  ∃ fields : Fields, doc.parameters = .map fields ∧ fields.AllCanonical

end StepDocument

theorem readStep_of_shows (doc : StepDocument) (canonical : doc.IsCanonical)
    (h : source.Shows doc.toJson) : readStep source = pure doc := by
  have distinct : (doc.slots.map (·.1)).Nodup := by
    rw [doc.map_fst_slots]
    decide
  rw [doc.toJson_eq_present] at h
  obtain ⟨found, hrecord, shows⟩ := record?_of_shows stepFields (distinct_present distinct) h
  have lookup (name : String) : (present doc.slots).lookup name = (doc.slots.lookup name).join :=
    lookup_present distinct name
  have id : found.required "id" readStepId = pure doc.id :=
    shows.required (by decide) (lookup _) fun _ => readStepId_of_shows
  have action : found.optional "action"
      (word? [("call_tool", ActionKind.callTool), ("call_llm", .callLlm)]) = pure doc.action := by
    have written :
        (present doc.slots).lookup "action" = doc.action.map fun kind => .text kind.word :=
      (lookup "action").trans (Option.map_map ..)
    exact shows.optional _ (by decide) written (by simp) fun kind _ _ => word?_of_shows kind
  have toolName : found.optional "tool_name" text? = pure doc.toolName :=
    shows.optional .text (by decide) (lookup _) (by simp) fun _ _ _ => text?_of_shows
  have parameters : found.default "parameters" (.map .empty) readParameters =
      pure doc.parameters := by
    obtain ⟨fields, hfields, canonical⟩ := canonical
    have written : (present doc.slots).lookup "parameters" =
        if fields.isEmpty then none else some (.ofFields fields) := by
      rw [lookup]
      show doc.parameters.toJson? = _
      rw [hfields]
      rfl
    rw [hfields]
    refine shows.default (by decide) written ?_ fun _ _ => readParameters_of_shows canonical
    intro none_there
    rw [Dict.eq_empty_of_isEmpty none_there]
  have prompt : found.optional "prompt" text? = pure doc.prompt :=
    shows.optional .text (by decide) (lookup _) (by simp) fun _ _ _ => text?_of_shows
  have thoughts : found.optional "thoughts" text? = pure doc.thoughts :=
    shows.optional .text (by decide) (lookup _) (by simp) fun _ _ _ => text?_of_shows
  have transition : found.optional "transition" readTransition = pure doc.transition :=
    shows.optional (·.toJson) (by decide) (lookup _) (by simp [TransitionDocument.toJson])
      fun transition _ _ => readTransition_of_shows transition
  have transitions : found.default "transitions" [] (list? readTransition) =
      pure doc.transitions := by
    refine shows.default (by decide) (lookup _) List.isEmpty_iff.1 ?_
    intro _ part hpart
    exact list?_of_shows hpart fun transition _ _ => readTransition_of_shows transition
  have isFinal : found.default "is_final" false bool? = pure doc.isFinal := by
    have written : (present doc.slots).lookup "is_final" =
        if doc.isFinal = false then none else some (.bool true) := by
      rw [lookup]
      show (if doc.isFinal then some (Json.bool true) else none) = _
      cases doc.isFinal <;> rfl
    refine shows.default (by decide) written (fun not_final => not_final) ?_
    intro final part hpart
    rw [Bool.not_eq_false] at final
    rw [final]
    exact bool?_of_shows hpart
  simp only [readStep, hrecord, id, action, toolName, parameters, prompt, thoughts, transition,
    transitions, isFinal, pure_bind]

/-! ## Graphs -/

namespace GraphDocument

/-- What is known of the origin of a graph, as written. -/
def metadataJson (request : Option String) : Json :=
  .record [textField? "original_prompt" request]

/-- The fields of a graph as written, those that are left out included. -/
def slots (doc : GraphDocument) : List (String × Option Json) :=
  [ ("title", doc.title.map .text),
    ("description", doc.description.map .text),
    ("target_objective", doc.objective.map .text),
    ("metadata", doc.metadata.map metadataJson),
    ("entry", doc.entry.map .text),
    ("steps", some (.array (doc.steps.map (·.toJson)))) ]

theorem map_fst_slots (doc : GraphDocument) : doc.slots.map (·.1) = graphFields := rfl

/-- The parameters of all steps are maps of canonical values. -/
def IsCanonical (doc : GraphDocument) : Prop := ∀ step ∈ doc.steps, step.IsCanonical

end GraphDocument

theorem readMetadata_of_shows (request : Option String)
    (h : source.Shows (GraphDocument.metadataJson request)) :
    readMetadata source = pure request := by
  have distinct : ([("original_prompt", request.map Json.text)].map (·.1)).Nodup := by simp
  obtain ⟨found, hrecord, shows⟩ :=
    record?_of_shows ["original_prompt"] (distinct_present distinct) h
  have text : found.optional "original_prompt" text? = pure request :=
    shows.optional .text (by decide) (lookup_present distinct _) (by simp)
      fun _ _ _ => text?_of_shows
  simp only [readMetadata, hrecord, text, pure_bind]

/-- The fields of a graph may stand among other ones that are not its own. -/
theorem readGraph_of_shows (doc : GraphDocument) (canonical : doc.IsCanonical)
    (h : source.Shows (.object (present doc.slots))) : readGraph source = pure doc := by
  have distinct : (doc.slots.map (·.1)).Nodup := by
    rw [doc.map_fst_slots]
    decide
  obtain ⟨found, hrecord, shows⟩ := record?_of_shows graphFields (distinct_present distinct) h
  have lookup (name : String) : (present doc.slots).lookup name = (doc.slots.lookup name).join :=
    lookup_present distinct name
  have title : found.optional "title" text? = pure doc.title :=
    shows.optional .text (by decide) (lookup _) (by simp) fun _ _ _ => text?_of_shows
  have description : found.optional "description" text? = pure doc.description :=
    shows.optional .text (by decide) (lookup _) (by simp) fun _ _ _ => text?_of_shows
  have objective : found.optional "target_objective" text? = pure doc.objective :=
    shows.optional .text (by decide) (lookup _) (by simp) fun _ _ _ => text?_of_shows
  have metadata : found.optional "metadata" readMetadata = pure doc.metadata :=
    shows.optional GraphDocument.metadataJson (by decide) (lookup _)
      (by simp [GraphDocument.metadataJson, Json.record])
      fun request _ _ => readMetadata_of_shows request
  have entry : found.optional "entry" readStepId = pure doc.entry :=
    shows.optional .text (by decide) (lookup _) (by simp) fun _ _ _ => readStepId_of_shows
  have steps : found.required "steps" (list? readStep) = pure doc.steps := by
    refine shows.required (by decide) (lookup _) ?_
    intro part hpart
    exact list?_of_shows hpart fun step hstep _ => readStep_of_shows step (canonical step hstep)
  simp only [readGraph, hrecord, title, description, objective, metadata, entry, steps, pure_bind]

/-! ## Fragments -/

theorem readBinding_of_shows (binding : ArtifactBinding) (h : source.Shows binding.toJson) :
    readBinding source = pure binding := by
  have distinct : ([("step", Json.text binding.step),
      ("field", Json.text binding.field)].map (·.1)).Nodup := by simp
  obtain ⟨found, hrecord, shows⟩ := record?_of_shows ["step", "field"] distinct h
  have step : found.required "step" readStepId = pure binding.step :=
    shows.required (by decide) rfl fun _ => readStepId_of_shows
  have field : found.required "field" text? = pure binding.field :=
    shows.required (by decide) rfl fun _ => text?_of_shows
  simp only [readBinding, hrecord, step, field, pure_bind]

namespace FragmentDocument

/-- The fields of a fragment as written, those that are left out included. -/
def slots (doc : FragmentDocument) : List (String × Option Json) :=
  ("name", some (.text doc.name)) :: doc.graph.slots ++
    [ ("produces",
        if doc.produces.isEmpty then none else some (.ofFields (doc.produces.map (·.toJson)))),
      ("consumes",
        if doc.consumes.isEmpty then none else some (.texts doc.consumes)) ]

theorem toJson_eq_present (doc : FragmentDocument) : doc.toJson = .object (present doc.slots) := by
  have produces : (if doc.produces.isEmpty then none
        else Json.field "produces" (.ofFields (doc.produces.map (·.toJson)))) =
      Json.field? "produces" (if doc.produces.isEmpty then none
        else some (.ofFields (doc.produces.map (·.toJson)))) := by
    split <;> rfl
  have consumes : listField? "consumes" (doc.consumes.map .text) =
      Json.field? "consumes"
        (if doc.consumes.isEmpty then none else some (.texts doc.consumes)) := by
    unfold listField?
    rw [List.isEmpty_map]
    split <;> rfl
  rw [toJson, produces, consumes]
  rfl

/-- The fields of a fragment that are not its own are those of its graph. -/
theorem filter_present (doc : FragmentDocument) :
    (present doc.slots).filter (·.1 ∉ ["name", "produces", "consumes"]) =
      present doc.graph.slots := by
  let outer : List String := ["name", "produces", "consumes"]
  have inner : doc.slots.filter (·.1 ∉ outer) = doc.graph.slots := rfl
  rw [← inner]
  exact present_filter (fun name => decide (name ∉ outer)) doc.slots

end FragmentDocument

theorem readFragment_of_shows (doc : FragmentDocument) (canonical : doc.graph.IsCanonical)
    (h : source.Shows doc.toJson) : readFragment source = pure doc := by
  have distinct : (doc.slots.map (·.1)).Nodup := by
    show ("name" :: graphFields ++ ["produces", "consumes"]).Nodup
    decide
  rw [doc.toJson_eq_present] at h
  obtain ⟨found, rest, hsplit, shows, inner⟩ :=
    splitRecord?_of_shows ["name", "produces", "consumes"] (distinct_present distinct) h
  have lookup (name : String) : (present doc.slots).lookup name = (doc.slots.lookup name).join :=
    lookup_present distinct name
  have name : found.required "name" text? = pure doc.name :=
    shows.required (by decide) (lookup _) fun _ => text?_of_shows
  have graph : readGraph (.map .aside rest) = pure doc.graph := by
    apply readGraph_of_shows doc.graph canonical
    rwa [doc.filter_present] at inner
  have produces : found.default "produces" .empty (dict? readBinding) = pure doc.produces := by
    refine shows.default (by decide) (lookup _) Dict.eq_empty_of_isEmpty ?_
    intro _ part hpart
    exact dict?_of_shows hpart fun p _ _ => readBinding_of_shows p.2
  have consumes : found.default "consumes" [] (list? text?) = pure doc.consumes :=
    shows.default (by decide) (lookup _) List.isEmpty_iff.1 fun _ _ => texts_of_shows
  simp only [readFragment, hsplit, name, graph, produces, consumes, pure_bind]

end Workflow
