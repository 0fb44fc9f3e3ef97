import Workflow.Proofs.Reference.Rewriting

/-!
# What a resolved action is

The references that a scan of an action finds decide whether it can be resolved: all of them have to
be recorded, and the first one that is not is the one reported. A resolved action is the action with
other strings. Each string is described from where it is cut at its placeholders, and the texts of
values are put between its pieces; nothing that a value brings in is cut again.

Main statement: `resolve_action_agrees_with_scan`.
-/

namespace Workflow

/-! ## Specification -/

/-- The recorded value that a reference stands for. -/
def State.recorded? (state : State) : Reference → Option Json
  | .output step field => state.field? step field
  | .artifact _ => none

/-- The error of a step that uses a reference without value. -/
def Reference.unavailable (step : String) : Reference → ResolveError
  | .output referenced field => .invalidReference step referenced field
  | .artifact name => .danglingArtifact step name

/-- The text with the text of the recorded value in place of each placeholder. -/
def State.FillsIn (state : State) (text filled : String) : Prop :=
  ∃ (segments : Segments) (spelled : Reference → List Char), segments.Cuts text.toList ∧
    (∀ r ∈ segments.references, ∃ value, state.recorded? r = some value ∧
      spelled r = value.rendered.toList) ∧
    filled.toList = segments.write spelled

/-- What becomes of a string parameter: the recorded value itself if it is one placeholder, and a
text otherwise. -/
inductive State.StandsFor (state : State) : String → Json → Prop where
  | whole {r : Reference} {value : Json} : r.isReadable = true → state.recorded? r = some value →
      StandsFor state r.placeholder value
  | filled {text filled : String} : (∀ r : Reference, r.isReadable = true → text ≠ r.placeholder) →
      state.FillsIn text filled → StandsFor state text (.text filled)

/-- The action of the step `step`, with what it calls the tool or the reasoner with. -/
def Action.resolve (step : String) (state : State) : Action → Except ResolveError Action
  | .tool name parameters => (resolveParameters step parameters state).map (.tool name)
  | .reasoning prompt => (resolvePrompt step prompt state).map .reasoning
  | .final => .ok .final

variable {step : String} {state : State}

/-! ## Failing -/

theorem State.records_iff (r : Reference) :
    state.Records r ↔ ∃ value, state.recorded? r = some value := by
  cases r with
  | output step field => exact Option.isSome_iff_exists
  | artifact name => simp [State.Records, State.recorded?]

theorem State.resolve_eq_ok_iff (r : Reference) (value : Json) :
    state.resolve step r = .ok value ↔ state.recorded? r = some value := by
  cases r with
  | artifact name => simp [State.resolve, State.recorded?]
  | output referenced field =>
      rw [State.resolve, State.recorded?]
      cases state.field? referenced field <;> simp

theorem State.errorOf?_resolve_eq_some_iff (r : Reference) (e : ResolveError) :
    errorOf? (state.resolve step r) = some e ↔ ¬ state.Records r ∧ e = r.unavailable step := by
  cases r with
  | artifact name => simp [State.resolve, State.Records, errorOf?, Reference.unavailable, eq_comm]
  | output referenced field =>
      simp only [State.resolve, State.Records, Reference.unavailable]
      cases state.field? referenced field <;> simp [errorOf?, eq_comm]

theorem errorOf?_resolve_action (step : String) (state : State) (action : Action) :
    errorOf? (action.resolve step state) = firstError? (state.resolve step) action.references := by
  cases action with
  | tool name parameters =>
      rw [Action.resolve, errorOf?_map, errorOf?_resolveParameters step state name]
  | reasoning prompt => rw [Action.resolve, errorOf?_map, errorOf?_resolvePrompt, Action.references]
  | final => rfl

theorem firstError?_resolve_eq_some_iff (references : List Reference) (e : ResolveError) :
    firstError? (state.resolve step) references = some e ↔
      ∃ before r after, references = before ++ r :: after ∧ (∀ s ∈ before, state.Records s) ∧
        ¬ state.Records r ∧ e = r.unavailable step := by
  rw [firstError?, List.findSome?_eq_some_iff]
  simp only [State.errorOf?_resolve_eq_some_iff, errorOf?_resolve_eq_none_iff]
  constructor
  · rintro ⟨before, r, after, split, fails, recorded⟩
    exact ⟨before, r, after, split, recorded, fails⟩
  · rintro ⟨before, r, after, split, recorded, fails⟩
    exact ⟨before, r, after, split, fails, recorded⟩

/-! ## Texts -/

/-- The text that a reference is replaced by. -/
def State.spelled (state : State) (r : Reference) : List Char :=
  ((state.recorded? r).map fun value => value.rendered.toList).getD []

theorem eq_write_of_fill {template : Template} {filled : List Char}
    (h : template.fill (state.resolve step) = .ok filled) :
    filled = (Segments.ofTemplate template).write state.spelled := by
  induction template generalizing filled with
  | nil => exact (Except.ok.inj h).symm
  | cons piece rest ih =>
      cases piece with
      | literal c =>
          obtain ⟨tail, htail, rfl⟩ := Except.exists_of_map_eq_ok h
          rw [Segments.write_ofTemplate_literal, ih htail]
      | reference r =>
          obtain ⟨value, hvalue, h⟩ := Except.exists_of_bind_eq_ok h
          obtain ⟨tail, htail, h⟩ := Except.exists_of_bind_eq_ok h
          obtain rfl := Except.ok.inj h
          rw [Segments.write_ofTemplate_reference, ih htail, State.spelled,
            (State.resolve_eq_ok_iff r value).1 hvalue]
          rfl

theorem fillsIn_of_fill {text filled : String}
    (h : (Template.ofText text).fill (state.resolve step) = .ok filled.toList) :
    state.FillsIn text filled := by
  have recorded : ∀ r ∈ referencesInText text, state.Records r := by
    rw [← firstError?_eq_none_iff step, referencesInText, ← errorOf?_fill, h]
    rfl
  refine ⟨_, state.spelled, Segments.cuts_ofChars text.toList, fun r hr => ?_, eq_write_of_fill h⟩
  rw [Segments.references_ofTemplate] at hr
  obtain ⟨value, hvalue⟩ := (State.records_iff r).1 (recorded r hr)
  exact ⟨value, hvalue, by rw [State.spelled, hvalue]; rfl⟩

theorem fillsIn_of_resolvePrompt {prompt filled : String}
    (h : resolvePrompt step prompt state = .ok filled) : state.FillsIn prompt filled := by
  obtain ⟨text, htext, rfl⟩ := Except.exists_of_map_eq_ok h
  exact fillsIn_of_fill (by rw [htext, String.toList_ofList])

/-- A text is read as one reference exactly if it is the placeholder of it. -/
theorem ofText_eq_singleton_iff (text : String) (r : Reference) :
    Template.ofText text = [.reference r] ↔ r.isReadable = true ∧ text = r.placeholder := by
  constructor
  · intro h
    have mem : r ∈ referencesInText text := by
      rw [referencesInText, h]
      exact List.mem_singleton_self r
    refine ⟨isReadable_of_mem_referencesInText mem, ?_⟩
    have rendered := Template.render_ofChars text.toList
    rw [show Template.ofChars text.toList = [.reference r] from h, Template.render,
      Template.render, List.append_nil] at rendered
    rw [Reference.placeholder, rendered, String.ofList_toList]
  · rintro ⟨readable, rfl⟩
    have read := Template.ofChars_of_read? (Reference.read?_chars_append readable [])
    rwa [List.append_nil, Template.ofChars, ← String.toList_ofList (l := r.chars)] at read

theorem standsFor_of_resolveString {text : String} {value : Json}
    (h : resolveString step text state = .ok value) : state.StandsFor text value := by
  unfold resolveString at h
  split at h
  · next r hr =>
      obtain ⟨readable, rfl⟩ := (ofText_eq_singleton_iff text r).1 hr
      exact .whole readable ((State.resolve_eq_ok_iff r value).1 h)
  · next several =>
      obtain ⟨filled, hfilled, rfl⟩ := Except.exists_of_map_eq_ok h
      refine .filled (fun r readable hr => ?_)
        (fillsIn_of_fill (by rw [hfilled, String.toList_ofList]))
      exact several r ((ofText_eq_singleton_iff text r).2 ⟨readable, hr⟩)

/-! ## Values -/

mutual

theorem rewritten_resolveValue : ∀ {value resolved : Json},
    resolveValue step state value = .ok resolved → value.Rewritten state.StandsFor resolved
  | .null, _, h => Except.ok.inj h ▸ .null
  | .bool value, _, h => Except.ok.inj h ▸ .bool value
  | .int value, _, h => Except.ok.inj h ▸ .int value
  | .float value, _, h => Except.ok.inj h ▸ .float value
  | .text s, _, h => .text (standsFor_of_resolveString h)
  | .array items, _, h => by
      obtain ⟨items', hitems, rfl⟩ := Except.exists_of_map_eq_ok h
      exact .array (rewritten_resolveItems hitems)
  | .object fields, _, h => by
      obtain ⟨fields', hfields, rfl⟩ := Except.exists_of_map_eq_ok h
      obtain ⟨keys, values⟩ := rewritten_resolveFields hfields
      exact .object keys values

theorem rewritten_resolveItems : ∀ {items items' : List Json},
    resolveItems step state items = .ok items' →
      List.Forall₂ (Json.Rewritten state.StandsFor) items items'
  | [], _, h => Except.ok.inj h ▸ .nil
  | item :: rest, _, h => by
      obtain ⟨value, hvalue, h⟩ := Except.exists_of_bind_eq_ok h
      obtain ⟨values, hvalues, h⟩ := Except.exists_of_bind_eq_ok h
      obtain rfl := Except.ok.inj h
      exact .cons (rewritten_resolveValue hvalue) (rewritten_resolveItems hvalues)

theorem rewritten_resolveFields : ∀ {fields fields' : List (String × Json)},
    resolveFields step state fields = .ok fields' →
      fields.map (·.1) = fields'.map (·.1) ∧
        List.Forall₂ (Json.Rewritten state.StandsFor) (fields.map (·.2)) (fields'.map (·.2))
  | [], _, h => Except.ok.inj h ▸ ⟨rfl, .nil⟩
  | (key, item) :: rest, _, h => by
      obtain ⟨value, hvalue, h⟩ := Except.exists_of_bind_eq_ok h
      obtain ⟨fields, hfields, h⟩ := Except.exists_of_bind_eq_ok h
      obtain rfl := Except.ok.inj h
      obtain ⟨keys, values⟩ := rewritten_resolveFields hfields
      exact ⟨congrArg (key :: ·) keys, .cons (rewritten_resolveValue hvalue) values⟩

end

/-- Resolved parameters have the names of the original ones, so that none gets lost among them. -/
theorem rewritten_resolveParameters {parameters resolved : Fields}
    (h : resolveParameters step parameters state = .ok resolved) :
    parameters.keys = resolved.keys ∧
      List.Forall₂ (Json.Rewritten state.StandsFor) parameters.values resolved.values := by
  obtain ⟨fields, hfields, rfl⟩ := Except.exists_of_map_eq_ok h
  obtain ⟨keys, values⟩ := rewritten_resolveFields hfields
  have sorted : fields.Pairwise fun p q => p.1 < q.1 := by
    have ascending := parameters.keys_sorted
    rw [Dict.keys, keys] at ascending
    exact List.pairwise_map.1 ascending
  rw [Dict.ofList_of_perm (d := ⟨fields, sorted⟩) (.refl _)]
  exact ⟨keys, values⟩

theorem rewritten_resolve_action {action resolved : Action}
    (h : action.resolve step state = .ok resolved) :
    action.Rewritten state.FillsIn state.StandsFor resolved := by
  cases action with
  | final => exact Except.ok.inj h ▸ .final
  | reasoning prompt =>
      obtain ⟨filled, hfilled, rfl⟩ := Except.exists_of_map_eq_ok h
      exact .reasoning (fillsIn_of_resolvePrompt hfilled)
  | tool name parameters =>
      obtain ⟨resolved, hresolved, rfl⟩ := Except.exists_of_map_eq_ok h
      obtain ⟨keys, values⟩ := rewritten_resolveParameters hresolved
      exact .tool keys values

/-! ## The scan decides -/

/-- The action of a step is resolved exactly if all references of its scan are recorded, and fails
with the first one that is not. Of what is resolved only the strings have changed: one that is a
single placeholder to the recorded value, any other to its text with the texts of values filled in
once. -/
theorem resolve_action_agrees_with_scan (step : Step) (state : State) :
    ((∃ resolved, step.action.resolve step.id state = .ok resolved) ↔
      ∀ r ∈ step.actionReferences, state.Records r) ∧
    (∀ e, step.action.resolve step.id state = .error e ↔
      ∃ before r after, step.actionReferences = before ++ r :: after ∧
        (∀ s ∈ before, state.Records s) ∧ ¬ state.Records r ∧ e = r.unavailable step.id) ∧
    ∀ resolved, step.action.resolve step.id state = .ok resolved →
      step.action.Rewritten state.FillsIn state.StandsFor resolved := by
  have scanned := errorOf?_resolve_action step.id state step.action
  refine ⟨?_, fun e => ?_, fun resolved h => rewritten_resolve_action h⟩
  · rw [← errorOf?_eq_none_iff, scanned, firstError?_eq_none_iff]
    rfl
  · rw [← errorOf?_eq_some_iff, scanned, firstError?_resolve_eq_some_iff]
    rfl

end Workflow
