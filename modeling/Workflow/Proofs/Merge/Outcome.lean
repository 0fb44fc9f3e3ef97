import Workflow.Proofs.Merge.Kept
import Workflow.Proofs.Merge.Source
import Workflow.Proofs.Reference.Spelling
import Workflow.Proofs.Validation.Grounded

/-!
# What may still go wrong with an accepted plan

Joining renames steps, binds artifacts and removes final steps, and no fragment that is sound by
itself becomes unsound by that: what a single step has to be it stays, since its transitions lead to
steps that are kept, and a circle would have to stay in one fragment, since jumps lead onwards. So
all that is left to go wrong is that the wiring is not clear, or that paths of different fragments
meet.

Main statement: `merge_outcome`.
-/

namespace Workflow

/-- The artifacts of the fragment are bound to steps and fields made of characters of names. -/
def Fragment.HasPlainBindings (fragment : Fragment) : Prop :=
  ∀ artifact binding, fragment.produces.get? artifact = some binding →
    (∀ c ∈ binding.step.toList, Text.isNameChar c = true) ∧
      ∀ c ∈ binding.field.toList, Text.isNameChar c = true

/-! ## References -/

section References

variable {fragments : List Fragment} {fragment : Fragment} {position : Nat} {r : Reference}

theorem isPlain_scopedName {step field : String}
    (hstep : ∀ c ∈ step.toList, Text.isNameChar c = true)
    (hfield : ∀ c ∈ field.toList, Text.isNameChar c = true) (n : Nat) :
    (Reference.output (scopedName step n) field).IsPlain :=
  ⟨fun c hc => (mem_scopedName hc).elim (hstep c) id, hfield⟩

/-- A bound reference leads to an output that is spelled in characters of names. -/
theorem exists_joinedReference (plain : ∀ fragment ∈ fragments, fragment.HasPlainBindings)
    (readable : r.isReadable = true) (bound : IsBound fragments fragment position r) :
    ∃ step field, joinedReference fragments position r = .output step field ∧
      (Reference.output step field).IsPlain := by
  cases r with
  | output step field =>
      obtain ⟨hstep, hfield⟩ := Reference.isPlain_of_isReadable readable
      exact ⟨_, _, rfl, isPlain_scopedName hstep hfield (position + 1)⟩
  | artifact name =>
      obtain ⟨p, binding, _, hoffer⟩ := bound
      obtain ⟨producer, hp, hbinding, _⟩ :=
        (firstOffer?_eq_some_iff fragments name p binding).1 hoffer
      obtain ⟨hstep, hfield⟩ := plain producer (List.mem_of_getElem? hp) name binding hbinding
      refine ⟨scopedName binding.step (p + 1), binding.field, ?_,
        isPlain_scopedName hstep hfield (p + 1)⟩
      rw [joinedReference, hoffer]

theorem isPlain_joinedReference (plain : ∀ fragment ∈ fragments, fragment.HasPlainBindings)
    (readable : r.isReadable = true) (bound : IsBound fragments fragment position r) :
    (joinedReference fragments position r).IsPlain := by
  obtain ⟨step, field, heq, hplain⟩ := exists_joinedReference plain readable bound
  rwa [heq]

theorem joinedReference_ne_artifact (plain : ∀ fragment ∈ fragments, fragment.HasPlainBindings)
    (readable : r.isReadable = true) (bound : IsBound fragments fragment position r)
    (name : String) : joinedReference fragments position r ≠ .artifact name := by
  obtain ⟨step, field, heq, _⟩ := exists_joinedReference plain readable bound
  rw [heq]
  exact Reference.noConfusion

end References

namespace Assembled

variable {schemas : Schemas} {fragments : List Fragment} {dependencies : List Dependency}
  {g : Graph}

/-- No artifact is left in the action of a step. -/
theorem not_artifact_in_action (assembled : Assembled schemas fragments dependencies g)
    (plain : ∀ fragment ∈ fragments, fragment.HasPlainBindings) {i : Nat} {fragment : Fragment}
    {step : Step} (hi : fragments[i]? = some fragment) (hstep : step ∈ fragment.graph.stepList)
    (name : String) :
    .artifact name ∉ (mergedStep fragments dependencies fragment i step).actionReferences := by
  intro hmem
  have readable : ∀ r ∈ step.action.references, r.isReadable = true := fun r hr =>
    Action.isReadable_of_mem_references hr
  have bound : ∀ r ∈ step.action.references, IsBound fragments fragment i r := fun r hr =>
    isBound_of_mem_references assembled.plan hi hstep (List.mem_append_left _ hr)
  have written : ∀ r ∈ step.action.references,
      (r.replacedBy fun r => some (joinedReference fragments i r)).IsPlain := fun r hr =>
    isPlain_joinedReference plain (readable r hr) (bound r hr)
  obtain ⟨r, hr, heq⟩ := Action.exists_of_mem_references_substitute written hmem
  exact joinedReference_ne_artifact plain (readable r hr) (bound r hr) name heq

/-- No artifact is left in the labels of a step. -/
theorem not_artifact_in_label (assembled : Assembled schemas fragments dependencies g)
    (plain : ∀ fragment ∈ fragments, fragment.HasPlainBindings) {i : Nat} {fragment : Fragment}
    {step : Step} (hi : fragments[i]? = some fragment) (hstep : step ∈ fragment.graph.stepList)
    (name : String) :
    .artifact name ∉ (mergedStep fragments dependencies fragment i step).labelReferences := by
  intro hmem
  obtain ⟨joined, hjoined, _, hread⟩ := (mem_step_labelReferences_iff _ _).1 hmem
  rw [mergedStep_labels] at hjoined
  obtain ⟨label, hlabel, rfl⟩ := List.mem_map.1 hjoined
  -- The paths of a condition are no artifacts, so it would be one of the placeholders.
  rcases hread with hread | ⟨_, _, _, _, heq⟩
  · rw [referencesInText_joinedLabel] at hread
    have readable : ∀ r ∈ referencesInText label, r.isReadable = true := fun r hr =>
      isReadable_of_mem_referencesInText hr
    have bound : ∀ r ∈ referencesInText label, IsBound fragments fragment i r := fun r hr =>
      isBound_of_mem_label assembled.plan hi hstep hlabel hr
    have written : ∀ r ∈ referencesInText label,
        (r.replacedBy fun r => some (joinedReference fragments i r)).IsPlain := fun r hr =>
      isPlain_joinedReference plain (readable r hr) (bound r hr)
    obtain ⟨r, hr, heq⟩ := exists_of_mem_referencesInText written hread
    exact joinedReference_ne_artifact plain (readable r hr) (bound r hr) name heq
  · cases heq

/-! ## Shape -/

/-- A path stays in its fragment, where there is such a path, or it leads to a later one. -/
theorem transGen_cases (assembled : Assembled schemas fragments dependencies g) {id last : String}
    (h : Relation.TransGen g.Leads id last) :
    ∃ i x j y, id = scopedName x (i + 1) ∧ last = scopedName y (j + 1) ∧
      (i < j ∨ i = j ∧ ∃ fragment, fragments[i]? = some fragment ∧
        Relation.TransGen fragment.graph.Leads x y) := by
  induction h with
  | single h =>
      obtain ⟨i, x, j, y, hid, hlast, hcases⟩ := assembled.leads_cases h
      refine ⟨i, x, j, y, hid, hlast, hcases.imp_right ?_⟩
      rintro ⟨same, fragment, hi, leads⟩
      exact ⟨same, fragment, hi, .single leads⟩
  | tail _ h ih =>
      obtain ⟨i, x, j, y, hid, hmiddle, hbefore⟩ := ih
      obtain ⟨j', y', k, z, hmiddle', hlast, hthen⟩ := assembled.leads_cases h
      obtain ⟨rfl, hplace⟩ := scopedName_inj (hmiddle.symm.trans hmiddle')
      obtain rfl : j = j' := Nat.succ.inj hplace
      refine ⟨i, x, k, z, hid, hlast, ?_⟩
      rcases hbefore with before | ⟨rfl, fragment, hi, path⟩
      · exact .inl (by omega)
      · rcases hthen with later | ⟨rfl, fragment', hi', leads⟩
        · exact .inl later
        · rw [hi] at hi'
          cases hi'
          exact .inr ⟨rfl, fragment, hi, path.tail leads⟩

/-- Jumps lead onwards, so a circle would be one of a fragment. -/
theorem acyclic (assembled : Assembled schemas fragments dependencies g) : g.Acyclic := by
  intro id circle
  obtain ⟨i, x, j, y, hid, hid', hcases⟩ := assembled.transGen_cases circle
  obtain ⟨rfl, hplace⟩ := scopedName_inj (hid.symm.trans hid')
  rcases hcases with later | ⟨rfl, fragment, hi, path⟩
  · omega
  · obtain ⟨_, wf⟩ := assembled.plan.wellFormed fragment (List.mem_of_getElem? hi)
    exact wf.acyclic x path

/-- The parameters of a tool keep their names, so none that is required is lost. -/
theorem tools_known (assembled : Assembled schemas fragments dependencies g) {i : Nat}
    {fragment : Fragment} {step : Step} (hi : fragments[i]? = some fragment)
    (hstep : step ∈ fragment.graph.stepList) {name : String} {parameters : Fields}
    (h : (mergedStep fragments dependencies fragment i step).action = .tool name parameters) :
    ∃ schema, schemas name = some schema ∧
      ∀ input ∈ schema.inputs, input.required = true → parameters.contains input.name = true := by
  obtain ⟨_, wf⟩ := assembled.plan.wellFormed fragment (List.mem_of_getElem? hi)
  have haction : step.action.substitute (fun r => some (joinedReference fragments i r)) =
      .tool name parameters := h
  exact Action.tool_known_of_substitute (wf.tools_known step hstep) haction

end Assembled

/-- Of the soundness of the fragments the joined graph has all that is said about single steps, and
no circle. -/
theorem grounded_assembledGraph {schemas : Schemas} {fragments : List Fragment}
    {dependencies : List Dependency} (wf : WellFormedPlan schemas fragments dependencies)
    (plain : ∀ fragment ∈ fragments, fragment.HasPlainBindings) :
    ∃ entry, (assembledGraph fragments dependencies).Grounded schemas entry := by
  have assembled := assembled_assembledGraph wf
  obtain ⟨_, entry, _, _, starts, inside⟩ := exists_entry_assembledGraph wf
  have original : ∀ m ∈ (assembledGraph fragments dependencies).stepList,
      ∃ i fragment step, fragments[i]? = some fragment ∧ step ∈ fragment.graph.stepList ∧
        m = mergedStep fragments dependencies fragment i step := by
    intro m hm
    obtain ⟨i, fragment, step, hi, hstep, _, _, rfl⟩ :=
      (assembled.step?_iff _ m).1 ((Graph.mem_stepList_iff _ m).1 hm)
    exact ⟨i, fragment, step, hi, hstep, rfl⟩
  refine ⟨scopedName entry 1, ?_⟩
  exact
    { entry_eq := starts
      contains_entry := inside
      acyclic := assembled.acyclic
      targets_exist := by
        intro m hm last hlast
        obtain ⟨i, fragment, step, hi, hstep, rfl⟩ := original m hm
        rw [mergedStep_targets] at hlast
        obtain ⟨target, htarget, rfl⟩ := List.mem_map.1 hlast
        exact assembled.contains_landing_target hi hstep htarget
      ends_iff_final := by
        intro m hm
        obtain ⟨i, fragment, step, hi, hstep, rfl⟩ := original m hm
        obtain ⟨_, hwf⟩ := wf.wellFormed fragment (List.mem_of_getElem? hi)
        have same := hwf.ends_iff_final step hstep
        rw [← Action.substitute_eq_final_iff step.action] at same
        simpa [mergedStep, Step.redirect, joinedStep] using same
      tools_known := by
        intro m hm name parameters haction
        obtain ⟨i, fragment, step, hi, hstep, rfl⟩ := original m hm
        exact assembled.tools_known hi hstep haction
      no_artifact := by
        intro m hm name
        obtain ⟨i, fragment, step, hi, hstep, rfl⟩ := original m hm
        exact ⟨assembled.not_artifact_in_action plain hi hstep name,
          assembled.not_artifact_in_label plain hi hstep name⟩ }

/-! ## The outcome -/

/-- The kinds of findings that joining an accepted plan cannot bring about. -/
def settledKinds : List ViolationKind :=
  [.duplicateStepId, .unresolvedArtifact, .cycleDetected, .danglingTransition, .terminalMismatch,
    .missingFinalStep, .unknownTool, .missingParameter, .schemaViolation]

theorem settled_critical {v : Violation} (h : v.kind ∈ settledKinds) :
    v.isCritical = true ∧ v.kind ∉ assemblyKinds := by
  rw [Violation.isCritical, Violation.severity]
  generalize v.kind = kind at h ⊢
  cases kind <;> revert h <;> decide

theorem critical_eq_nil_iff (report : Report) :
    report.critical = [] ↔ report.isAccepted = true := by
  simp [Report.critical, Report.isAccepted, List.filter_eq_nil_iff]

/-- An accepted plan is joined unless its wiring fails or the joined graph is rejected. -/
theorem merge_of_isAccepted {schemas : Schemas} {fragments : List Fragment}
    {dependencies : Option (List Dependency)} {edges : List Dependency}
    (hedges : dependencies.getD (deriveDependencies fragments) = edges)
    (accepted : (validatePlan schemas fragments edges).isAccepted = true) :
    merge schemas fragments dependencies =
      if (planWiring fragments edges).failures ≠ [] then
        .error ⟨(planWiring fragments edges).failures⟩
      else if ((assembledGraph fragments edges).validate schemas).isAccepted = true then
        .ok (assembledGraph fragments edges)
      else
        .error (validatePlan schemas fragments edges
          ++ (assembledGraph fragments edges).validate schemas) := by
  have joined := joinSteps_failures (wellFormedPlan_of_isAccepted accepted)
  rw [merge]
  simp only [hedges, accepted, joined, List.nil_append, Bool.not_true, Bool.false_eq_true, if_false,
    Bool.not_eq_true', List.isEmpty_eq_false_iff]
  rfl

/-- Joining an accepted plan succeeds, or it is unclear how to wire it, or its joined graph has
critical findings of the kinds that depend on the paths of all fragments together. -/
theorem merge_outcome {schemas : Schemas} {fragments : List Fragment}
    {dependencies : Option (List Dependency)}
    (accepted : (validatePlan schemas fragments
      (dependencies.getD (deriveDependencies fragments))).isAccepted = true)
    (plain : ∀ fragment ∈ fragments, fragment.HasPlainBindings) :
    (joinSteps fragments).failures = [] ∧
      (∀ v ∈ ((assembledGraph fragments
          (dependencies.getD (deriveDependencies fragments))).validate schemas).violations,
        v.kind ∉ settledKinds) ∧
      ((∃ g, merge schemas fragments dependencies = .ok g) ∨
        ∃ report, merge schemas fragments dependencies = .error report ∧ report.critical ≠ [] ∧
          ((∀ v ∈ report.critical, v.kind = .ambiguousWiring) ∨
            ∀ v ∈ report.critical, v.kind ∈ assemblyKinds)) := by
  generalize hedges : dependencies.getD (deriveDependencies fragments) = edges at accepted ⊢
  have wf := wellFormedPlan_of_isAccepted accepted
  obtain ⟨_, grounded⟩ := grounded_assembledGraph wf plain
  refine ⟨joinSteps_failures wf, fun v hv settled => ?_, ?_⟩
  · obtain ⟨critical, not_assembly⟩ := settled_critical settled
    exact not_assembly (grounded.kind_mem_assemblyKinds hv critical)
  · rw [merge_of_isAccepted hedges accepted]
    split
    · next failing =>
        have kinds : ∀ v ∈ (planWiring fragments edges).failures, v.kind = .ambiguousWiring :=
          fun v hv => kind_of_mem_failures hv
        have all_critical : (Report.mk (planWiring fragments edges).failures).critical =
            (planWiring fragments edges).failures := by
          refine List.filter_eq_self.2 fun v hv => ?_
          rw [Violation.isCritical, Violation.severity, kinds v hv]
          rfl
        refine .inr ⟨_, rfl, ?_, .inl ?_⟩
        · rwa [all_critical]
        · rwa [all_critical]
    · split
      · exact .inl ⟨_, rfl⟩
      · next rejected =>
          refine .inr ⟨_, rfl, ?_, .inr ?_⟩
          · rw [ne_eq, critical_eq_nil_iff, Report.isAccepted_append, accepted, Bool.true_and]
            exact rejected
          · -- The plan itself has no critical findings, so they are those of the graph.
            intro v hv
            obtain ⟨hmem, critical⟩ := List.mem_filter.1 hv
            rcases List.mem_append.1 hmem with hmem | hmem
            · have harmless := (isAccepted_iff_harmless _).1 accepted
              exact absurd critical (harmless.not_critical hmem)
            · exact grounded.kind_mem_assemblyKinds hmem critical

/-! ## Branches that come together -/

/-- A plan whose first fragment goes one of two ways, each with an answer of its own, and whose
second one reads both. -/
def crossroads : List Fragment :=
  [ { name := "choose"
      graph := Graph.ofSteps
        [ ⟨"ask", .reasoning "Left or right?",
            [⟨"ask.response == 'left'", "left"⟩, ⟨"otherwise", "right"⟩], none⟩,
          ⟨"left", .reasoning "What is there on the left?", [⟨"always", "west"⟩], none⟩,
          ⟨"right", .reasoning "What is there on the right?", [⟨"always", "east"⟩], none⟩,
          ⟨"west", .final, [], none⟩, ⟨"east", .final, [], none⟩ ] "ask"
      produces := (Dict.empty.insert "sea" ⟨"left", "response"⟩).insert "land" ⟨"right", "response"⟩
      consumes := [] },
    questionFragment "tell" "Tell of {sea} and {land}." none ["sea", "land"] ]

/-- Both ways lead on to the reader, which is noticed as what it is. -/
theorem crossroads_meet :
    ∃ report, merge (fun _ => none) crossroads none = .error report ∧
      report.critical ≠ [] ∧ ∀ v ∈ report.critical, v.kind ∈ assemblyKinds := by
  have accepted : (validatePlan (fun _ => none) crossroads
      ((none : Option (List Dependency)).getD (deriveDependencies crossroads))).isAccepted =
        true := by
    decide +kernel
  have readable : ∀ fragment ∈ crossroads, ∀ entry ∈ fragment.produces.entries,
      (Reference.output entry.2.step entry.2.field).isReadable = true := by
    decide +kernel
  have plain : ∀ fragment ∈ crossroads, fragment.HasPlainBindings := by
    intro fragment hfragment artifact binding hbinding
    have hentry := (Dict.get?_eq_some_iff _ _ _).1 hbinding
    exact Reference.isPlain_of_isReadable (readable fragment hfragment _ hentry)
  have meets : ((errorOf? (merge (fun _ => none) crossroads none)).any fun report =>
      report.critical.any (·.kind = .branchMergeViolation)) = true := by
    decide +kernel
  obtain ⟨_, _, ⟨g, hg⟩ | ⟨report, hreport, critical, kinds⟩⟩ := merge_outcome accepted plain
  · rw [hg] at meets
    cases meets
  · refine ⟨report, hreport, critical, kinds.resolve_left fun ambiguous => ?_⟩
    rw [hreport, errorOf?, Option.any_some, List.any_eq_true] at meets
    obtain ⟨v, hv, hkind⟩ := meets
    rw [ambiguous v hv] at hkind
    cases hkind

end Workflow
