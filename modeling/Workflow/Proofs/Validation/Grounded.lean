import Workflow.Proofs.Validation.Accepted

/-!
# Graphs made of sound parts

Part of what validation asks of a graph concerns its steps one by one, and that no path goes round
in a circle. A graph that is put together from sound graphs still has that. What may be lost is said
about paths and about all labels of a step at once: that every step is reached, that branches stay
apart, that what is read has been recorded, and that labels differ.

Main statement: `Grounded.kind_mem_assemblyKinds`.
-/

namespace Workflow

/-- The kinds of critical findings that putting sound graphs together can bring about. -/
def assemblyKinds : List ViolationKind :=
  [.unreachableStep, .branchMergeViolation, .invalidReference, .duplicateCondition]

theorem Harmless.not_critical {findings : List Violation} (h : Harmless findings) {v : Violation}
    (hv : v ∈ findings) : v.isCritical ≠ true := by
  rw [h v hv]
  exact Bool.false_ne_true

namespace Graph

/-- What validation asks of the single steps of a graph and of its shape, if not of its paths. -/
structure Grounded (schemas : Schemas) (g : Graph) (entry : String) : Prop where
  entry_eq : g.entry = some entry
  contains_entry : g.contains entry = true
  targets_exist : ∀ step ∈ g.stepList, ∀ target ∈ step.targets, g.contains target = true
  ends_iff_final : ∀ step ∈ g.stepList, (step.transitions = [] ↔ step.action = .final)
  acyclic : g.Acyclic
  tools_known : ∀ step ∈ g.stepList, ∀ name parameters, step.action = .tool name parameters →
    ∃ schema, schemas name = some schema ∧
      ∀ input ∈ schema.inputs, input.required = true → parameters.contains input.name = true
  no_artifact : ∀ step ∈ g.stepList, ∀ name,
    .artifact name ∉ step.actionReferences ∧ .artifact name ∉ step.labelReferences

/-! ## Kinds of findings -/

theorem kind_of_mem_transitionFindings {g : Graph} {id : String} {seen : List String}
    {transitions : List Transition} (targets : ∀ t ∈ transitions, g.contains t.target = true)
    {v : Violation} (h : v ∈ g.transitionFindings id seen transitions) :
    v.kind = .duplicateCondition := by
  induction transitions generalizing seen with
  | nil => cases h
  | cons t rest ih =>
      obtain ⟨here, there⟩ := List.forall_mem_cons.1 targets
      rw [transitionFindings, if_pos here, List.nil_append] at h
      rcases List.mem_append.1 h with h | h
      · split at h
        · rw [List.mem_singleton.1 h]
          rfl
        · cases h
      · exact ih there h

theorem kind_of_mem_branchFindings {id : String} {branches : List (String × List String)}
    {v : Violation} (h : v ∈ branchFindings id branches) : v.kind = .branchMergeViolation := by
  induction branches with
  | nil => cases h
  | cons branch rest ih =>
      obtain ⟨labelA, reachA⟩ := branch
      rcases List.mem_append.1 h with h | h
      · obtain ⟨⟨labelB, reachB⟩, _, h⟩ := List.mem_filterMap.1 h
        dsimp only at h
        split at h <;> cases h
        rfl
      · exact ih h

namespace Grounded

variable {schemas : Schemas} {g : Graph} {entry : String}

/-- A walk that has not come to a final step can go on, and it cannot go on for ever. -/
theorem exists_final (grounded : g.Grounded schemas entry) {first id : String} {walk : List String}
    (w : g.Walk first id walk) :
    ∃ step ∈ g.stepList, step.action = .final ∧ g.Reachable first step.id := by
  induction hleft : g.steps.size - walk.length using Nat.strong_induction_on
    generalizing id walk with
  | _ left ih =>
      obtain ⟨step, hstep⟩ := (contains_iff g id).1 w.contains_last
      have hmem := mem_stepList_of_step? hstep
      by_cases final : step.action = .final
      · refine ⟨step, hmem, final, walk, ?_⟩
        rwa [id_of_step? hstep]
      · have leaves : step.transitions ≠ [] :=
          fun h => final ((grounded.ends_iff_final step hmem).1 h)
        obtain ⟨t, ht⟩ := List.exists_mem_of_ne_nil _ leaves
        have target : t.target ∈ step.targets := List.mem_map_of_mem ht
        have next : t.target ∈ g.successors id := by
          rwa [successors_of_step? hstep]
        have longer := w.step next (grounded.targets_exist step hmem t.target target)
        have bound := longer.length_le grounded.acyclic
        rw [List.length_append, List.length_singleton] at bound
        refine ih _ ?_ longer rfl
        rw [List.length_append, List.length_singleton]
        omega

theorem kind_of_mem_stepFindings (grounded : g.Grounded schemas entry) {step : Step}
    (hstep : step ∈ g.stepList) {v : Violation} (hv : v ∈ g.stepFindings schemas step)
    (critical : v.isCritical = true) : v.kind ∈ assemblyKinds := by
  rcases List.mem_append.1 hv with hv | hv
  · rcases List.mem_append.1 hv with hv | hv
    · have harmless := (harmless_terminalFindings_iff step).2 (grounded.ends_iff_final step hstep)
      exact absurd critical (harmless.not_critical hv)
    · have targets : ∀ t ∈ step.transitions, g.contains t.target = true := fun t ht =>
        grounded.targets_exist step hstep t.target (List.mem_map_of_mem ht)
      rw [kind_of_mem_transitionFindings targets hv]
      decide
  · have harmless :=
      (harmless_actionFindings_iff schemas step).2 (grounded.tools_known step hstep)
    exact absurd critical (harmless.not_critical hv)

theorem kind_of_mem_referenceFindings (grounded : g.Grounded schemas entry) {v : Violation}
    (hv : v ∈ g.referenceFindings schemas (fun _ => false) entry) : v.kind = .invalidReference := by
  obtain ⟨step, hstep, hv⟩ := List.mem_flatMap.1 hv
  obtain ⟨⟨origin, reference⟩, hchecked, hfinding⟩ := List.mem_filterMap.1 hv
  cases reference with
  | output source field => exact kind_of_outputFinding hfinding
  | artifact name =>
      obtain ⟨not_in_action, not_in_label⟩ := grounded.no_artifact step hstep name
      rcases List.mem_append.1 hchecked with h | h
      · obtain ⟨_, hmem, heq⟩ := List.mem_map.1 h
        cases heq
        exact absurd (List.mem_eraseDups.1 hmem) not_in_action
      · obtain ⟨_, hmem, heq⟩ := List.mem_map.1 h
        cases heq
        exact absurd (List.mem_filter.1 hmem).1 not_in_label

/-- What is critical about a graph made of sound parts is one of a few things. -/
theorem kind_mem_assemblyKinds (grounded : g.Grounded schemas entry) {v : Violation}
    (hv : v ∈ (g.validate schemas).violations) (critical : v.isCritical = true) :
    v.kind ∈ assemblyKinds := by
  have starts : g.entry.filter g.contains = some entry := by
    rw [grounded.entry_eq, Option.filter_some, if_pos grounded.contains_entry]
  rw [validate, findings, starts] at hv
  simp only [List.mem_append] at hv
  rcases hv with hv | ((((hv | hv) | hv) | hv) | hv)
  · obtain ⟨step, hstep, hv⟩ := List.mem_flatMap.1 hv
    exact grounded.kind_of_mem_stepFindings hstep hv critical
  · obtain ⟨id, _, rfl⟩ := List.mem_map.1 hv
    show ViolationKind.unreachableStep ∈ assemblyKinds
    decide
  · have harmless := (harmless_cycleFindings_iff g).2 grounded.acyclic
    exact absurd critical (harmless.not_critical hv)
  · obtain ⟨step, _, hv⟩ := List.mem_flatMap.1 hv
    rw [kind_of_mem_branchFindings hv]
    decide
  · rw [grounded.kind_of_mem_referenceFindings hv]
    decide
  · have final := grounded.exists_final (.start grounded.contains_entry)
    have harmless := (harmless_finalFindings_iff g entry).2 final
    exact absurd critical (harmless.not_critical hv)

end Grounded

end Graph

end Workflow
