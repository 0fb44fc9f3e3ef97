import Workflow.Proofs.Graph.Order
import Workflow.Proofs.Graph.Search
import Workflow.Proofs.Validation.WellFormed

/-!
# What validation accepts

Each check has one lemma here, which says what it means that the check finds nothing critical. The
checks of references are stated for the place of the reference; that those of labels are left out
where the action holds the same reference changes nothing, because the rule for actions is stricter.

Main statement: a graph is accepted exactly if it is well formed from its entry.
-/

namespace Workflow

open Violation (Origin)

/-! ## Harmless findings -/

/-- None of the findings is critical. -/
def Harmless (findings : List Violation) : Prop := ∀ v ∈ findings, v.isCritical = false

theorem harmless_nil : Harmless [] := by simp [Harmless]

theorem harmless_append_iff (a b : List Violation) :
    Harmless (a ++ b) ↔ Harmless a ∧ Harmless b := by
  simp only [Harmless, List.mem_append, or_imp, forall_and]

theorem harmless_flatMap_iff {α : Type} (l : List α) (f : α → List Violation) :
    Harmless (l.flatMap f) ↔ ∀ a ∈ l, Harmless (f a) := by
  simp only [Harmless, List.mem_flatMap]
  constructor
  · intro h a ha v hv
    exact h v ⟨a, ha, hv⟩
  · rintro h v ⟨a, ha, hv⟩
    exact h a ha v hv

/-- A critical finding under a condition says that the condition does not hold. -/
theorem harmless_ite_iff {c : Prop} [Decidable c] {v : Violation} (critical : v.isCritical = true) :
    Harmless (if c then [v] else []) ↔ ¬ c := by
  by_cases h : c <;> simp [Harmless, h, critical]

/-- Critical findings for members of a list say that there are no such members. -/
theorem harmless_map_filter_iff {α : Type} {p : α → Bool} {f : α → Violation} (l : List α)
    (critical : ∀ a, (f a).isCritical = true) :
    Harmless ((l.filter p).map f) ↔ ∀ a ∈ l, p a = false := by
  constructor
  · intro h a ha
    cases hp : p a with
    | false => rfl
    | true =>
        have harmless := h (f a) (List.mem_map_of_mem (List.mem_filter.2 ⟨ha, hp⟩))
        rw [critical a] at harmless
        cases harmless
  · intro h v hv
    obtain ⟨a, ha, -⟩ := List.mem_map.1 hv
    obtain ⟨hmem, hp⟩ := List.mem_filter.1 ha
    rw [h a hmem] at hp
    cases hp

/-- A critical finding for some members of a list says that no member gives one. -/
theorem harmless_filterMap_iff {α : Type} {f : α → Option Violation} (l : List α)
    (critical : ∀ a ∈ l, ∀ v, f a = some v → v.isCritical = true) :
    Harmless (l.filterMap f) ↔ ∀ a ∈ l, f a = none := by
  constructor
  · intro h a ha
    cases hf : f a with
    | none => rfl
    | some v =>
        have harmless := h v (List.mem_filterMap.2 ⟨a, ha, hf⟩)
        rw [critical a ha v hf] at harmless
        cases harmless
  · intro h v hv
    obtain ⟨a, ha, hf⟩ := List.mem_filterMap.1 hv
    rw [h a ha] at hf
    cases hf

theorem isAccepted_iff_harmless (report : Report) :
    report.isAccepted = true ↔ Harmless report.violations := by
  simp [Report.isAccepted, Harmless]

/-! ## Steps by themselves -/

theorem harmless_terminalFindings_iff (step : Step) :
    Harmless step.terminalFindings ↔ (step.transitions = [] ↔ step.action = .final) := by
  rw [← Step.isFinal_iff]
  unfold Step.terminalFindings
  cases step.isFinal <;> cases step.transitions <;>
    simp [Harmless, Violation.isCritical, Violation.severity, ViolationKind.severity,
      Violation.finalContinues, Violation.neverTerminates]

theorem harmless_transitionFindings_iff (g : Graph) (id : String) (seen : List String)
    (transitions : List Transition) :
    Harmless (g.transitionFindings id seen transitions) ↔
      (∀ t ∈ transitions, g.contains t.target = true) ∧
        (transitions.map (·.label)).Nodup ∧ ∀ t ∈ transitions, t.label ∉ seen := by
  induction transitions generalizing seen with
  | nil => simp [Graph.transitionFindings, harmless_nil]
  | cons t rest ih =>
      have target : Harmless (if g.contains t.target then [] else [.dangling id t.target]) ↔
          g.contains t.target = true := by
        rw [← ite_not, harmless_ite_iff rfl, not_not]
      rw [Graph.transitionFindings, harmless_append_iff, harmless_append_iff, target,
        harmless_ite_iff rfl, ih]
      simp only [List.map_cons, List.nodup_cons, List.mem_cons, forall_eq_or_imp, List.mem_map,
        not_exists, not_and, not_or, forall_and]
      grind

theorem harmless_actionFindings_iff (schemas : Schemas) (step : Step) :
    Harmless (step.actionFindings schemas) ↔
      ∀ name parameters, step.action = .tool name parameters →
        ∃ schema, schemas name = some schema ∧
          ∀ input ∈ schema.inputs, input.required = true →
            parameters.contains input.name = true := by
  unfold Step.actionFindings
  cases step.action with
  | final => simp [harmless_nil]
  | reasoning prompt =>
      -- An empty prompt is a finding, but not a critical one.
      by_cases h : Text.isBlankText prompt = true <;>
        simp [h, Harmless, Violation.isCritical, Violation.severity, ViolationKind.severity,
          Violation.emptyPrompt]
  | tool name parameters =>
      dsimp only
      cases hs : schemas name with
      | none =>
          simp [hs, Harmless, Violation.isCritical, Violation.severity, ViolationKind.severity,
            Violation.unknownTool]
      | some schema =>
          have unexpected : Harmless ((parameters.keys.filter fun key =>
              !schema.declaresInput key).map fun key =>
                .unexpectedParameter step.id key name) := by
            intro v hv
            obtain ⟨key, _, rfl⟩ := List.mem_map.1 hv
            rfl
          rw [harmless_append_iff, harmless_map_filter_iff _ fun _ => rfl, and_iff_left unexpected]
          simp [hs]

theorem harmless_stepFindings_iff (schemas : Schemas) (g : Graph) (step : Step) :
    Harmless (g.stepFindings schemas step) ↔
      ((step.transitions = [] ↔ step.action = .final) ∧
        (∀ target ∈ step.targets, g.contains target = true) ∧ step.labels.Nodup) ∧
        ∀ name parameters, step.action = .tool name parameters →
          ∃ schema, schemas name = some schema ∧
            ∀ input ∈ schema.inputs, input.required = true →
              parameters.contains input.name = true := by
  rw [Graph.stepFindings, harmless_append_iff, harmless_append_iff, harmless_terminalFindings_iff,
    harmless_transitionFindings_iff, harmless_actionFindings_iff]
  simp [Step.targets, Step.labels]

/-! ## Branches -/

theorem harmless_branchFindings_iff (id : String) (branches : List (String × List String)) :
    Harmless (branchFindings id branches) ↔
      branches.Pairwise fun a b => ∀ shared ∈ a.2, shared ∉ b.2 := by
  induction branches with
  | nil => simp [branchFindings, harmless_nil]
  | cons branch rest ih =>
      obtain ⟨labelA, reachA⟩ := branch
      rw [branchFindings, harmless_append_iff, ih, List.pairwise_cons, harmless_filterMap_iff]
      · simp [List.isEmpty_iff, List.filter_eq_nil_iff]
      · rintro ⟨labelB, reachB⟩ _ v hv
        dsimp only at hv
        split at hv
        · cases hv
        · cases hv
          rfl

theorem harmless_isolationFindings_iff (g : Graph) :
    Harmless g.isolationFindings ↔
      ∀ step ∈ g.stepList,
        step.targets.Pairwise fun a b => ∀ id, g.Reachable a id → ¬ g.Reachable b id := by
  have branches_iff : ∀ step : Step, Harmless (branchFindings step.id (g.branches step)) ↔
      step.targets.Pairwise fun a b => ∀ id, g.Reachable a id → ¬ g.Reachable b id := by
    intro step
    rw [harmless_branchFindings_iff, Graph.branches, Step.targets, List.pairwise_map,
      List.pairwise_filter, List.pairwise_map]
    simp only [Graph.mem_reachable_iff]
    -- A target that does not exist reaches nothing, so leaving it out changes nothing.
    refine List.Pairwise.iff ?_
    intro a b
    constructor
    · intro h id ha hb
      exact h ha.contains_first hb.contains_first id ha hb
    · intro h _ _ id ha hb
      exact h id ha hb
  rw [Graph.isolationFindings, harmless_flatMap_iff]
  constructor
  · intro h step hstep
    by_cases branching : step.isBranchPoint = true
    · exact (branches_iff step).1 (h step (List.mem_filter.2 ⟨hstep, branching⟩))
    · have short : step.targets.length ≤ 1 := by
        simp only [Step.isBranchPoint, decide_eq_true_eq] at branching
        simp only [Step.targets, List.length_map]
        omega
      match step.targets, short with
      | [], _ => exact .nil
      | [_], _ => exact List.pairwise_singleton _ _
  · intro h step hstep
    exact (branches_iff step).2 (h step (List.mem_filter.1 hstep).1)

/-! ## References -/

theorem Step.Writes.produces {schemas : Schemas} {step : Step} {field : String}
    (h : step.Writes schemas field) : step.produces schemas field = true := by
  unfold Step.Writes at h
  unfold Step.produces
  cases hact : step.action with
  | final => simp [hact] at h
  | reasoning prompt => simpa [hact] using h
  | tool name parameters =>
      simp only [hact] at h
      obtain ⟨schema, hschema, hfield⟩ := h
      simp [hschema, ToolSchema.declaresOutput, hfield]

/-- Of tools that are all known, only declared outputs count. -/
theorem Step.writes_of_produces {schemas : Schemas} {step : Step} {field : String}
    (known : ∀ name parameters, step.action = .tool name parameters →
      ∃ schema, schemas name = some schema)
    (h : step.produces schemas field = true) : step.Writes schemas field := by
  unfold Step.produces at h
  unfold Step.Writes
  cases hact : step.action with
  | final => simp [hact] at h
  | reasoning prompt => simpa [hact] using h
  | tool name parameters =>
      obtain ⟨schema, hschema⟩ := known name parameters hact
      simp only [hact, hschema, ToolSchema.declaresOutput, decide_eq_true_eq] at h
      exact ⟨schema, hschema, h⟩

/-- A step is bypassed exactly if some path from the entry leaves it out. -/
theorem Graph.bypasses_iff (g : Graph) (entry source step : String) :
    g.bypasses entry source step = true ↔ ∃ walk, g.Walk entry step walk ∧ source ∉ walk := by
  simp only [Graph.bypasses, Bool.and_eq_true, List.contains_iff_mem, decide_eq_true_eq,
    Graph.mem_reachable_iff, Graph.mem_reachableAvoiding_iff_walk, ne_eq, Option.some.injEq]
  constructor
  · rintro ⟨_, walk, w, free⟩
    exact ⟨walk, w, fun hmem => free source hmem rfl⟩
  · rintro ⟨walk, w, free⟩
    refine ⟨⟨?_, walk, w⟩, walk, w, ?_⟩
    · intro heq
      exact free (heq ▸ w.first_mem)
    · intro passed hp heq
      exact free (heq ▸ hp)

section References

variable (schemas : Schemas) (g : Graph) (entry : String) (step : Step)

/-- A step can refer to a field if a step writes it that no path to the referring step leaves out;
an action cannot refer to its own step. -/
theorem Graph.outputFinding_eq_none_iff (origin : Origin) (source field : String) :
    g.outputFinding schemas entry step origin source field = none ↔
      ¬ (source = step.id ∧ origin = .action) ∧
        (∃ producer, g.step? source = some producer ∧ producer.produces schemas field = true) ∧
        ∀ walk, g.Walk entry step.id walk → source ∈ walk := by
  have passed_iff : ¬ (source ≠ step.id ∧ g.bypasses entry source step.id = true) ↔
      ∀ walk, g.Walk entry step.id walk → source ∈ walk := by
    rw [Graph.bypasses_iff]
    constructor
    · intro h walk w
      by_contra free
      refine h ⟨?_, walk, w, free⟩
      intro heq
      exact free (heq ▸ w.last_mem)
    · rintro h ⟨_, walk, w, free⟩
      exact free (h walk w)
  unfold Graph.outputFinding
  cases hp : g.step? source with
  | none => simp
  | some producer =>
      dsimp only
      rw [← passed_iff]
      by_cases own : source = step.id ∧ origin = .action
      · simp [own]
      · by_cases bypassed : source ≠ step.id ∧ g.bypasses entry source step.id = true
        · simp [bypassed]
        · cases written : producer.produces schemas field <;> simp [own, bypassed, written]

variable {schemas g entry step} in
/-- Whatever is wrong with a reference to an output, it is reported as one kind of finding. -/
theorem Graph.kind_of_outputFinding {origin : Origin} {source field : String} {v : Violation}
    (h : g.outputFinding schemas entry step origin source field = some v) :
    v.kind = .invalidReference := by
  unfold Graph.outputFinding at h
  split at h
  · cases h
    rfl
  · split at h
    · cases h
      rfl
    · split at h
      · cases h
        rfl
      · split at h <;> cases h
        rfl

theorem Graph.isCritical_of_referenceFinding (allowed : String → Bool) {origin : Origin}
    {reference : Reference} {v : Violation}
    (h : g.referenceFinding schemas allowed entry step origin reference = some v) :
    v.isCritical = true := by
  cases reference with
  | artifact name =>
      simp only [Graph.referenceFinding] at h
      split at h <;> cases h
      rfl
  | output source field =>
      rw [Violation.isCritical, Violation.severity, Graph.kind_of_outputFinding h]
      rfl

/-- A reference that the action may hold, a label may hold too. -/
theorem Graph.referenceFinding_label (allowed : String → Bool) (reference : Reference)
    (h : g.referenceFinding schemas allowed entry step .action reference = none) :
    g.referenceFinding schemas allowed entry step .label reference = none := by
  cases reference with
  | artifact name =>
      simp only [Graph.referenceFinding] at h ⊢
      split at h <;> simp_all
  | output source field =>
      obtain ⟨_, written, passed⟩ :=
        (Graph.outputFinding_eq_none_iff schemas g entry step .action source field).1 h
      refine (Graph.outputFinding_eq_none_iff schemas g entry step .label source field).2 ?_
      exact ⟨by simp, written, passed⟩

theorem Graph.harmless_referenceFindings_iff (allowed : String → Bool) :
    Harmless (g.referenceFindings schemas allowed entry) ↔
      ∀ step ∈ g.stepList,
        (∀ reference ∈ step.actionReferences,
          g.referenceFinding schemas allowed entry step .action reference = none) ∧
        ∀ reference ∈ step.labelReferences,
          g.referenceFinding schemas allowed entry step .label reference = none := by
  rw [Graph.referenceFindings, harmless_flatMap_iff]
  refine forall_congr' fun step => forall_congr' fun _ => ?_
  rw [harmless_filterMap_iff _ fun _ _ _ h =>
    Graph.isCritical_of_referenceFinding schemas g entry step allowed h]
  simp only [Step.checkedReferences, List.mem_append, List.mem_map, List.mem_eraseDups,
    List.mem_filter, decide_eq_true_eq]
  constructor
  · intro h
    have action : ∀ reference ∈ step.actionReferences,
        g.referenceFinding schemas allowed entry step .action reference = none :=
      fun reference hr => h (.action, reference) (.inl ⟨reference, hr, rfl⟩)
    refine ⟨action, fun reference hr => ?_⟩
    by_cases both : reference ∈ step.actionReferences
    · exact Graph.referenceFinding_label schemas g entry step allowed reference
        (action reference both)
    · exact h (.label, reference) (.inr ⟨reference, ⟨hr, both⟩, rfl⟩)
  · rintro ⟨action, label⟩ _ (⟨reference, hr, rfl⟩ | ⟨reference, ⟨hr, _⟩, rfl⟩)
    · exact action reference hr
    · exact label reference hr

end References

/-! ## The graph as a whole -/

theorem harmless_unreachableFindings_iff (g : Graph) (entry : String) :
    Harmless (g.unreachableFindings entry) ↔
      ∀ id, g.contains id = true → g.Reachable entry id := by
  rw [Graph.unreachableFindings, harmless_map_filter_iff _ fun _ => rfl]
  simp [Graph.mem_ids_iff, Graph.mem_reachable_iff]

theorem harmless_cycleFindings_iff (g : Graph) : Harmless g.cycleFindings ↔ g.Acyclic := by
  rw [← Graph.exists_topologicalIds_iff, Graph.cycleFindings]
  cases h : g.topologicalIds with
  | ok order => simp [harmless_nil]
  | error e =>
      obtain ⟨left, rfl⟩ := Graph.topologicalIds_eq_error h
      simp [Harmless, Violation.isCritical, Violation.severity, ViolationKind.severity,
        Violation.cycle]

theorem harmless_finalFindings_iff (g : Graph) (entry : String) :
    Harmless (g.finalFindings entry) ↔
      ∃ step ∈ g.stepList, step.action = .final ∧ g.Reachable entry step.id := by
  rw [Graph.finalFindings, ← ite_not, harmless_ite_iff rfl, not_not, List.any_eq_true]
  constructor
  · rintro ⟨step, hmem, final⟩
    obtain ⟨id, hid, hstep⟩ := List.mem_filterMap.1 hmem
    refine ⟨step, Graph.mem_stepList_of_step? hstep, (Step.isFinal_iff step).1 final, ?_⟩
    rw [Graph.id_of_step? hstep]
    exact (Graph.mem_reachable_iff g entry id).1 hid
  · rintro ⟨step, hmem, final, reached⟩
    refine ⟨step, List.mem_filterMap.2 ⟨step.id, ?_, ?_⟩, (Step.isFinal_iff step).2 final⟩
    · exact (Graph.mem_reachable_iff g entry step.id).2 reached
    · exact (Graph.mem_stepList_iff g step).1 hmem

/-- A graph without critical findings has an entry, and none of its checks finds
anything critical. -/
theorem harmless_findings_iff (schemas : Schemas) (allowed : String → Bool) (g : Graph) :
    Harmless (g.findings schemas allowed) ↔
      (∀ step ∈ g.stepList, Harmless (g.stepFindings schemas step)) ∧
        ∃ entry, g.entry = some entry ∧ g.contains entry = true ∧
          Harmless (g.unreachableFindings entry) ∧ Harmless g.cycleFindings ∧
          Harmless g.isolationFindings ∧
          Harmless (g.referenceFindings schemas allowed entry) ∧
          Harmless (g.finalFindings entry) := by
  rw [Graph.findings, harmless_append_iff, harmless_flatMap_iff]
  refine and_congr_right fun _ => ?_
  cases hentry : g.entry.filter g.contains with
  | none =>
      refine iff_of_false ?_ ?_
      · intro harmless
        cases harmless .noEntry (List.mem_singleton_self _)
      · rintro ⟨entry, hsome, hin, _⟩
        simp [hsome, hin] at hentry
  | some entry =>
      obtain ⟨hsome, hin⟩ := Option.filter_eq_some_iff.1 hentry
      simp only [harmless_append_iff, and_assoc]
      constructor
      · intro checks
        exact ⟨entry, hsome, hin, checks⟩
      · rintro ⟨entry', hsome', _, checks⟩
        obtain rfl : entry = entry' := Option.some.inj (hsome.symm.trans hsome')
        exact checks

namespace Graph

variable {schemas : Schemas} {g : Graph}

/-- An accepted graph is well formed from its entry. -/
theorem wellFormed_of_isAccepted (h : (g.validate schemas).isAccepted = true) :
    ∃ entry, g.entry = some entry ∧ g.WellFormed schemas entry := by
  obtain ⟨steps, entry, hentry, _, unreachable, cycle, isolation, references, finals⟩ :=
    (harmless_findings_iff schemas (fun _ => false) g).1 ((isAccepted_iff_harmless _).1 h)
  have by_step := fun step hstep =>
    (harmless_stepFindings_iff schemas g step).1 (steps step hstep)
  have by_reference :=
    (harmless_referenceFindings_iff schemas g entry fun _ => false).1 references
  have known : ∀ step ∈ g.stepList, ∀ name parameters, step.action = .tool name parameters →
      ∃ schema, schemas name = some schema := by
    intro step hstep name parameters hact
    obtain ⟨schema, hschema, _⟩ := (by_step step hstep).2 name parameters hact
    exact ⟨schema, hschema⟩
  -- Since all tools are known, a field that is let through is one that its step writes.
  have supplies : ∀ step origin source field,
      g.outputFinding schemas entry step origin source field = none →
        g.Supplies schemas entry source field step.id := by
    intro step origin source field hnone
    obtain ⟨_, ⟨producer, hp, hw⟩, passed⟩ :=
      (outputFinding_eq_none_iff schemas g entry step origin source field).1 hnone
    have written := Step.writes_of_produces (known producer (mem_stepList_of_step? hp)) hw
    exact ⟨⟨producer, hp, written⟩, passed⟩
  refine ⟨entry, hentry, ?_⟩
  exact
    { reached := (harmless_unreachableFindings_iff g entry).1 unreachable
      targets_exist := fun step hstep => (by_step step hstep).1.2.1
      ends_iff_final := fun step hstep => (by_step step hstep).1.1
      labels_nodup := fun step hstep => (by_step step hstep).1.2.2
      acyclic := (harmless_cycleFindings_iff g).1 cycle
      isolated := (harmless_isolationFindings_iff g).1 isolation
      tools_known := fun step hstep => (by_step step hstep).2
      no_artifact := by
        intro step hstep name
        refine ⟨fun hmem => ?_, fun label hlabel reads => ?_⟩
        · cases (by_reference step hstep).1 _ hmem
        · have hmem := (mem_step_labelReferences_iff step _).2 ⟨label, hlabel, reads⟩
          cases (by_reference step hstep).2 _ hmem
      action_supplied := by
        intro step hstep source field hmem
        have hnone := (by_reference step hstep).1 _ hmem
        refine ⟨fun own => ?_, supplies step .action source field hnone⟩
        exact ((outputFinding_eq_none_iff schemas g entry step .action source field).1 hnone).1
          ⟨own, rfl⟩
      label_supplied := by
        intro step hstep label hlabel source field reads
        have hmem := (mem_step_labelReferences_iff step _).2 ⟨label, hlabel, reads⟩
        exact supplies step .label source field ((by_reference step hstep).2 _ hmem)
      final_reached := (harmless_finalFindings_iff g entry).1 finals }

/-- A graph that is well formed from its entry is accepted. -/
theorem isAccepted_of_wellFormed {entry : String} (hentry : g.entry = some entry)
    (wf : g.WellFormed schemas entry) : (g.validate schemas).isAccepted = true := by
  rw [isAccepted_iff_harmless]
  refine (harmless_findings_iff schemas (fun _ => false) g).2
    ⟨?_, entry, hentry, wf.contains_entry, ?_, ?_, ?_, ?_, ?_⟩
  · intro step hstep
    exact (harmless_stepFindings_iff schemas g step).2
      ⟨⟨wf.ends_iff_final step hstep, wf.targets_exist step hstep, wf.labels_nodup step hstep⟩,
        wf.tools_known step hstep⟩
  · exact (harmless_unreachableFindings_iff g entry).2 wf.reached
  · exact (harmless_cycleFindings_iff g).2 wf.acyclic
  · exact (harmless_isolationFindings_iff g).2 wf.isolated
  · refine (harmless_referenceFindings_iff schemas g entry fun _ => false).2 fun step hstep => ?_
    have lets : ∀ origin source field, g.Supplies schemas entry source field step.id →
        ¬ (source = step.id ∧ origin = .action) →
          g.outputFinding schemas entry step origin source field = none := by
      rintro origin source field ⟨⟨producer, hp, hw⟩, passed⟩ foreign
      exact (outputFinding_eq_none_iff schemas g entry step origin source field).2
        ⟨foreign, ⟨producer, hp, hw.produces⟩, passed⟩
    refine ⟨fun reference hmem => ?_, fun reference hmem => ?_⟩
    · cases reference with
      | artifact name => exact absurd hmem (wf.no_artifact step hstep name).1
      | output source field =>
          obtain ⟨foreign, supplied⟩ := wf.action_supplied step hstep source field hmem
          exact lets .action source field supplied fun own => foreign own.1
    · obtain ⟨label, hlabel, reads⟩ := (mem_step_labelReferences_iff step reference).1 hmem
      cases reference with
      | artifact name => exact absurd reads ((wf.no_artifact step hstep name).2 label hlabel)
      | output source field =>
          have supplied := wf.label_supplied step hstep label hlabel source field reads
          exact lets .label source field supplied (by simp)
  · exact (harmless_finalFindings_iff g entry).2 wf.final_reached

/-- Validation accepts a graph exactly if an entry is set from which the graph is well formed. -/
theorem isAccepted_iff_wellFormed (schemas : Schemas) (g : Graph) :
    (g.validate schemas).isAccepted = true ↔
      ∃ entry, g.entry = some entry ∧ g.WellFormed schemas entry := by
  constructor
  · exact wellFormed_of_isAccepted
  · rintro ⟨entry, hentry, wf⟩
    exact isAccepted_of_wellFormed hentry wf

end Graph

/-! ## A weather service -/

/-- A tool that gives the temperature in a city. -/
def forecastSchemas : Schemas
  | "weather" => some ⟨"weather", "", [⟨"city", true⟩], ["temperature"]⟩
  | _ => none

/-- Asks for the temperature, and words a warning if it is high. -/
def forecastSteps : List Step :=
  [ ⟨"ask", .tool "weather" (Dict.empty.insert "city" (.text "Oslo")),
      [⟨"ask.temperature > 25", "warn"⟩, ⟨"otherwise", "quiet"⟩], none⟩,
    ⟨"quiet", .final, [], none⟩,
    ⟨"warn", .reasoning "It is \x7bask.temperature\x7d degrees.", [⟨"always", "end"⟩], none⟩,
    ⟨"end", .final, [], none⟩ ]

/-- A graph with a branch in which both the labels and a prompt read what a tool gave. -/
def forecast : Graph where
  steps := Dict.ofList (forecastSteps.map fun step => (step.id, step))
  entry := some "ask"
  info := .empty
  keyed := by decide +kernel

theorem forecast_isAccepted : (forecast.validate forecastSchemas).isAccepted = true := by
  decide +kernel

end Workflow
