import Mathlib.Data.List.Basic
import Mathlib.Data.List.Nodup
import Workflow.Proofs.Dict
import Workflow.Proofs.Validation.Accepted
import Workflow.Validation.Plan

/-!
# Accepted plans

What a plan is in which validation finds nothing critical: each fragment is a graph that can be
walked from its entry, what a fragment reads is offered at or before it, and dependencies lead
forward from a fragment that offers the artifact. Fragments are told apart by their positions in the
plan; since their names differ, a name stands for one position.

Main statements: `wellFormedPlan_of_isAccepted` and `fragmentPosition?_eq_some_iff`.
-/

namespace Workflow

/-! ## One fragment -/

/-- What validation makes sure of in a fragment that starts at `entry`. -/
structure Fragment.WellFormed (schemas : Schemas) (fragment : Fragment) (entry : String) :
    Prop where
  entry_eq : fragment.graph.entry = some entry
  contains_entry : fragment.graph.contains entry = true
  reached : ∀ id, fragment.graph.contains id = true → fragment.graph.Reachable entry id
  targets_exist : ∀ step ∈ fragment.graph.stepList, ∀ target ∈ step.targets,
    fragment.graph.contains target = true
  ends_iff_final : ∀ step ∈ fragment.graph.stepList,
    (step.transitions = [] ↔ step.action = .final)
  acyclic : fragment.graph.Acyclic
  tools_known : ∀ step ∈ fragment.graph.stepList, ∀ name parameters,
    step.action = .tool name parameters → ∃ schema, schemas name = some schema ∧
      ∀ input ∈ schema.inputs, input.required = true → parameters.contains input.name = true
  action_source : ∀ step ∈ fragment.graph.stepList, ∀ source field,
    .output source field ∈ step.actionReferences → fragment.graph.contains source = true
  label_source : ∀ step ∈ fragment.graph.stepList, ∀ source field,
    .output source field ∈ step.labelReferences → fragment.graph.contains source = true
  /-- What is offered under a name is a field that a step writes. -/
  bound : ∀ artifact binding, fragment.produces.get? artifact = some binding →
    ∃ step, fragment.graph.step? binding.step = some step ∧
      step.produces schemas binding.field = true

theorem harmless_map_within_iff (fragment : String) (findings : List Violation) :
    Harmless (findings.map (Violation.within fragment)) ↔ Harmless findings := by
  simp only [Harmless, List.mem_map, forall_exists_index, and_imp, forall_apply_eq_imp_iff₂]
  rfl

theorem Fragment.bindingFinding_eq_none_iff (schemas : Schemas) (fragment : Fragment)
    (artifact : String) (binding : ArtifactBinding) :
    fragment.bindingFinding schemas artifact binding = none ↔
      ∃ step, fragment.graph.step? binding.step = some step ∧
        step.produces schemas binding.field = true := by
  unfold Fragment.bindingFinding
  cases fragment.graph.step? binding.step with
  | none => simp
  | some step => simp

theorem Fragment.isCritical_of_bindingFinding {schemas : Schemas} {fragment : Fragment}
    {artifact : String} {binding : ArtifactBinding} {v : Violation}
    (h : fragment.bindingFinding schemas artifact binding = some v) : v.isCritical = true := by
  unfold Fragment.bindingFinding at h
  split at h
  · split at h <;> cases h
    rfl
  · cases h
    rfl

theorem Fragment.wellFormed_of_harmless {schemas : Schemas} {fragment : Fragment}
    (h : Harmless (fragment.findings schemas)) : ∃ entry, fragment.WellFormed schemas entry := by
  rw [Fragment.findings, harmless_map_within_iff, harmless_append_iff,
    harmless_filterMap_iff _ fun _ _ _ found => Fragment.isCritical_of_bindingFinding found] at h
  obtain ⟨graph, bindings⟩ := h
  obtain ⟨steps, entry, hentry, hin, unreachable, cycle, _, references, _⟩ :=
    (harmless_findings_iff schemas _ fragment.graph).1 graph
  have by_step := fun step hstep =>
    (harmless_stepFindings_iff schemas fragment.graph step).1 (steps step hstep)
  have by_reference :=
    (Graph.harmless_referenceFindings_iff schemas fragment.graph entry _).1 references
  have source_exists : ∀ {step origin source field},
      fragment.graph.outputFinding schemas entry step origin source field = none →
        fragment.graph.contains source = true := by
    intro step origin source field hnone
    obtain ⟨_, ⟨producer, hp, _⟩, _⟩ :=
      (Graph.outputFinding_eq_none_iff schemas _ entry step origin source field).1 hnone
    exact (Graph.contains_iff _ source).2 ⟨producer, hp⟩
  refine ⟨entry, ?_⟩
  exact
    { entry_eq := hentry
      contains_entry := hin
      reached := (harmless_unreachableFindings_iff fragment.graph entry).1 unreachable
      targets_exist := fun step hstep => (by_step step hstep).1.2.1
      ends_iff_final := fun step hstep => (by_step step hstep).1.1
      acyclic := (harmless_cycleFindings_iff fragment.graph).1 cycle
      tools_known := fun step hstep => (by_step step hstep).2
      action_source := fun step hstep source field hmem =>
        source_exists ((by_reference step hstep).1 _ hmem)
      label_source := fun step hstep source field hmem =>
        source_exists ((by_reference step hstep).2 _ hmem)
      bound := fun artifact binding hbound =>
        (Fragment.bindingFinding_eq_none_iff schemas fragment artifact binding).1
          (bindings _ ((Dict.get?_eq_some_iff _ _ _).1 hbound)) }

/-! ## Fragments one by one -/

theorem harmless_fragmentFindings_iff (schemas : Schemas) (names : List String)
    (fragments : List Fragment) :
    Harmless (fragmentFindings schemas names fragments) ↔
      (fragments.map (·.name)).Nodup ∧ (∀ fragment ∈ fragments, fragment.name ∉ names) ∧
        ∀ fragment ∈ fragments, Harmless (fragment.findings schemas) := by
  induction fragments generalizing names with
  | nil => simp [fragmentFindings, harmless_nil]
  | cons fragment rest ih =>
      rw [fragmentFindings, harmless_append_iff, harmless_append_iff, harmless_ite_iff rfl, ih]
      simp only [List.map_cons, List.nodup_cons, List.mem_cons, forall_eq_or_imp, List.mem_map,
        not_exists, not_and, not_or, forall_and]
      grind

/-! ## What is read and what is offered -/

/-- The fragment declares to read the artifact, or one of its steps refers to it. -/
def Fragment.Reads (fragment : Fragment) (artifact : String) : Prop :=
  artifact ∈ fragment.consumes ∨
    ∃ step ∈ fragment.graph.stepList, .artifact artifact ∈ step.references

theorem Fragment.reads_iff (fragment : Fragment) (artifact : String) :
    fragment.Reads artifact ↔ artifact ∈ fragment.consumedArtifacts := by
  have artifact_iff : ∀ r : Reference, r.artifact? = some artifact ↔ r = .artifact artifact := by
    rintro (_ | _) <;> simp [Reference.artifact?]
  simp only [Fragment.consumedArtifacts, Fragment.referencedArtifacts, mem_sortedNames_iff,
    List.mem_append, List.mem_flatMap, List.mem_filterMap, artifact_iff, exists_eq_right]
  exact or_comm

/-- A fragment reads the artifacts that occur in its steps. -/
theorem Fragment.mem_consumedArtifacts {fragment : Fragment} {step : Step} {artifact : String}
    (hstep : step ∈ fragment.graph.stepList) (h : .artifact artifact ∈ step.references) :
    artifact ∈ fragment.consumedArtifacts :=
  (fragment.reads_iff artifact).1 (.inr ⟨step, hstep, h⟩)

/-- What nobody reads is only warned about. -/
theorem harmless_productionFindings (fragments : List Fragment) :
    Harmless (productionFindings fragments) := by
  induction fragments with
  | nil => exact harmless_nil
  | cons fragment rest ih =>
      refine (harmless_append_iff _ _).2 ⟨fun v hv => ?_, ih⟩
      obtain ⟨_, _, rfl⟩ := List.mem_map.1 hv
      rfl

/-- Every fragment reads only what is offered up to it, by it or by one before. -/
theorem harmless_consumptionFindings_iff (earlier fragments : List Fragment) :
    Harmless (consumptionFindings earlier fragments) ↔
      ∀ i fragment, fragments[i]? = some fragment → ∀ artifact ∈ fragment.consumedArtifacts,
        ∃ producer ∈ earlier ++ fragments.take (i + 1),
          producer.producesArtifact artifact = true := by
  induction fragments generalizing earlier with
  | nil => simp [consumptionFindings, harmless_nil]
  | cons fragment rest ih =>
      rw [consumptionFindings, harmless_append_iff, harmless_map_filter_iff _ fun _ => rfl, ih]
      simp only [Bool.not_eq_false', List.any_eq_true]
      constructor
      · rintro ⟨here, there⟩ i reader hi
        cases i with
        | zero =>
            obtain rfl : fragment = reader := by simpa using hi
            simpa using here
        | succ i => simpa using there i reader (by simpa using hi)
      · intro h
        refine ⟨by simpa using h 0 fragment (by simp), fun i reader hi => ?_⟩
        simpa using h (i + 1) reader (by simpa using hi)

/-! ## Positions -/

theorem getElem?_of_fragmentPosition? {fragments : List Fragment} {name : String} {p : Nat}
    (h : fragmentPosition? fragments name = some p) :
    ∃ fragment, fragments[p]? = some fragment ∧ fragment.name = name := by
  obtain ⟨⟨fragment, q⟩, hfind, rfl⟩ := Option.map_eq_some_iff.1 h
  have hmem := List.mem_reverse.1 (List.mem_of_find?_eq_some hfind)
  exact ⟨fragment, List.mem_zipIdx_iff_getElem?.1 hmem, by simpa using List.find?_some hfind⟩

/-- Fragments with one name are at one position. -/
theorem eq_of_getElem?_name {fragments : List Fragment}
    (nodup : (fragments.map (·.name)).Nodup) {p q : Nat} {a b : Fragment}
    (ha : fragments[p]? = some a) (hb : fragments[q]? = some b) (h : a.name = b.name) : p = q := by
  obtain ⟨hp, -⟩ := List.getElem?_eq_some_iff.1 ha
  refine (List.getElem?_inj (by simpa using hp) nodup).1 ?_
  rw [List.getElem?_map, List.getElem?_map, ha, hb, Option.map_some, Option.map_some, h]

theorem fragmentPosition?_eq_some_iff {fragments : List Fragment}
    (nodup : (fragments.map (·.name)).Nodup) (name : String) (p : Nat) :
    fragmentPosition? fragments name = some p ↔
      ∃ fragment, fragments[p]? = some fragment ∧ fragment.name = name := by
  refine ⟨getElem?_of_fragmentPosition?, ?_⟩
  rintro ⟨fragment, hp, rfl⟩
  cases h : fragmentPosition? fragments fragment.name with
  | some q =>
      obtain ⟨other, hq, hname⟩ := getElem?_of_fragmentPosition? h
      rw [eq_of_getElem?_name nodup hq hp hname]
  | none =>
      have none_found := List.find?_eq_none.1 (Option.map_eq_none_iff.1 h) (fragment, p)
        (List.mem_reverse.2 (List.mem_zipIdx_iff_getElem?.2 hp))
      simp at none_found

theorem harmless_dependencyFindings_iff (fragments : List Fragment) (d : Dependency) :
    Harmless (dependencyFindings fragments d) ↔
      ∃ p c, fragmentPosition? fragments d.producer = some p ∧
        fragmentPosition? fragments d.consumer = some c ∧ p < c ∧
        (fragments[p]?).any (·.producesArtifact d.artifact) = true := by
  unfold dependencyFindings
  cases hp : fragmentPosition? fragments d.producer with
  | none => exact iff_of_false (fun h => by cases h _ (List.mem_singleton_self _)) (by simp)
  | some p =>
      cases hc : fragmentPosition? fragments d.consumer with
      | none => exact iff_of_false (fun h => by cases h _ (List.mem_singleton_self _)) (by simp)
      | some c =>
          dsimp only
          rw [harmless_append_iff, harmless_ite_iff rfl, ← ite_not, harmless_ite_iff rfl, not_not,
            Nat.not_le]
          simp

/-! ## The plan -/

/-- What validation makes sure of in a plan. -/
structure WellFormedPlan (schemas : Schemas) (fragments : List Fragment)
    (dependencies : List Dependency) : Prop where
  nonempty : fragments ≠ []
  names_nodup : (fragments.map (·.name)).Nodup
  wellFormed : ∀ fragment ∈ fragments, ∃ entry, fragment.WellFormed schemas entry
  offered : ∀ (i : Nat) (fragment : Fragment), fragments[i]? = some fragment →
    ∀ artifact ∈ fragment.consumedArtifacts, ∃ (p : Nat) (producer : Fragment), p ≤ i ∧
      fragments[p]? = some producer ∧ producer.producesArtifact artifact = true
  ordered : ∀ d ∈ dependencies, ∃ (p : Nat) (producer : Fragment) (c : Nat) (consumer : Fragment),
    p < c ∧
    fragments[p]? = some producer ∧ producer.name = d.producer ∧
    fragments[c]? = some consumer ∧ consumer.name = d.consumer ∧
    producer.producesArtifact d.artifact = true

theorem wellFormedPlan_of_isAccepted {schemas : Schemas} {fragments : List Fragment}
    {dependencies : List Dependency}
    (h : (validatePlan schemas fragments dependencies).isAccepted = true) :
    WellFormedPlan schemas fragments dependencies := by
  rw [isAccepted_iff_harmless, validatePlan] at h
  split at h
  · cases h _ (List.mem_singleton_self _)
  · next nonempty =>
      rw [harmless_append_iff, harmless_append_iff, harmless_append_iff,
        harmless_fragmentFindings_iff, harmless_consumptionFindings_iff, harmless_flatMap_iff] at h
      obtain ⟨⟨⟨⟨nodup, _, fragments_harmless⟩, consumption⟩, _⟩, dependencies_harmless⟩ := h
      refine
        { nonempty := fun hnil => nonempty (by simp [hnil])
          names_nodup := nodup
          wellFormed := fun fragment hmem =>
            Fragment.wellFormed_of_harmless (fragments_harmless fragment hmem)
          offered := ?_
          ordered := ?_ }
      · intro i fragment hi artifact hread
        obtain ⟨producer, hmem, offers⟩ := consumption i fragment hi artifact hread
        obtain ⟨p, hp⟩ := List.mem_iff_getElem?.1 hmem
        rw [List.nil_append, List.getElem?_take] at hp
        split at hp
        · exact ⟨p, producer, by omega, hp, offers⟩
        · cases hp
      · intro d hd
        obtain ⟨p, c, hp, hc, before, offers⟩ :=
          (harmless_dependencyFindings_iff fragments d).1 (dependencies_harmless d hd)
        obtain ⟨producer, hproducer, name_producer⟩ := getElem?_of_fragmentPosition? hp
        obtain ⟨consumer, hconsumer, name_consumer⟩ := getElem?_of_fragmentPosition? hc
        rw [hproducer, Option.any_some] at offers
        exact ⟨p, producer, c, consumer, before, hproducer, name_producer, hconsumer, name_consumer,
          offers⟩

end Workflow
