import Workflow.Proofs.Validation.Kinds
import Workflow.Proofs.Validation.Plan

/-!
# Minor findings

Where nothing critical is found, what is left to find concerns single steps, an empty prompt or a
parameter that the tool does not declare, or an artifact that nobody reads. The steps of a graph
show the former wherever they stand; the latter is only seen in a plan, where there are artifacts.

Main statements: `findings_of_harmless` and `violations_of_isAccepted`, the reports on accepted
graphs and plans, and `productionFindings_eq_nil_iff`.
-/

namespace Workflow

variable {schemas : Schemas}

/-- There are no harmless findings of critical kinds. -/
theorem OfKinds.eq_nil {kinds : List ViolationKind} {findings : List Violation}
    (ofKinds : OfKinds kinds findings) (critical : ∀ kind ∈ kinds, kind.severity = .critical)
    (harmless : Harmless findings) : findings = [] := by
  refine List.eq_nil_iff_forall_not_mem.2 fun v hv => ?_
  have minor := harmless v hv
  rw [Violation.isCritical, Violation.severity, critical _ (ofKinds v hv)] at minor
  cases minor

/-! ## Graphs -/

theorem stepFindings_of_harmless {g : Graph} {step : Step}
    (harmless : Harmless (g.stepFindings schemas step)) :
    g.stepFindings schemas step = step.actionFindings schemas := by
  rw [Graph.stepFindings, harmless_append_iff] at harmless
  have shape := (ofKinds_terminalFindings step).append
    (ofKinds_transitionFindings g step.id [] step.transitions)
  rw [Graph.stepFindings, shape.eq_nil (by decide) harmless.1, List.nil_append]

/-- A graph in which nothing critical is found is only found fault with for the actions of its
steps. -/
theorem findings_of_harmless {allowed : String → Bool} {g : Graph}
    (harmless : Harmless (g.findings schemas allowed)) :
    g.findings schemas allowed = g.stepList.flatMap (Step.actionFindings schemas) := by
  rw [Graph.findings, harmless_append_iff, harmless_flatMap_iff] at harmless
  obtain ⟨steps, whole⟩ := harmless
  have by_step : g.stepList.flatMap (g.stepFindings schemas) =
      g.stepList.flatMap (Step.actionFindings schemas) :=
    List.flatMap_congr fun step hstep => stepFindings_of_harmless (steps step hstep)
  rw [Graph.findings, by_step]
  exact List.append_right_eq_self.2 ((ofKinds_wholeFindings allowed g).eq_nil (by decide) whole)

/-! ## Plans -/

/-- The defects of the actions of a fragment, each marked with its name. -/
def Fragment.actionFindings (schemas : Schemas) (fragment : Fragment) : List Violation :=
  (fragment.graph.stepList.flatMap (Step.actionFindings schemas)).map
    (Violation.within fragment.name)

theorem Fragment.findings_of_harmless {fragment : Fragment}
    (harmless : Harmless (fragment.findings schemas)) :
    fragment.findings schemas = fragment.actionFindings schemas := by
  rw [Fragment.findings, harmless_map_within_iff, harmless_append_iff] at harmless
  obtain ⟨graph, bindings⟩ := harmless
  rw [Fragment.findings, (ofKinds_bindingFindings fragment).eq_nil (by decide) bindings,
    Workflow.findings_of_harmless graph, List.append_nil, Fragment.actionFindings]

theorem fragmentFindings_of_harmless {names : List String} {fragments : List Fragment}
    (harmless : Harmless (fragmentFindings schemas names fragments)) :
    fragmentFindings schemas names fragments =
      fragments.flatMap (Fragment.actionFindings schemas) := by
  induction fragments generalizing names with
  | nil => rfl
  | cons fragment rest ih =>
      rw [fragmentFindings, harmless_append_iff, harmless_append_iff] at harmless
      obtain ⟨⟨repeated, here⟩, there⟩ := harmless
      rw [fragmentFindings, (ofKinds_repeatedName names fragment).eq_nil (by decide) repeated,
        Fragment.findings_of_harmless here, ih there, List.nil_append, List.flatMap_cons]

/-- A plan in which nothing critical is found is only found fault with for the actions of its steps,
and for artifacts that are not read. -/
theorem violations_of_isAccepted {fragments : List Fragment} {dependencies : List Dependency}
    (accepted : (validatePlan schemas fragments dependencies).isAccepted = true) :
    (validatePlan schemas fragments dependencies).violations =
      fragments.flatMap (Fragment.actionFindings schemas) ++ productionFindings fragments := by
  have nonempty := (wellFormedPlan_of_isAccepted accepted).nonempty
  rw [isAccepted_iff_harmless] at accepted
  rw [validatePlan, if_neg (by simpa using nonempty)] at accepted ⊢
  rw [harmless_append_iff, harmless_append_iff, harmless_append_iff] at accepted
  obtain ⟨⟨⟨alone, consumption⟩, _⟩, dependency⟩ := accepted
  have own : OfKinds [.invalidDependency] (dependencies.flatMap (dependencyFindings fragments)) :=
    .flatMap fun d _ => ofKinds_dependencyFindings fragments d
  dsimp only
  rw [fragmentFindings_of_harmless alone,
    (ofKinds_consumptionFindings [] fragments).eq_nil (by decide) consumption,
    own.eq_nil (by decide) dependency, List.append_nil, List.append_nil]

/-! ## What is not read -/

/-- Every artifact is read, by the fragment that offers it or by a later one. -/
def AllRead (fragments : List Fragment) : Prop :=
  ∀ (i : Nat) (producer : Fragment) (artifact : String), fragments[i]? = some producer →
    producer.producesArtifact artifact = true →
      ∃ (c : Nat) (reader : Fragment), i ≤ c ∧ fragments[c]? = some reader ∧ reader.Reads artifact

theorem allRead_cons_iff (fragment : Fragment) (rest : List Fragment) :
    AllRead (fragment :: rest) ↔
      (∀ artifact, fragment.producesArtifact artifact = true →
        ∃ reader ∈ fragment :: rest, reader.Reads artifact) ∧ AllRead rest := by
  constructor
  · intro all
    refine ⟨fun artifact offers => ?_, fun i producer artifact hi offers => ?_⟩
    · obtain ⟨c, reader, _, hc, reads⟩ := all 0 fragment artifact rfl offers
      exact ⟨reader, List.mem_of_getElem? hc, reads⟩
    · obtain ⟨c, reader, le, hc, reads⟩ := all (i + 1) producer artifact hi offers
      obtain ⟨c, rfl⟩ := Nat.exists_eq_add_of_le' (Nat.lt_of_lt_of_le (Nat.succ_pos i) le)
      exact ⟨c, reader, Nat.le_of_succ_le_succ le, hc, reads⟩
  · rintro ⟨here, there⟩ i producer artifact hi offers
    cases i with
    | zero =>
        obtain rfl : fragment = producer := Option.some.inj hi
        obtain ⟨reader, hmem, reads⟩ := here artifact offers
        obtain ⟨c, hc⟩ := List.mem_iff_getElem?.1 hmem
        exact ⟨c, reader, Nat.zero_le c, hc, reads⟩
    | succ i =>
        obtain ⟨c, reader, le, hc, reads⟩ := there i producer artifact hi offers
        exact ⟨c + 1, reader, Nat.succ_le_succ le, hc, reads⟩

/-- What a fragment offers and nobody after it reads is found in the plan. -/
theorem productionFindings_eq_nil_iff (fragments : List Fragment) :
    productionFindings fragments = [] ↔ AllRead fragments := by
  induction fragments with
  | nil => exact iff_of_true rfl fun i producer artifact hi => by cases hi
  | cons fragment rest ih =>
      rw [productionFindings, List.append_eq_nil_iff, ih, allRead_cons_iff, List.map_eq_nil_iff,
        List.filter_eq_nil_iff]
      refine and_congr_left fun _ => ?_
      have offered : ∀ artifact, fragment.producesArtifact artifact = true ↔
          ∃ binding, (artifact, binding) ∈ fragment.produces.entries := fun artifact => by
        rw [Fragment.producesArtifact, Dict.contains, Option.isSome_iff_exists]
        simp only [Dict.get?_eq_some_iff]
      simp only [offered, Fragment.reads_iff, Bool.not_eq_true', Bool.not_eq_false,
        List.any_eq_true, decide_eq_true_eq, Prod.forall, forall_exists_index]

end Workflow
