import Workflow.Proofs.Validation.Grounded
import Workflow.Validation.Plan

/-!
# What kinds of findings a check makes

The checks of graphs, of bindings and of artifacts have kinds of their own, and what is wrong with a
dependency is of a kind that none of them reports. So the findings of this kind in the report on a
plan are just those of its dependencies.

Main statement: `ofKind_invalidDependency_validatePlan`.
-/

namespace Workflow

/-! ## Graphs -/

/-- The kinds of findings about how the steps of a graph hang together. -/
def shapeKinds : List ViolationKind :=
  [.schemaViolation, .unreachableStep, .cycleDetected, .branchMergeViolation, .invalidReference,
    .unresolvedArtifact, .missingFinalStep, .danglingTransition, .terminalMismatch,
    .duplicateCondition]

/-- The kinds of findings about graphs. -/
def graphKinds : List ViolationKind :=
  [.schemaViolation, .unreachableStep, .cycleDetected, .branchMergeViolation, .invalidReference,
    .unresolvedArtifact, .missingFinalStep, .danglingTransition, .terminalMismatch, .unknownTool,
    .missingParameter, .unexpectedParameter, .duplicateCondition, .emptyPrompt]

/-- All findings are of these kinds. -/
def OfKinds (kinds : List ViolationKind) (findings : List Violation) : Prop :=
  ∀ v ∈ findings, v.kind ∈ kinds

section OfKinds

variable {kinds : List ViolationKind}

theorem OfKinds.nil : OfKinds kinds [] := fun _ hv => nomatch hv

theorem OfKinds.mono {more : List ViolationKind} {findings : List Violation}
    (h : OfKinds kinds findings) (le : kinds ⊆ more) : OfKinds more findings :=
  fun v hv => le (h v hv)

theorem OfKinds.append {a b : List Violation} (ha : OfKinds kinds a) (hb : OfKinds kinds b) :
    OfKinds kinds (a ++ b) :=
  fun v hv => (List.mem_append.1 hv).elim (ha v) (hb v)

theorem OfKinds.flatMap {α : Type} {l : List α} {f : α → List Violation}
    (h : ∀ a ∈ l, OfKinds kinds (f a)) : OfKinds kinds (l.flatMap f) := by
  intro v hv
  obtain ⟨a, ha, hv⟩ := List.mem_flatMap.1 hv
  exact h a ha v hv

theorem OfKinds.map {α : Type} {l : List α} {f : α → Violation} (h : ∀ a, (f a).kind ∈ kinds) :
    OfKinds kinds (l.map f) := by
  intro v hv
  obtain ⟨a, _, rfl⟩ := List.mem_map.1 hv
  exact h a

theorem OfKinds.filterMap {α : Type} {l : List α} {f : α → Option Violation}
    (h : ∀ a v, f a = some v → v.kind ∈ kinds) : OfKinds kinds (l.filterMap f) := by
  intro v hv
  obtain ⟨a, _, hv⟩ := List.mem_filterMap.1 hv
  exact h a v hv

theorem OfKinds.ite {c : Prop} [Decidable c] {a b : List Violation} (ha : OfKinds kinds a)
    (hb : OfKinds kinds b) : OfKinds kinds (if c then a else b) := by
  split
  · exact ha
  · exact hb

theorem OfKinds.singleton {v : Violation} (h : v.kind ∈ kinds) : OfKinds kinds [v] :=
  fun _ hv => List.mem_singleton.1 hv ▸ h

end OfKinds

variable {schemas : Schemas}

theorem ofKinds_terminalFindings (step : Step) : OfKinds shapeKinds step.terminalFindings := by
  unfold Step.terminalFindings
  split
  · exact .singleton (by simp [Violation.finalContinues, shapeKinds])
  · exact .singleton (by simp [Violation.neverTerminates, shapeKinds])
  · exact .nil

theorem ofKinds_transitionFindings (g : Graph) (id : String) (seen : List String)
    (transitions : List Transition) :
    OfKinds shapeKinds (g.transitionFindings id seen transitions) := by
  induction transitions generalizing seen with
  | nil => exact .nil
  | cons t rest ih =>
      have dangling : OfKinds shapeKinds [.dangling id t.target] :=
        .singleton (by simp [Violation.dangling, shapeKinds])
      have repeated : OfKinds shapeKinds [.repeatedLabel id t.label] :=
        .singleton (by simp [Violation.repeatedLabel, shapeKinds])
      exact (OfKinds.append (.ite .nil dangling) (.ite repeated .nil)).append (ih _)

theorem ofKinds_actionFindings (step : Step) :
    OfKinds graphKinds (step.actionFindings schemas) := by
  unfold Step.actionFindings
  split
  · split
    · exact .singleton (by simp [Violation.unknownTool, graphKinds])
    · exact .append (.map fun _ => by simp [Violation.missingInput, graphKinds])
        (.map fun _ => by simp [Violation.unexpectedParameter, graphKinds])
  · exact .ite (.singleton (by simp [Violation.emptyPrompt, graphKinds])) .nil
  · exact .nil

theorem ofKinds_isolationFindings (g : Graph) : OfKinds shapeKinds g.isolationFindings := by
  refine .flatMap fun step _ v hv => ?_
  rw [Graph.kind_of_mem_branchFindings hv]
  decide

theorem ofKinds_cycleFindings (g : Graph) : OfKinds shapeKinds g.cycleFindings := by
  unfold Graph.cycleFindings
  split
  · exact .singleton (by simp [Violation.cycle, shapeKinds])
  · exact .nil

theorem ofKinds_referenceFindings (allowed : String → Bool) (g : Graph) (entry : String) :
    OfKinds shapeKinds (g.referenceFindings schemas allowed entry) := by
  refine .flatMap fun step _ => .filterMap fun ⟨origin, reference⟩ v hv => ?_
  cases reference with
  | output source field =>
      rw [Graph.kind_of_outputFinding hv]
      decide
  | artifact name =>
      simp only [Graph.referenceFinding] at hv
      split at hv <;> cases hv
      simp [Violation.undeclaredArtifact, shapeKinds]

/-- The whole of a graph is only found fault with for how its steps hang together. -/
theorem ofKinds_wholeFindings (allowed : String → Bool) (g : Graph) :
    OfKinds shapeKinds
      (match g.entry.filter g.contains with
        | none => [.noEntry]
        | some entry =>
            g.unreachableFindings entry ++ g.cycleFindings ++ g.isolationFindings
              ++ g.referenceFindings schemas allowed entry ++ g.finalFindings entry) := by
  split
  · exact .singleton (by simp [Violation.noEntry, shapeKinds])
  · next entry _ =>
      have unreachable : OfKinds shapeKinds (g.unreachableFindings entry) :=
        .map fun _ => by simp [Violation.unreachable, shapeKinds]
      have final : OfKinds shapeKinds (g.finalFindings entry) :=
        .ite .nil (.singleton (by simp [Violation.noFinalStep, shapeKinds]))
      exact .append (.append (.append (.append unreachable (ofKinds_cycleFindings g))
        (ofKinds_isolationFindings g)) (ofKinds_referenceFindings allowed g entry)) final

theorem ofKinds_findings (allowed : String → Bool) (g : Graph) :
    OfKinds graphKinds (g.findings schemas allowed) := by
  have shape : shapeKinds ⊆ graphKinds := by decide
  refine .append (.flatMap fun step _ => ?_) ((ofKinds_wholeFindings allowed g).mono shape)
  have transitions := ofKinds_transitionFindings g step.id [] step.transitions
  exact .append (((ofKinds_terminalFindings step).append transitions).mono shape)
    (ofKinds_actionFindings step)

/-! ## Fragments and plans -/

/-- The kinds of findings about fragments and what goes between them. -/
def fragmentKinds : List ViolationKind := .unconsumedArtifact :: graphKinds

theorem ofKinds_bindingFindings (fragment : Fragment) :
    OfKinds [.unresolvedArtifact] (fragment.produces.entries.filterMap fun p =>
      fragment.bindingFinding schemas p.1 p.2) := by
  refine .filterMap fun ⟨artifact, binding⟩ v hv => ?_
  simp only [Fragment.bindingFinding] at hv
  split at hv
  · split at hv <;> cases hv
    simp [Violation.boundToUnknownField]
  · cases hv
    simp [Violation.boundToUnknownStep]

theorem ofKinds_fragment (fragment : Fragment) :
    OfKinds fragmentKinds (fragment.findings schemas) := by
  have graph : OfKinds fragmentKinds (fragment.graph.findings schemas (· ∈ fragment.consumes)) :=
    (ofKinds_findings _ _).mono (List.subset_cons_self _ _)
  intro v hv
  obtain ⟨w, hw, rfl⟩ := List.mem_map.1 hv
  exact graph.append ((ofKinds_bindingFindings fragment).mono (by decide)) w hw

theorem ofKinds_repeatedName (names : List String) (fragment : Fragment) :
    OfKinds [.schemaViolation]
      (if fragment.name ∈ names then [.repeatedFragment fragment.name] else []) :=
  .ite (.singleton (by simp [Violation.repeatedFragment])) .nil

theorem ofKinds_fragmentFindings (names : List String) (fragments : List Fragment) :
    OfKinds fragmentKinds (fragmentFindings schemas names fragments) := by
  induction fragments generalizing names with
  | nil => exact .nil
  | cons fragment rest ih =>
      have repeated :=
        @OfKinds.mono _ fragmentKinds _ (ofKinds_repeatedName names fragment) (by decide)
      exact (repeated.append (ofKinds_fragment fragment)).append (ih _)

theorem ofKinds_consumptionFindings (earlier fragments : List Fragment) :
    OfKinds [.unresolvedArtifact] (consumptionFindings earlier fragments) := by
  induction fragments generalizing earlier with
  | nil => exact .nil
  | cons fragment rest ih => exact .append (.map fun _ => by simp [Violation.noProducer]) (ih _)

theorem ofKinds_productionFindings (fragments : List Fragment) :
    OfKinds fragmentKinds (productionFindings fragments) := by
  induction fragments with
  | nil => exact .nil
  | cons fragment rest ih =>
      exact .append (.map fun _ => by simp [Violation.neverConsumed, fragmentKinds]) ih

theorem ofKinds_dependencyFindings (fragments : List Fragment) (d : Dependency) :
    OfKinds [.invalidDependency] (dependencyFindings fragments d) := by
  unfold dependencyFindings
  split
  · exact .append (.ite (.singleton (by simp [Violation.backwards])) .nil)
      (.ite .nil (.singleton (by simp [Violation.notOffered])))
  · exact .singleton (by simp [Violation.unknownFragments])

/-- What the report on a plan holds of this kind is what is wrong with its dependencies. -/
theorem ofKind_invalidDependency_validatePlan {fragments : List Fragment}
    (nonempty : fragments ≠ []) (dependencies : List Dependency) :
    (validatePlan schemas fragments dependencies).ofKind .invalidDependency =
      dependencies.flatMap (dependencyFindings fragments) := by
  have others : OfKinds fragmentKinds (fragmentFindings schemas [] fragments
      ++ consumptionFindings [] fragments ++ productionFindings fragments) :=
    .append (.append (ofKinds_fragmentFindings [] fragments)
      ((ofKinds_consumptionFindings [] fragments).mono (by decide)))
      (ofKinds_productionFindings fragments)
  have own : OfKinds [.invalidDependency] (dependencies.flatMap (dependencyFindings fragments)) :=
    .flatMap fun d _ => ofKinds_dependencyFindings fragments d
  rw [validatePlan, if_neg (by simpa using nonempty), Report.ofKind, List.filter_append,
    List.filter_eq_nil_iff.2 fun v hv => ?_, List.nil_append, List.filter_eq_self.2 fun v hv => ?_]
  · exact decide_eq_true (List.mem_singleton.1 (own v hv))
  · rw [decide_eq_true_eq]
    intro hkind
    have among := others v hv
    rw [hkind] at among
    exact absurd among (by decide)

end Workflow
