import Workflow.Proofs.Merge.Distinct
import Workflow.Proofs.Merge.Outcome
import Workflow.Proofs.Validation.Mirror

/-!
# A fragment by itself

A plan of one fragment that reads no artifact needs no wiring. Its joined graph mirrors the graph of
the fragment under the new names of the steps, so that it is accepted if the fragment is, and
joining succeeds. This takes labels whose paths renaming sees: a label that is a condition must not
be left with a path under its old name.

Main statement: `merge_alone`.
-/

namespace Workflow

open Condition

/-! ## Nothing to wire -/

theorem planWiring_nil (fragments : List Fragment) :
    planWiring fragments [] = ⟨.empty, [], []⟩ := by
  have nobody : ∀ (finals : List String) (wiring : Wiring) (fragment : Fragment) (position : Nat),
      wiring.connectAll fragments fragment position (consumersOf []) finals = wiring := by
    intro finals wiring fragment position
    induction finals with
    | nil => rfl
    | cons final rest ih => exact ih
  have idle : ∀ (fragment : Fragment) (position : Nat),
      Wiring.addFragment fragments [] ⟨.empty, [], []⟩ fragment position = ⟨.empty, [], []⟩ :=
    fun fragment position => nobody fragment.finalIds _ fragment position
  rw [planWiring]
  induction fragments.zipIdx with
  | nil => rfl
  | cons entry rest ih =>
      obtain ⟨fragment, position⟩ := entry
      rw [List.foldl_cons]
      dsimp only
      rw [idle, ih]

theorem deriveDependencies_alone (fragment : Fragment) : deriveDependencies [fragment] = [] := by
  simp [deriveDependencies, deriveDependenciesAfter, dependenciesOn]

theorem assembledGraph_alone (fragment : Fragment) :
    assembledGraph [fragment] [] = joinedGraph [fragment] := by
  rw [assembledGraph, planWiring_nil]
  rfl

/-! ## Validation -/

section Validation

variable {schemas : Schemas} {fragment : Fragment}

/-- A fragment that reads no artifact is a plan if it is accepted. -/
theorem isAccepted_validatePlan_alone (alone : fragment.consumedArtifacts = [])
    (accepted : (fragment.validate schemas).isAccepted = true) :
    (validatePlan schemas [fragment] []).isAccepted = true := by
  have harmless : Harmless (fragment.findings schemas) := (isAccepted_iff_harmless _).1 accepted
  rw [isAccepted_iff_harmless, validatePlan, if_neg (by simp), harmless_append_iff,
    harmless_append_iff, harmless_append_iff, harmless_fragmentFindings_iff,
    harmless_consumptionFindings_iff]
  refine ⟨⟨⟨⟨by simp, by simp, by simpa using harmless⟩, ?_⟩, harmless_productionFindings _⟩,
    harmless_nil⟩
  intro i reader hi artifact hartifact
  obtain ⟨rfl, rfl⟩ : i = 0 ∧ fragment = reader := by simpa [List.getElem?_singleton] using hi
  rw [alone] at hartifact
  cases hartifact

/-- The graph of a fragment that reads no artifact is complete. -/
theorem exists_wellFormed_graph (alone : fragment.consumedArtifacts = [])
    (accepted : (fragment.validate schemas).isAccepted = true) :
    ∃ entry, fragment.graph.entry = some entry ∧ fragment.graph.WellFormed schemas entry := by
  have none_declared : fragment.consumes = [] := by
    refine List.eq_nil_iff_forall_not_mem.2 fun artifact h => ?_
    have hmem : artifact ∈ fragment.consumedArtifacts :=
      (mem_sortedNames_iff _ _).2 (List.mem_append_right _ h)
    rw [alone] at hmem
    cases hmem
  have harmless : Harmless (fragment.findings schemas) := (isAccepted_iff_harmless _).1 accepted
  rw [Fragment.findings, harmless_map_within_iff, harmless_append_iff, none_declared] at harmless
  have complete : (fun artifact : String => decide (artifact ∈ ([] : List String))) =
      fun _ => false := by simp
  rw [complete] at harmless
  exact Graph.wellFormed_of_isAccepted ((isAccepted_iff_harmless _).2 harmless.1)

end Validation

/-! ## The mirror -/

section Joined

variable {schemas : Schemas} {fragment : Fragment} {entry : String}

theorem info_joinedGraph_alone (fragment : Fragment) :
    (joinedGraph [fragment]).info = fragment.graph.info := by
  have info : (joinedGraph [fragment]).info = GraphInfo.empty.absorb fragment.graph.info := rfl
  rw [info]
  cases fragment.graph.info
  simp [GraphInfo.absorb, GraphInfo.empty]

theorem step?_joinedGraph_alone (plan : WellFormedPlan schemas [fragment] []) (id : String)
    (m : Step) :
    (joinedGraph [fragment]).step? id = some m ↔
      ∃ step ∈ fragment.graph.stepList, id = scopedName step.id 1 ∧
        m = joinedStep [fragment] fragment 0 step := by
  rw [step?_joinedGraph, step?_joinSteps_iff plan]
  constructor
  · rintro ⟨i, other, step, hi, hstep, hid, hm⟩
    obtain ⟨rfl, rfl⟩ : i = 0 ∧ fragment = other := by simpa [List.getElem?_singleton] using hi
    exact ⟨step, hstep, hid, hm⟩
  · rintro ⟨step, hstep, hid, hm⟩
    exact ⟨0, fragment, step, rfl, hstep, hid, hm⟩

/-- No step is lost and none is added. -/
theorem size_joinedGraph_alone (plan : WellFormedPlan schemas [fragment] []) :
    (joinedGraph [fragment]).steps.size = fragment.graph.steps.size := by
  have nodup : (fragment.graph.ids.map (scopedName · 1)).Nodup :=
    (Graph.ids_nodup _).map fun a b h => (scopedName_inj h).1
  have same : (joinedGraph [fragment]).ids.Perm (fragment.graph.ids.map (scopedName · 1)) := by
    refine (List.perm_ext_iff_of_nodup (Graph.ids_nodup _) nodup).2 fun id => ?_
    rw [Graph.mem_ids_iff, Graph.contains_iff, List.mem_map]
    constructor
    · rintro ⟨m, hm⟩
      obtain ⟨step, hstep, rfl, -⟩ := (step?_joinedGraph_alone plan id m).1 hm
      exact ⟨step.id, (Graph.mem_ids_iff _ _).2 (Graph.contains_of_mem_stepList hstep), rfl⟩
    · rintro ⟨old, hold, rfl⟩
      obtain ⟨step, hstep⟩ := (Graph.contains_iff _ old).1 ((Graph.mem_ids_iff _ old).1 hold)
      rw [← Graph.id_of_step? hstep]
      exact ⟨_, (step?_joinedGraph_alone plan _ _).2
        ⟨step, Graph.mem_stepList_of_step? hstep, rfl, rfl⟩⟩
  have lengths := same.length_eq
  rw [List.length_map] at lengths
  simpa [Graph.ids, Dict.keys, Dict.size] using lengths

theorem replacedBy_joinedOutput (position : Nat) (r : Reference) :
    r.replacedBy (joinedOutput position) = r.withStep (scopedName · (position + 1)) := by
  cases r <;> rfl

section Step

variable (wf : fragment.graph.WellFormed schemas entry) {step : Step}
  (hstep : step ∈ fragment.graph.stepList)
include wf hstep

theorem not_artifact_of_mem_labels {label : String} (hlabel : label ∈ step.labels) (name : String) :
    .artifact name ∉ referencesInText label := by
  intro hmem
  cases hcatch : isCatchAll label with
  | true =>
      rw [referencesInText_of_isCatchAll hcatch] at hmem
      cases hmem
  | false => exact (wf.no_artifact step hstep name).2 label hlabel ⟨hcatch, .inl hmem⟩

theorem joinedStep_labels (fragments : List Fragment) (position : Nat) :
    (joinedStep fragments fragment position step).labels =
      step.labels.map (fragment.scopedLabel position) := by
  have labels : (joinedStep fragments fragment position step).labels =
      step.labels.map (joinedLabel fragments fragment position) := by
    simp [joinedStep, Step.labels]
  rw [labels]
  exact List.map_congr_left fun label hlabel =>
    joinedLabel_eq_scopedLabel fragments (not_artifact_of_mem_labels wf hstep hlabel)

theorem mirrors_joinedStep (fragments : List Fragment) (position : Nat)
    (visible : ∀ label ∈ step.labels, fragment.IsVisibleLabel position label)
    (own : ∀ label ∈ step.labels, fragment.OwnsPaths label) :
    step.Mirrors (scopedName · (position + 1)) (joinedStep fragments fragment position step) where
  id_eq := rfl
  targets_eq := by simp [joinedStep, Step.targets]
  action_eq := ⟨_, rfl⟩
  labels_nodup := by
    intro nodup
    rw [joinedStep_labels wf hstep]
    exact nodup.map_on fun a ha b hb h =>
      scopedLabel_inj (visible a ha) (visible b hb) (own a ha) (own b hb) h
  action_reads := by
    intro r' hr'
    have written : (joinedStep fragments fragment position step).action =
        step.action.substitute (joinedOutput position) := by
      refine Action.substitute_congr fun r hr => ?_
      cases r with
      | artifact name => exact absurd hr (wf.no_artifact step hstep name).1
      | output source field => rfl
    rw [Step.actionReferences, written, Action.references_substitute fun r hr =>
      isReadable_joinedOutput position r (Action.isReadable_of_mem_references hr)] at hr'
    obtain ⟨r, hr, rfl⟩ := List.mem_map.1 hr'
    exact ⟨r, hr, replacedBy_joinedOutput position r⟩
  label_reads := by
    intro label' hlabel' r' reads
    rw [joinedStep_labels wf hstep] at hlabel'
    obtain ⟨label, hlabel, rfl⟩ := List.mem_map.1 hlabel'
    obtain ⟨r, hr, rfl⟩ :=
      exists_of_labelReads_scopedLabel (visible label hlabel) (own label hlabel) reads
    exact ⟨label, hlabel, r, hr, replacedBy_joinedOutput position r⟩

end Step

theorem mirrors_joinedGraph (plan : WellFormedPlan schemas [fragment] [])
    (wf : fragment.graph.WellFormed schemas entry)
    (visible : ∀ step ∈ fragment.graph.stepList, ∀ label ∈ step.labels,
      fragment.IsVisibleLabel 0 label) :
    fragment.graph.Mirrors (scopedName · 1) (joinedGraph [fragment]) := by
  have each : ∀ step ∈ fragment.graph.stepList,
      step.Mirrors (scopedName · 1) (joinedStep [fragment] fragment 0 step) := by
    intro step hstep
    refine mirrors_joinedStep wf hstep [fragment] 0 (visible step hstep) fun label hlabel => ?_
    exact ownsPaths_of_mem_labels plan rfl hstep hlabel (visible step hstep label hlabel)
  refine ⟨fun h => (scopedName_inj h).1, fun step hstep => ?_, fun m hm => ?_⟩
  · have hm := (step?_joinedGraph_alone plan _ _).2 ⟨step, hstep, rfl, rfl⟩
    exact ⟨_, Graph.mem_stepList_of_step? hm, each step hstep⟩
  · obtain ⟨step, hstep, _, rfl⟩ :=
      (step?_joinedGraph_alone plan _ m).1 ((Graph.mem_stepList_iff _ m).1 hm)
    exact ⟨step, hstep, each step hstep⟩

end Joined

/-! ## Joining -/

/-- A label with the steps of its fragment under their new names. -/
def Fragment.renamedLabel (fragment : Fragment) (position : Nat) (label : String) : String :=
  renameSteps (fragment.newName? position)
    (substituteText (fragment.renameReference position) label)

section Renamed

variable {schemas : Schemas} {fragment : Fragment} {entry : String} {position : Nat}

theorem replacedBy_renameReference {source : String}
    (h : fragment.graph.contains source = true) (field : String) :
    (Reference.output source field).replacedBy (fragment.renameReference position) =
      .output (scopedName source (position + 1)) field := by
  rw [Reference.replacedBy, Fragment.renameReference, Fragment.newName?_of_contains h]
  rfl

variable (wf : fragment.graph.WellFormed schemas entry) {step : Step}
  (hstep : step ∈ fragment.graph.stepList)
include wf hstep

theorem scopedLabel_eq_renamedLabel {label : String} (hlabel : label ∈ step.labels) :
    fragment.scopedLabel position label = fragment.renamedLabel position label := by
  refine congrArg (renameSteps (fragment.newName? position)) (substituteText_congr fun r hr => ?_)
  cases r with
  | artifact name => exact absurd hr (not_artifact_of_mem_labels wf hstep hlabel name)
  | output source field =>
      have reads : isCatchAll label = false := by
        by_contra hcatch
        rw [referencesInText_of_isCatchAll (by simpa using hcatch)] at hr
        cases hr
      obtain ⟨⟨producer, hproducer, _⟩, _⟩ :=
        wf.label_supplied step hstep label hlabel source field ⟨reads, .inl hr⟩
      rw [replacedBy_renameReference ((Graph.contains_iff _ _).2 ⟨producer, hproducer⟩)]
      rfl

theorem joinedStep_action (fragments : List Fragment) :
    (joinedStep fragments fragment position step).action =
      step.action.substitute (fragment.renameReference position) := by
  refine Action.substitute_congr fun r hr => ?_
  cases r with
  | artifact name => exact absurd hr (wf.no_artifact step hstep name).1
  | output source field =>
      obtain ⟨_, ⟨producer, hproducer, _⟩, _⟩ := wf.action_supplied step hstep source field hr
      rw [replacedBy_renameReference ((Graph.contains_iff _ _).2 ⟨producer, hproducer⟩)]
      rfl

end Renamed

/-- A fragment that reads no artifact and is accepted by itself is joined to a graph of the same
steps under their new names, if renaming sees the paths of its labels. -/
theorem merge_alone {schemas : Schemas} {fragment : Fragment}
    (alone : fragment.consumedArtifacts = [])
    (accepted : (fragment.validate schemas).isAccepted = true)
    (visible : ∀ step ∈ fragment.graph.stepList, ∀ label ∈ step.labels,
      fragment.IsVisibleLabel 0 label) :
    ∃ g, merge schemas [fragment] none = .ok g ∧
      g.steps.size = fragment.graph.steps.size ∧
      g.entry = fragment.graph.entry.map (scopedName · 1) ∧
      g.info = fragment.graph.info ∧
      ∀ step ∈ fragment.graph.stepList, ∃ m, g.step? (scopedName step.id 1) = some m ∧
        m.targets = step.targets.map (scopedName · 1) ∧
        m.action = step.action.substitute (fragment.renameReference 0) ∧
        m.thoughts = step.thoughts ∧
        m.labels = step.labels.map (fragment.renamedLabel 0) ∧
        ∀ label ∈ step.labels, parse? (fragment.renamedLabel 0 label) =
          (parse? label).map
            (rewrite (fragment.joinedPath 0) (mapText (substituteText (joinedOutput 0)))) := by
  have planAccepted := isAccepted_validatePlan_alone alone accepted
  have plan := wellFormedPlan_of_isAccepted planAccepted
  obtain ⟨entry, hentry, wf⟩ := exists_wellFormed_graph alone accepted
  have starts := entry_assembledGraph plan rfl hentry
  rw [assembledGraph_alone] at starts
  have graphAccepted : ((joinedGraph [fragment]).validate schemas).isAccepted = true :=
    Graph.isAccepted_of_wellFormed starts ((mirrors_joinedGraph plan wf visible).wellFormed wf)
  refine ⟨joinedGraph [fragment], ?_, size_joinedGraph_alone plan, ?_,
    info_joinedGraph_alone fragment, fun step hstep => ?_⟩
  · have edges : (none : Option (List Dependency)).getD (deriveDependencies [fragment]) = [] :=
      deriveDependencies_alone fragment
    rw [merge_of_isAccepted edges planAccepted, planWiring_nil, if_neg (by simp),
      assembledGraph_alone, if_pos graphAccepted]
  · rw [starts, hentry]
    rfl
  · refine ⟨_, (step?_joinedGraph_alone plan _ _).2 ⟨step, hstep, rfl, rfl⟩, ?_,
      joinedStep_action wf hstep _, rfl, ?_, fun label hlabel => ?_⟩
    · simp [joinedStep, Step.targets]
    · rw [joinedStep_labels wf hstep]
      exact List.map_congr_left fun label hlabel => scopedLabel_eq_renamedLabel wf hstep hlabel
    · rw [← scopedLabel_eq_renamedLabel wf hstep hlabel]
      exact parse?_scopedLabel (visible step hstep label hlabel)
        (ownsPaths_of_mem_labels plan rfl hstep hlabel (visible step hstep label hlabel))

/-- A step that goes on with what it sees gets a new name, and its label sees it under that name. -/
theorem rain_merges_alone :
    ∃ g m, merge (fun _ => none) [lookFragment "look" rainLabel] none = .ok g ∧
      g.steps.size = 3 ∧ g.entry = some "look_1" ∧ g.step? "look_1" = some m ∧
      m.targets = ["stay_1", "go_1"] ∧
      m.labels =
        ["\x7blook_1.response\x7d contains 'rain' or look_1.response == 'snow'", "otherwise"] := by
  have visible : ∀ step ∈ (lookFragment "look" rainLabel).graph.stepList, ∀ label ∈ step.labels,
      (lookFragment "look" rainLabel).IsVisibleLabel 0 label := by
    have labels : ∀ step ∈ (lookFragment "look" rainLabel).graph.stepList, ∀ label ∈ step.labels,
        label = rainLabel ∨ (parse label).toOption = none := by decide +kernel
    intro step hstep label hlabel e he
    rcases labels step hstep label hlabel with rfl | unread
    · exact ⟨rainOutline, rainLabel_isOutline, (rainOutline_isPlain _).isVisible⟩
    · rw [he] at unread
      cases unread
  have alone : (lookFragment "look" rainLabel).consumedArtifacts = [] := by decide +kernel
  have accepted : ((lookFragment "look" rainLabel).validate fun _ => none).isAccepted = true := by
    decide +kernel
  obtain ⟨g, hg, size, entry, _, steps⟩ := merge_alone alone accepted visible
  have hlook : lookStep "look" rainLabel ∈ (lookFragment "look" rainLabel).graph.stepList := by
    decide +kernel
  obtain ⟨m, hm, targets, _, _, labels, _⟩ := steps _ hlook
  refine ⟨g, m, hg, size.trans (by decide +kernel), entry.trans (by decide +kernel), hm,
    targets.trans (by decide +kernel), labels.trans (by decide +kernel)⟩

/-- A sound fragment without artifacts that cannot be joined by itself, since its condition reads a
step whose name is spelled outside ASCII. -/
theorem accented_fragment_rejected :
    (lookFragment "étape" "étape.response == 'snow'").consumedArtifacts = [] ∧
      ((lookFragment "étape" "étape.response == 'snow'").validate
        fun _ => none).isAccepted = true ∧
      ∀ g, merge (fun _ => none) [lookFragment "étape" "étape.response == 'snow'"] none ≠
        .ok g := by
  have fails : (merge (fun _ => none) [lookFragment "étape" "étape.response == 'snow'"]
      none).toOption = none := by
    decide +kernel
  refine ⟨by decide +kernel, by decide +kernel, fun g hg => ?_⟩
  rw [hg] at fails
  cases fails

end Workflow
