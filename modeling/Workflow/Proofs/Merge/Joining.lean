import Workflow.Merge.Join
import Workflow.Proofs.Merge.Binding
import Workflow.Proofs.Validation.Tree

/-!
# The steps of a joined graph

Joining goes through the fragments and, within each, through its steps. Seen as one pass over the
numbered steps of the whole plan it is a fold in which each step either is added or leaves a failure
behind. New names never collide, so only artifacts that cannot be bound leave failures, whatever the
fragments are; without failures the graph holds exactly the renamed steps.

Main statements: `joinSteps_without_collision`, `step?_joinSteps_iff` and `merge_eq_ok_iff`.
-/

namespace Workflow

/-- A step with the fragment that it belongs to and the position of the fragment. -/
structure PlacedStep where
  fragment : Fragment
  position : Nat
  step : Step

/-- All steps of a plan in the order in which they are joined. -/
def placedSteps (fragments : List Fragment) : List PlacedStep :=
  fragments.zipIdx.flatMap fun entry =>
    entry.1.graph.stepList.map fun step => ⟨entry.1, entry.2, step⟩

theorem mem_placedSteps_iff (fragments : List Fragment) (placed : PlacedStep) :
    placed ∈ placedSteps fragments ↔
      fragments[placed.position]? = some placed.fragment ∧
        placed.step ∈ placed.fragment.graph.stepList := by
  simp only [placedSteps, List.mem_flatMap, List.mem_map]
  constructor
  · rintro ⟨entry, hentry, step, hstep, rfl⟩
    exact ⟨List.mem_zipIdx_iff_getElem?.1 hentry, hstep⟩
  · rintro ⟨hfragment, hstep⟩
    exact ⟨(placed.fragment, placed.position), List.mem_zipIdx_iff_getElem?.2 hfragment,
      placed.step, hstep, rfl⟩

/-- The name of the step in the joined graph. -/
def PlacedStep.newId (placed : PlacedStep) : String :=
  scopedName placed.step.id (placed.position + 1)

/-- No two steps of a plan get one name. -/
theorem nodup_newIds (fragments : List Fragment) :
    ((placedSteps fragments).map PlacedStep.newId).Nodup := by
  rw [placedSteps, List.map_flatMap, List.nodup_flatMap]
  constructor
  · -- Within a fragment the old names differ.
    intro entry _
    have distinct := Graph.map_id_nodup entry.1.graph
    have renamed := distinct.map (f := fun id => scopedName id (entry.2 + 1)) fun _ _ h =>
      (scopedName_inj h).1
    rw [List.map_map] at renamed ⊢
    exact renamed
  · -- Between fragments the numbers differ.
    have positions : (fragments.zipIdx.map Prod.snd).Nodup := by
      rw [List.zipIdx_map_snd]
      exact List.nodup_range'
    refine (List.pairwise_map.1 positions).imp fun {a b} apart id ha hb => ?_
    simp only [List.map_map, List.mem_map, Function.comp_apply, PlacedStep.newId] at ha hb
    obtain ⟨x, _, rfl⟩ := ha
    obtain ⟨y, _, heq⟩ := hb
    exact apart (Nat.succ.inj (scopedName_inj heq).2).symm

/-- Adds a step of a plan. -/
def Joint.addPlaced (table : ArtifactTable) (joint : Joint) (placed : PlacedStep) : Joint :=
  joint.addStep table placed.fragment placed.position placed.step

theorem joinSteps_eq_foldl (fragments : List Fragment) :
    joinSteps fragments =
      (placedSteps fragments).foldl (Joint.addPlaced (artifactTable fragments)) ⟨.empty, []⟩ := by
  rw [placedSteps, List.foldl_flatMap]
  simp only [List.foldl_map]
  rfl

/-! ## One step -/

section Fold

variable {table : ArtifactTable} {joint : Joint}

/-- A step is added without a failure, or leaves one behind. -/
theorem Joint.addPlaced_cases (table : ArtifactTable) (joint : Joint) (placed : PlacedStep) :
    (∃ renamed graph,
        renameStep table placed.fragment placed.position placed.step = .ok renamed ∧
        joint.graph.addStep renamed = .ok graph ∧
        joint.addPlaced table placed = ⟨graph, joint.failures⟩) ∨
      ∃ failure, joint.addPlaced table placed = ⟨joint.graph, joint.failures ++ [failure]⟩ := by
  unfold Joint.addPlaced Joint.addStep
  split
  · exact .inr ⟨_, rfl⟩
  · next renamed hrenamed =>
      split
      · next graph hgraph => exact .inl ⟨renamed, graph, hrenamed, hgraph, rfl⟩
      · exact .inr ⟨_, rfl⟩

theorem Joint.addPlaced_of_failures (placed : PlacedStep)
    (h : (joint.addPlaced table placed).failures = []) :
    joint.failures = [] ∧ ∃ renamed,
      renameStep table placed.fragment placed.position placed.step = .ok renamed ∧
      joint.graph.addStep renamed = .ok (joint.addPlaced table placed).graph := by
  rcases Joint.addPlaced_cases table joint placed with ⟨renamed, graph, hr, hg, heq⟩ | ⟨_, heq⟩
  · rw [heq] at h ⊢
    exact ⟨h, renamed, hr, hg⟩
  · rw [heq] at h
    simp at h

/-! ## All steps -/

theorem Joint.failures_of_foldl (placed : List PlacedStep) (joint : Joint)
    (h : (placed.foldl (Joint.addPlaced table) joint).failures = []) : joint.failures = [] := by
  induction placed generalizing joint with
  | nil => exact h
  | cons here rest ih => exact (Joint.addPlaced_of_failures here (ih _ h)).1

/-- Without failures exactly the renamed steps have been added. -/
theorem Joint.step?_foldl_iff (placed : List PlacedStep) (joint : Joint)
    (h : (placed.foldl (Joint.addPlaced table) joint).failures = []) (id : String) (m : Step) :
    (placed.foldl (Joint.addPlaced table) joint).graph.step? id = some m ↔
      joint.graph.step? id = some m ∨ ∃ p ∈ placed,
        renameStep table p.fragment p.position p.step = .ok m ∧ m.id = id := by
  induction placed generalizing joint with
  | nil => simp
  | cons here rest ih =>
      have first := Joint.failures_of_foldl rest _ h
      obtain ⟨_, renamed, hrenamed, hadd⟩ := Joint.addPlaced_of_failures here first
      have fresh := Graph.not_contains_of_addStep hadd
      rw [List.foldl_cons, ih _ h, Graph.step?_addStep hadd]
      constructor
      · rintro (hm | ⟨p, hp, hr, hid⟩)
        · split at hm
          · next hid =>
              cases hm
              exact .inr ⟨here, List.mem_cons_self .., hrenamed, hid.symm⟩
          · exact .inl hm
        · exact .inr ⟨p, List.mem_cons_of_mem _ hp, hr, hid⟩
      · rintro (hm | ⟨p, hp, hr, hid⟩)
        · have hne : id ≠ renamed.id := by
            rintro rfl
            rw [fresh] at hm
            cases hm
          exact .inl (by rwa [if_neg hne])
        · rcases List.mem_cons.1 hp with rfl | hp
          · rw [hrenamed] at hr
            cases hr
            exact .inl (by rw [if_pos hid.symm])
          · exact .inr ⟨p, hp, hr, hid⟩

end Fold

/-! ## Collisions -/

/-- A renamed step has the new name. -/
theorem id_of_renameStep {table : ArtifactTable} {fragment : Fragment} {position : Nat}
    {step renamed : Step} (h : renameStep table fragment position step = .ok renamed) :
    renamed.id = fragment.newName position step.id := by
  obtain ⟨action, -, h⟩ := Except.exists_of_bind_eq_ok h
  obtain ⟨transitions, -, h⟩ := Except.exists_of_bind_eq_ok h
  cases h
  rfl

/-- What adding the step of a plan leaves behind if its artifacts cannot be bound. -/
def PlacedStep.failure? (table : ArtifactTable) (placed : PlacedStep) : Option Violation :=
  (errorOf? (renameStep table placed.fragment placed.position placed.step)).map
    (Violation.unbound placed.newId)

section Failures

variable {fragments : List Fragment} {joint : Joint} (table : ArtifactTable)

theorem newName_of_mem_placedSteps {placed : PlacedStep} (h : placed ∈ placedSteps fragments) :
    placed.fragment.newName placed.position placed.step.id = placed.newId := by
  obtain ⟨-, hstep⟩ := (mem_placedSteps_iff fragments placed).1 h
  exact Fragment.newName_of_contains (Graph.contains_of_mem_stepList hstep) placed.position

/-- Where the new name is free, the renamed step is added, unless its artifacts cannot be bound. -/
theorem Joint.addPlaced_of_fresh {placed : PlacedStep} (inside : placed ∈ placedSteps fragments)
    (fresh : joint.graph.step? placed.newId = none) :
    (∃ renamed graph,
        renameStep table placed.fragment placed.position placed.step = .ok renamed ∧
        joint.graph.addStep renamed = .ok graph ∧
        joint.addPlaced table placed = ⟨graph, joint.failures⟩) ∨
      ∃ e, renameStep table placed.fragment placed.position placed.step = .error e ∧
        joint.addPlaced table placed =
          ⟨joint.graph, joint.failures ++ [.unbound placed.newId e]⟩ := by
  have named := newName_of_mem_placedSteps inside
  cases hrename : renameStep table placed.fragment placed.position placed.step with
  | error e =>
      refine .inr ⟨e, rfl, ?_⟩
      simp only [Joint.addPlaced, Joint.addStep, hrename, named]
  | ok renamed =>
      have is_new : joint.graph.step? renamed.id = none := by
        rw [id_of_renameStep hrename, named]
        exact fresh
      obtain ⟨graph, hadd⟩ := Graph.addStep_of_fresh is_new
      refine .inl ⟨renamed, graph, rfl, hadd, ?_⟩
      simp only [Joint.addPlaced, Joint.addStep, hrename, hadd]

/-- Adding steps of a plan touches no other name than theirs. -/
theorem Joint.step?_foldl_of_notMem (placed : List PlacedStep) (joint : Joint)
    (inside : ∀ p ∈ placed, p ∈ placedSteps fragments) {id : String}
    (other : id ∉ placed.map PlacedStep.newId) :
    (placed.foldl (Joint.addPlaced table) joint).graph.step? id = joint.graph.step? id := by
  induction placed generalizing joint with
  | nil => rfl
  | cons here rest ih =>
      rw [List.map_cons, List.mem_cons, not_or] at other
      rw [List.foldl_cons, ih _ (fun p hp => inside p (List.mem_cons_of_mem _ hp)) other.2]
      rcases Joint.addPlaced_cases table joint here with ⟨renamed, graph, hr, hg, heq⟩ | ⟨_, heq⟩
      · have hid : renamed.id = here.newId :=
          (id_of_renameStep hr).trans
            (newName_of_mem_placedSteps (inside here (List.mem_cons_self ..)))
        rw [heq, Graph.step?_addStep hg, hid, if_neg other.1]
      · rw [heq]

/-- Steps of a plan whose names are new leave nothing behind but what cannot be bound. -/
theorem Joint.failures_foldl_addPlaced (placed : List PlacedStep) (joint : Joint)
    (inside : ∀ p ∈ placed, p ∈ placedSteps fragments)
    (distinct : (placed.map PlacedStep.newId).Nodup)
    (fresh : ∀ p ∈ placed, joint.graph.step? p.newId = none) :
    (placed.foldl (Joint.addPlaced table) joint).failures =
      joint.failures ++ placed.filterMap (PlacedStep.failure? table) := by
  induction placed generalizing joint with
  | nil => simp
  | cons here rest ih =>
      rw [List.map_cons, List.nodup_cons] at distinct
      have in_plan : here ∈ placedSteps fragments := inside here (List.mem_cons_self ..)
      have still_fresh : ∀ p ∈ rest, (joint.addPlaced table here).graph.step? p.newId = none := by
        intro p hp
        have hne : p.newId ∉ [here].map PlacedStep.newId := by
          intro heq
          rw [List.map_singleton, List.mem_singleton] at heq
          exact distinct.1 (heq ▸ List.mem_map_of_mem hp)
        have kept := Joint.step?_foldl_of_notMem table [here] joint
          (fun q hq => List.mem_singleton.1 hq ▸ in_plan) hne
        exact kept.trans (fresh p (List.mem_cons_of_mem _ hp))
      rw [List.foldl_cons, ih _ (fun p hp => inside p (List.mem_cons_of_mem _ hp)) distinct.2
        still_fresh]
      rcases Joint.addPlaced_of_fresh table in_plan (fresh here (List.mem_cons_self ..))
        with ⟨renamed, graph, hrename, -, heq⟩ | ⟨e, hrename, heq⟩
      · rw [heq, List.filterMap_cons_none (by rw [PlacedStep.failure?, hrename]; rfl)]
      · rw [heq, List.filterMap_cons_some
          (by rw [PlacedStep.failure?, hrename]; rfl), List.append_assoc, List.singleton_append]

/-- Nothing is left behind but what cannot be bound, whatever the fragments are. -/
theorem failures_joinSteps (fragments : List Fragment) :
    (joinSteps fragments).failures =
      (placedSteps fragments).filterMap (PlacedStep.failure? (artifactTable fragments)) := by
  rw [joinSteps_eq_foldl]
  refine Joint.failures_foldl_addPlaced _ _ _ (fun _ hp => hp) (nodup_newIds fragments) ?_
  intro p _
  rw [Graph.step?, Graph.empty, Dict.get?_empty]

/-- When the turn of a step comes, its new name is free. -/
theorem fresh_at_turn {before after : List PlacedStep} {placed : PlacedStep}
    (turn : placedSteps fragments = before ++ placed :: after) :
    (before.foldl (Joint.addPlaced table) ⟨.empty, []⟩).graph.step? placed.newId = none := by
  have distinct := nodup_newIds fragments
  rw [turn, List.map_append, List.map_cons, List.nodup_middle, List.nodup_cons] at distinct
  have other : placed.newId ∉ before.map PlacedStep.newId := fun hmem =>
    distinct.1 (List.mem_append_left _ hmem)
  have inside : ∀ p ∈ before, p ∈ placedSteps fragments := by
    intro p hp
    rw [turn]
    exact List.mem_append_left _ hp
  rw [Joint.step?_foldl_of_notMem table before _ inside other, Graph.step?, Graph.empty,
    Dict.get?_empty]

end Failures

/-- A new name is of one fragment and one step only, of whatever characters the ids are made. So for
every list of fragments, accepted or not, each step that can be renamed is added when its turn
comes, and all that joining leaves behind is about artifacts that cannot be bound. -/
theorem joinSteps_without_collision (fragments : List Fragment) :
    (∀ (x y : String) (n m : Nat), scopedName x n = scopedName y m ↔ n = m ∧ x = y) ∧
    (∀ (before after : List PlacedStep) (placed : PlacedStep) (renamed : Step),
      placedSteps fragments = before ++ placed :: after →
      renameStep (artifactTable fragments) placed.fragment placed.position placed.step =
        .ok renamed →
      ∃ graph, (before.foldl (Joint.addPlaced (artifactTable fragments)) ⟨.empty, []⟩).graph.addStep
        renamed = .ok graph) ∧
    ∀ v ∈ (joinSteps fragments).failures, v.kind ≠ .duplicateStepId ∧
      ∃ placed ∈ placedSteps fragments, ∃ e,
        renameStep (artifactTable fragments) placed.fragment placed.position placed.step =
          .error e ∧
        v = .unbound placed.newId e := by
  refine ⟨fun x y n m => ⟨fun h => (scopedName_inj h).symm, ?_⟩, ?_, ?_⟩
  · rintro ⟨rfl, rfl⟩
    rfl
  · intro before after placed renamed turn hrename
    have inside : placed ∈ placedSteps fragments := by
      rw [turn]
      exact List.mem_append_right _ (List.mem_cons_self ..)
    rcases Joint.addPlaced_of_fresh (artifactTable fragments) inside (fresh_at_turn _ turn)
      with ⟨_, graph, hsame, hadd, _⟩ | ⟨e, herror, _⟩
    · rw [hrename] at hsame
      cases hsame
      exact ⟨graph, hadd⟩
    · rw [hrename] at herror
      cases herror
  · intro v hv
    rw [failures_joinSteps] at hv
    obtain ⟨placed, hplaced, hfailure⟩ := List.mem_filterMap.1 hv
    obtain ⟨e, herror, rfl⟩ := Option.map_eq_some_iff.1 hfailure
    exact ⟨by simp [Violation.unbound], placed, hplaced, e, errorOf?_eq_some_iff.1 herror, rfl⟩

/-- The graph with these steps that starts at `entry`. -/
def Graph.ofSteps (steps : List Step) (entry : String) : Graph :=
  (steps.foldl (fun g step => (Graph.addStep g step).toOption.getD g) Graph.empty).startingAt
    (some entry)

/-- Two fragments with ids that look like new names. -/
def lookalikes : List Fragment :=
  ["one", "two"].map fun name =>
    ⟨name, Graph.ofSteps [⟨"a", .final, [], none⟩, ⟨"a_1", .final, [], none⟩] "a", .empty, []⟩

/-- The last step of all gets a name that is still free. -/
theorem lookalikes_stay_apart :
    (joinSteps lookalikes).graph.ids = ["a_1", "a_1_1", "a_1_2", "a_2"] ∧
      ∃ graph, (((placedSteps lookalikes).take 3).foldl
        (Joint.addPlaced (artifactTable lookalikes)) ⟨.empty, []⟩).graph.addStep
          ⟨"a_1_2", .final, [], none⟩ = .ok graph := by
  have last : ∃ placed, placedSteps lookalikes = (placedSteps lookalikes).take 3 ++ [placed] ∧
      renameStep (artifactTable lookalikes) placed.fragment placed.position placed.step =
        .ok ⟨"a_1_2", .final, [], none⟩ :=
    ⟨(placedSteps lookalikes)[3], rfl, rfl⟩
  obtain ⟨placed, turn, hrename⟩ := last
  exact ⟨by decide +kernel, (joinSteps_without_collision lookalikes).2.1 _ [] placed _ turn hrename⟩

/-! ## Accepted plans -/

/-- In an accepted plan every artifact can be bound and no two names collide. -/
theorem joinSteps_failures {schemas : Schemas} {fragments : List Fragment}
    {dependencies : List Dependency} (wf : WellFormedPlan schemas fragments dependencies) :
    (joinSteps fragments).failures = [] := by
  rw [failures_joinSteps, List.filterMap_eq_nil_iff]
  intro placed hplaced
  obtain ⟨hposition, hstep⟩ := (mem_placedSteps_iff fragments placed).1 hplaced
  rw [PlacedStep.failure?, renameStep_eq_joinedStep wf hposition hstep]
  rfl

/-- The joined graph of an accepted plan, before any redirection, holds exactly the
renamed steps. -/
theorem step?_joinSteps_iff {schemas : Schemas} {fragments : List Fragment}
    {dependencies : List Dependency} (wf : WellFormedPlan schemas fragments dependencies)
    (id : String) (m : Step) :
    (joinSteps fragments).graph.step? id = some m ↔
      ∃ i fragment step, fragments[i]? = some fragment ∧ step ∈ fragment.graph.stepList ∧
        id = scopedName step.id (i + 1) ∧ m = joinedStep fragments fragment i step := by
  have h := joinSteps_failures wf
  rw [joinSteps_eq_foldl] at h ⊢
  rw [Joint.step?_foldl_iff _ _ h]
  have nothing : (Graph.empty).step? id ≠ some m := by
    intro hsome
    rw [Graph.step?, Graph.empty, Dict.get?_empty] at hsome
    cases hsome
  rw [or_iff_right nothing]
  constructor
  · rintro ⟨placed, hplaced, hrenamed, rfl⟩
    obtain ⟨hposition, hstep⟩ := (mem_placedSteps_iff fragments placed).1 hplaced
    rw [renameStep_eq_joinedStep wf hposition hstep] at hrenamed
    cases hrenamed
    exact ⟨placed.position, placed.fragment, placed.step, hposition, hstep, rfl, rfl⟩
  · rintro ⟨i, fragment, step, hposition, hstep, rfl, rfl⟩
    exact ⟨⟨fragment, i, step⟩, (mem_placedSteps_iff fragments _).2 ⟨hposition, hstep⟩,
      renameStep_eq_joinedStep wf hposition hstep, rfl⟩

/-! ## The whole merge -/

/-- The joined graph before any redirection. -/
def joinedGraph (fragments : List Fragment) : Graph :=
  ((joinSteps fragments).graph.startingAt (joinedStart? fragments)).withInfo (joinedInfo fragments)

theorem step?_joinedGraph (fragments : List Fragment) (id : String) :
    (joinedGraph fragments).step? id = (joinSteps fragments).graph.step? id := by
  have starting (g : Graph) (entry : Option String) : (g.startingAt entry).steps = g.steps := by
    cases entry with
    | none => rfl
    | some entry =>
        rw [Graph.startingAt, Graph.setEntry]
        split <;> rfl
  rw [joinedGraph, Graph.step?, Graph.withInfo, starting, Graph.step?]

/-- The joined graph starts where the first fragment does. -/
theorem entry_joinedGraph {schemas : Schemas} {fragments : List Fragment}
    {dependencies : List Dependency} (wf : WellFormedPlan schemas fragments dependencies)
    {first : Fragment} {entry : String} (hfirst : fragments[0]? = some first)
    (hentry : first.graph.entry = some entry) :
    (joinedGraph fragments).entry = some (scopedName entry 1) := by
  obtain ⟨start, hwf⟩ := wf.wellFormed first (List.mem_of_getElem? hfirst)
  obtain rfl : start = entry := Option.some.inj (hwf.entry_eq.symm.trans hentry)
  obtain ⟨step, hstep⟩ := (Graph.contains_iff _ start).1 hwf.contains_entry
  have hjoined := (step?_joinSteps_iff wf (scopedName start 1) _).2
    ⟨0, first, step, hfirst, Graph.mem_stepList_of_step? hstep, by rw [Graph.id_of_step? hstep],
      rfl⟩
  have exists_there := (Graph.contains_iff _ _).2 ⟨_, hjoined⟩
  have hstart : joinedStart? fragments = some (scopedName start 1) := by
    simp [joinedStart?, List.head?_eq_getElem?, hfirst, hentry,
      Fragment.newName?_of_contains hwf.contains_entry]
  rw [joinedGraph, hstart, Graph.startingAt, Graph.setEntry, if_pos exists_there]
  rfl

/-- Joining succeeds if the plan is accepted, nothing fails on the way, and the graph that results
is accepted. -/
theorem merge_eq_ok_iff (schemas : Schemas) (fragments : List Fragment)
    (dependencies : Option (List Dependency)) (g : Graph) :
    merge schemas fragments dependencies = .ok g ↔
      (validatePlan schemas fragments
          (dependencies.getD (deriveDependencies fragments))).isAccepted = true ∧
        (joinSteps fragments).failures = [] ∧
        (planWiring fragments (dependencies.getD (deriveDependencies fragments))).failures = [] ∧
        g = (joinedGraph fragments).redirect
          (planWiring fragments (dependencies.getD (deriveDependencies fragments))).redirects ∧
        (g.validate schemas).isAccepted = true := by
  simp only [merge]
  split
  · next rejected =>
      refine iff_of_false (fun h => by cases h) fun h => ?_
      simp [h.1] at rejected
  · next accepted =>
      have plan_accepted : (validatePlan schemas fragments
          (dependencies.getD (deriveDependencies fragments))).isAccepted = true := by
        simpa using accepted
      split
      · next failing =>
          refine iff_of_false (fun h => by cases h) ?_
          rintro ⟨_, hjoint, hwiring, _⟩
          simp [hjoint, hwiring] at failing
      · next harmless =>
          obtain ⟨hjoint, hwiring⟩ : (joinSteps fragments).failures = [] ∧
              (planWiring fragments
                (dependencies.getD (deriveDependencies fragments))).failures = [] := by
            simpa [List.isEmpty_iff] using harmless
          split
          · next graph_accepted =>
              constructor
              · intro h
                cases h
                exact ⟨plan_accepted, hjoint, hwiring, rfl, graph_accepted⟩
              · rintro ⟨_, _, _, rfl, _⟩
                rfl
          · next graph_rejected =>
              refine iff_of_false (fun h => by cases h) ?_
              rintro ⟨_, _, _, rfl, graph_accepted⟩
              exact graph_rejected graph_accepted

end Workflow
