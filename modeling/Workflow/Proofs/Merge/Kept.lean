import Workflow.Proofs.Merge.Merged

/-!
# Nothing is lost or doubled by joining

The steps of a merged graph are the renamed steps of the plan without the final steps that jumps
have taken the places of, and what is kept looks as before: the action with other references in it,
and the transitions one by one, each to the renamed target or, if that is gone, to where the entry
of a later fragment leads. So a run of the merged graph goes through the fragments in their order.

Main statement: `merge_preserves`.
-/

namespace Workflow

/-- Both actions are of one kind, and tool calls are of one tool with parameters of the
same names. -/
def Action.Resembles : Action → Action → Prop
  | .tool name parameters, .tool name' parameters' =>
      name' = name ∧ parameters'.keys = parameters.keys
  | .reasoning _, .reasoning _ => True
  | .final, .final => True
  | _, _ => False

theorem Action.resembles_substitute (action : Action) (replace : Reference → Option Reference) :
    action.Resembles (action.substitute replace) := by
  cases action with
  | tool name parameters =>
      refine ⟨rfl, ?_⟩
      simp only [Dict.keys, Dict.map, List.map_map]
      rfl
  | reasoning _ => trivial
  | final => trivial

/-- Where a transition of the fragment at a position leads after joining: to the renamed target if
that is kept, and else to where the entry of a later fragment leads. -/
inductive LeadsOn (fragments : List Fragment) (redirects : Dict String) (position : Nat)
    (target : String) : String → Prop where
  | kept : redirects.contains (scopedName target (position + 1)) = false →
      LeadsOn fragments redirects position target (scopedName target (position + 1))
  | later {n : Nat} {entry last : String} :
      redirects.contains (scopedName target (position + 1)) = true → position < n →
      IsEntryAt fragments n entry → EndsAt redirects last entry →
      LeadsOn fragments redirects position target last

/-- What a kept step looks like after joining. -/
structure PlacedStep.Becomes (fragments : List Fragment) (redirects : Dict String) (g : Graph)
    (placed : PlacedStep) (m : Step) : Prop where
  id_eq : m.id = placed.newId
  action : placed.step.action.Resembles m.action
  thoughts : m.thoughts = placed.step.thoughts
  transitions : List.Forall₂
    (fun t t' =>
      t'.label = joinedLabel fragments placed.fragment placed.position t.label ∧
        LeadsOn fragments redirects placed.position t.target t'.target ∧
        g.contains t'.target = true)
    placed.step.transitions m.transitions

/-- The graph is made of the steps of the fragments, of which only redirected final steps are
missing. -/
structure Preserves (fragments : List Fragment) (redirects : Dict String) (g : Graph) : Prop where
  ids_perm : g.ids.Perm
    (((placedSteps fragments).map PlacedStep.newId).filter fun id => !redirects.contains id)
  kept_of_not_final : ∀ placed ∈ placedSteps fragments, placed.step.action ≠ .final →
    redirects.contains placed.newId = false
  becomes : ∀ placed ∈ placedSteps fragments, redirects.contains placed.newId = false →
    ∃ m, g.step? placed.newId = some m ∧ placed.Becomes fragments redirects g m
  /-- No transition leads back to an earlier fragment. -/
  onward : ∀ x i y j, scopedName y j ∈ g.successors (scopedName x i) → i ≤ j
  entry_eq : ∃ first entry, fragments[0]? = some first ∧ first.graph.entry = some entry ∧
    g.entry = some (scopedName entry 1) ∧ g.contains (scopedName entry 1) = true

namespace Assembled

variable {schemas : Schemas} {fragments : List Fragment} {dependencies : List Dependency}
  {g : Graph}

theorem contains_redirects_iff (redirects : Dict String) (id : String) :
    redirects.contains id = false ↔ redirects.get? id = none := by
  simp [Dict.contains]

/-- A transition keeps its target, or the target is a final step that is redirected. -/
theorem leadsOn_landing (assembled : Assembled schemas fragments dependencies g) {i : Nat}
    (target : String) :
    LeadsOn fragments (planWiring fragments dependencies).redirects i target
      (landing (planWiring fragments dependencies).redirects (scopedName target (i + 1))) := by
  cases h : (planWiring fragments dependencies).redirects.get? (scopedName target (i + 1)) with
  | none =>
      rw [landing_of_not_redirected h]
      exact .kept ((contains_redirects_iff _ _).2 h)
  | some entry =>
      have redirected : (planWiring fragments dependencies).redirects.contains
          (scopedName target (i + 1)) = true := by
        rw [Dict.contains, h]
        rfl
      obtain ⟨j, n, before, ⟨_, _, _, _, hid⟩, hentry⟩ := wiring_redirects assembled.plan h
      obtain rfl : i = j := Nat.succ.inj (scopedName_inj hid).2
      rw [landing_eq_of_redirect assembled.plan h]
      exact .later redirected before hentry (endsAt_wiring assembled.plan entry)

/-- Where a transition leads after joining there is a step. -/
theorem contains_landing_target (assembled : Assembled schemas fragments dependencies g) {i : Nat}
    {fragment : Fragment} {step : Step} {target : String} (hi : fragments[i]? = some fragment)
    (hstep : step ∈ fragment.graph.stepList) (h : target ∈ step.targets) :
    g.contains (landing (planWiring fragments dependencies).redirects
      (scopedName target (i + 1))) = true := by
  cases hredirect : (planWiring fragments dependencies).redirects.get?
      (scopedName target (i + 1)) with
  | none =>
      obtain ⟨_, wf⟩ := assembled.plan.wellFormed fragment (List.mem_of_getElem? hi)
      obtain ⟨there, hthere⟩ := (Graph.contains_iff _ target).1
        (wf.targets_exist step hstep target h)
      obtain rfl := Graph.id_of_step? hthere
      rw [landing_of_not_redirected hredirect]
      exact (Graph.contains_iff g _).2
        ⟨_, assembled.step?_of_kept hi (Graph.mem_stepList_of_step? hthere) hredirect⟩
  | some entry =>
      obtain ⟨_, n, _, _, hentry⟩ := wiring_redirects assembled.plan hredirect
      rw [landing_eq_of_redirect assembled.plan hredirect]
      exact assembled.contains_landing hentry

theorem mem_ids_iff (assembled : Assembled schemas fragments dependencies g) (id : String) :
    id ∈ g.ids ↔ id ∈ (placedSteps fragments).map PlacedStep.newId ∧
      (planWiring fragments dependencies).redirects.get? id = none := by
  rw [Graph.mem_ids_iff, Graph.contains_iff, List.mem_map]
  constructor
  · rintro ⟨m, hm⟩
    obtain ⟨i, fragment, step, hi, hstep, rfl, kept, _⟩ := (assembled.step?_iff id m).1 hm
    exact ⟨⟨⟨fragment, i, step⟩, (mem_placedSteps_iff fragments _).2 ⟨hi, hstep⟩, rfl⟩, kept⟩
  · rintro ⟨⟨placed, hplaced, rfl⟩, kept⟩
    obtain ⟨hi, hstep⟩ := (mem_placedSteps_iff fragments placed).1 hplaced
    exact ⟨_, assembled.step?_of_kept hi hstep kept⟩

theorem becomes_mergedStep (assembled : Assembled schemas fragments dependencies g)
    {placed : PlacedStep} (h : placed ∈ placedSteps fragments) :
    placed.Becomes fragments (planWiring fragments dependencies).redirects g
      (mergedStep fragments dependencies placed.fragment placed.position placed.step) := by
  obtain ⟨hi, hstep⟩ := (mem_placedSteps_iff fragments placed).1 h
  refine ⟨rfl, Action.resembles_substitute placed.step.action _, rfl, ?_⟩
  -- Both renaming and redirecting go through the transitions one by one.
  rw [mergedStep, Step.redirect, joinedStep, List.map_map, List.forall₂_map_right_iff,
    List.forall₂_same]
  intro t ht
  exact ⟨rfl, assembled.leadsOn_landing t.target,
    assembled.contains_landing_target hi hstep (List.mem_map_of_mem ht)⟩

/-- A transition stays in its fragment and is one of the fragment, or it leads to a later one. -/
theorem leads_cases (assembled : Assembled schemas fragments dependencies g) {id last : String}
    (h : g.Leads id last) :
    ∃ i x j y, id = scopedName x (i + 1) ∧ last = scopedName y (j + 1) ∧
      (i < j ∨ i = j ∧ ∃ fragment, fragments[i]? = some fragment ∧ fragment.graph.Leads x y) := by
  obtain ⟨m, hm, hmem⟩ := (Graph.mem_successors_iff g _ _).1 h
  obtain ⟨i, fragment, step, hi, hstep, rfl, _, rfl⟩ := (assembled.step?_iff _ m).1 hm
  -- The target is the landing of the target of some transition of the fragment.
  rw [mergedStep_targets] at hmem
  obtain ⟨target, htarget, rfl⟩ := List.mem_map.1 hmem
  have leads := assembled.leadsOn_landing (i := i) target
  generalize landing _ (scopedName target (i + 1)) = last at leads
  cases leads with
  | kept _ =>
      refine ⟨i, step.id, i, target, rfl, rfl, .inr ⟨rfl, fragment, hi, ?_⟩⟩
      rwa [Graph.Leads, Graph.successors_of_step? ((Graph.mem_stepList_iff _ step).1 hstep)]
  | later _ before hentry ends =>
      obtain ⟨n, hle, _, y, _, _, rfl⟩ := assembled.isEntryAt_of_endsAt ends hentry
      exact ⟨i, step.id, n, y, rfl, rfl, .inl (Nat.lt_of_lt_of_le before hle)⟩

/-- A transition does not lead to an earlier fragment. -/
theorem le_of_mem_successors (assembled : Assembled schemas fragments dependencies g) {x y : String}
    {i j : Nat} (h : scopedName y j ∈ g.successors (scopedName x i)) : i ≤ j := by
  obtain ⟨k, _, n, _, hid, hlast, onward⟩ := assembled.leads_cases h
  obtain ⟨_, rfl⟩ := scopedName_inj hid
  obtain ⟨_, rfl⟩ := scopedName_inj hlast
  rcases onward with later | ⟨same, _⟩ <;> omega

end Assembled

/-- Joining loses and doubles nothing: the merged graph has the steps of all fragments, each once,
without the final steps that lead on to a later fragment, and it starts where the first fragment
does. -/
theorem merge_preserves {schemas : Schemas} {fragments : List Fragment}
    {dependencies : Option (List Dependency)} {g : Graph}
    (h : merge schemas fragments dependencies = .ok g) :
    Preserves fragments
      (planWiring fragments (dependencies.getD (deriveDependencies fragments))).redirects g := by
  obtain ⟨plan_accepted, _, _, rfl, _⟩ := (merge_eq_ok_iff ..).1 h
  have wf := wellFormedPlan_of_isAccepted plan_accepted
  generalize dependencies.getD (deriveDependencies fragments) = edges at *
  have assembled := assembled_assembledGraph wf
  refine
    { ids_perm := ?_
      kept_of_not_final := ?_
      becomes := ?_
      onward := fun x i y j hnext => assembled.le_of_mem_successors hnext
      entry_eq := exists_entry_assembledGraph wf }
  · -- Neither list repeats an id, and both hold the same ones.
    have nodup := (nodup_newIds fragments).filter fun id =>
      !(planWiring fragments edges).redirects.contains id
    refine (List.perm_ext_iff_of_nodup (Graph.ids_nodup _) nodup).2 fun id => ?_
    refine (assembled.mem_ids_iff id).trans ?_
    rw [List.mem_filter, Bool.not_eq_true', Assembled.contains_redirects_iff]
  · intro placed hplaced not_final
    obtain ⟨hi, hstep⟩ := (mem_placedSteps_iff fragments placed).1 hplaced
    refine (Assembled.contains_redirects_iff _ _).2 (Option.eq_none_iff_forall_ne_some.2 ?_)
    intro target hredirect
    obtain ⟨step, hstep', final⟩ := (placed.fragment.mem_finalIds_iff placed.step.id).1
      (assembled.mem_finalIds_of_redirected hi hredirect)
    rw [(Graph.mem_stepList_iff _ placed.step).1 hstep] at hstep'
    cases hstep'
    exact not_final final
  · intro placed hplaced kept
    obtain ⟨hi, hstep⟩ := (mem_placedSteps_iff fragments placed).1 hplaced
    exact ⟨_, assembled.step?_of_kept hi hstep ((Assembled.contains_redirects_iff _ _).1 kept),
      assembled.becomes_mergedStep hplaced⟩

/-- A plan in which a fragment of a single final step stands between the producer of a word and its
reader. -/
def handedOn : List Fragment :=
  [ questionFragment "think" "Think of a word." (some "word") [],
    { name := "pause", graph := Graph.ofSteps [⟨"pause", .final, [], none⟩] "pause",
      produces := .empty, consumes := ["word"] },
    questionFragment "rhyme" "What rhymes with \x7bword\x7d?" none ["word"] ]

/-- The final step in between is gone with the one before it, and nothing else is. -/
theorem handedOn_preserved :
    ∃ g, merge (fun _ => none) handedOn none = .ok g ∧
      Preserves handedOn (planWiring handedOn (deriveDependencies handedOn)).redirects g ∧
      g.ids.Perm ["think_1", "end_3", "rhyme_3"] := by
  have succeeds : (merge (fun _ => none) handedOn none).isOk = true := by decide +kernel
  cases h : merge (fun _ => none) handedOn none with
  | error report =>
      rw [h] at succeeds
      cases succeeds
  | ok g =>
      have preserved := merge_preserves h
      have kept : (((placedSteps handedOn).map PlacedStep.newId).filter fun id =>
          !(planWiring handedOn (deriveDependencies handedOn)).redirects.contains id) =
            ["think_1", "end_3", "rhyme_3"] := by
        decide +kernel
      exact ⟨g, rfl, preserved, kept ▸ preserved.ids_perm⟩

end Workflow
