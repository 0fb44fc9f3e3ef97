import Workflow.Proofs.Merge.Merged

/-!
# Consumers run after their producers

A dependency on an artifact is kept by the merged graph: no run that goes on from the step behind
the artifact to an end leaves out the fragment that reads it. A walk can leave a fragment only by
one of its redirected final steps. If that leads to an earlier consumer, the later one waits there,
and what waits at a fragment is passed on by its only final step; by induction on how far the
reading fragment is away the walk comes to its entry.

Main statement: `consumer_on_every_walk`.
-/

namespace Workflow

/-! ## Leaving a fragment -/

namespace Merged

variable {schemas : Schemas} {fragments : List Fragment} {dependencies : List Dependency}
  {g : Graph}

/-- A walk to a final step of the merged graph goes through a final step of the fragment in which it
starts: it ends there, or it goes on to where that step is redirected. -/
theorem walk_leaves (merged : Merged schemas fragments dependencies g) {i : Nat}
    {fragment : Fragment} (hi : fragments[i]? = some fragment) {id last : String}
    {walk : List String} {m : Step} (w : g.Walk (scopedName id (i + 1)) last walk)
    (hlast : g.step? last = some m) (hfinal : m.action = .final) :
    ∃ final ∈ fragment.finalIds, fragment.graph.Reachable id final ∧
      ((planWiring fragments dependencies).redirects.get? (scopedName final (i + 1)) = none ∨
        ∃ rest, rest ⊆ walk ∧ g.Walk (landing (planWiring fragments dependencies).redirects
          (scopedName final (i + 1))) last rest) := by
  obtain ⟨_, wf⟩ := merged.plan.wellFormed fragment (List.mem_of_getElem? hi)
  induction walk generalizing id with
  | nil => exact absurd rfl w.ne_nil
  | cons head tail ih =>
      obtain ⟨here, hhere⟩ := (Graph.contains_iff g _).1 w.contains_first
      obtain ⟨j, fragment', step, hj, hstep, hid, kept, rfl⟩ := (merged.step?_iff _ here).1 hhere
      obtain ⟨rfl, hplace⟩ := scopedName_inj hid
      obtain rfl : i = j := Nat.succ.inj hplace
      obtain rfl : fragment = fragment' := by
        rw [hi] at hj
        exact Option.some.inj hj
      have hin := Graph.contains_of_mem_stepList hstep
      rcases w.cases_head with ⟨rfl, _⟩ | ⟨next, rest, hnext, v, hwalk⟩
      · -- The walk ends here, at a step that is final in the fragment too.
        rw [hhere] at hlast
        cases hlast
        refine ⟨step.id, (fragment.mem_finalIds_iff step.id).2 ⟨step, ?_, ?_⟩, .refl hin, .inl kept⟩
        · exact (Graph.mem_stepList_iff _ step).1 hstep
        · exact (Action.substitute_eq_final_iff step.action _).1 hfinal
      · obtain ⟨_, rfl⟩ := List.cons.inj hwalk
        rw [Graph.successors_of_step? hhere] at hnext
        obtain ⟨t', ht', rfl⟩ := List.mem_map.1 hnext
        obtain ⟨t'', ht'', rfl⟩ := List.mem_map.1 ht'
        obtain ⟨t, ht, rfl⟩ := List.mem_map.1 ht''
        have target := wf.targets_exist step hstep t.target (List.mem_map_of_mem ht)
        have leads : fragment.graph.Reachable step.id t.target := by
          refine (Graph.Reachable.refl hin).tail ?_ target
          rw [Graph.successors_of_step? ((Graph.mem_stepList_iff _ step).1 hstep)]
          exact List.mem_map_of_mem ht
        -- The transition stays in the fragment, or its target is the final step to leave by.
        cases hredirect : (planWiring fragments dependencies).redirects.get?
            (scopedName t.target (i + 1)) with
        | none =>
            rw [landing_of_not_redirected hredirect] at v
            obtain ⟨final, hmem, reached, hend⟩ := ih v
            refine ⟨final, hmem, leads.trans reached, hend.imp_right ?_⟩
            rintro ⟨rest, hsub, wrest⟩
            exact ⟨rest, fun x hx => List.mem_cons_of_mem _ (hsub hx), wrest⟩
        | some _ =>
            exact ⟨t.target, merged.assembled.mem_finalIds_of_redirected hi hredirect, leads,
              .inr ⟨tail, List.subset_cons_self .., v⟩⟩

/-! ## Coming to a consumer -/

/-- What leads on to the entry of a fragment at which another one waits comes to the entry of that
other one. -/
theorem mem_walk_of_waiting (merged : Merged schemas fragments dependencies g) {n c : Nat}
    {entry target last : String} {walk : List String} {m : Step}
    (hwait : n = c ∨ (n, c) ∈ (planWiring fragments dependencies).waiting)
    (hentry : IsEntryAt fragments n entry) (htarget : IsEntryAt fragments c target)
    (w : g.Walk (landing (planWiring fragments dependencies).redirects entry) last walk)
    (hlast : g.step? last = some m) (hfinal : m.action = .final) :
    landing (planWiring fragments dependencies).redirects target ∈ walk := by
  -- Each fragment that passes `c` on stands nearer to it, since redirections lead onwards.
  induction hdistance : c - n using Nat.strong_induction_on generalizing n entry walk with
  | _ distance ih =>
      rcases hwait with rfl | hwait
      · rw [hentry.unique htarget] at w
        exact w.first_mem
      · obtain ⟨before, fragment, final, hn, hsingle, hdemand⟩ :=
          wiring_waiting merged.plan merged.unambiguous hwait
        obtain ⟨n', entry', hlt, hle, hentry', hredirect, hwait'⟩ :=
          wiring_serves merged.plan hdemand
        have leads := landing_eq_of_redirect merged.plan hredirect
        have closer : c - n' < distance := by omega
        obtain ⟨fragment', id, hn', hid, rfl⟩ := hentry
        obtain rfl : fragment = fragment' := by
          rw [hn] at hn'
          exact Option.some.inj hn'
        cases hown : (planWiring fragments dependencies).redirects.get?
            (scopedName id (n + 1)) with
        | none =>
            rw [landing_of_not_redirected hown] at w
            obtain ⟨f, hf, _, hend⟩ := merged.walk_leaves hn w hlast hfinal
            obtain rfl : f = final := by
              rw [hsingle] at hf
              exact List.mem_singleton.1 hf
            rcases hend with hnone | ⟨rest, hsub, wrest⟩
            · rw [hnone] at hredirect
              cases hredirect
            · rw [leads] at wrest
              exact hsub (ih _ closer hwait' hentry' wrest rfl)
        | some _ =>
            -- The entry is itself the final step that is redirected.
            have hf := merged.assembled.mem_finalIds_of_redirected hn hown
            obtain rfl : id = final := by
              rw [hsingle] at hf
              exact List.mem_singleton.1 hf
            rw [leads] at w
            exact ih _ closer hwait' hentry' w rfl

/-- A walk that leaves the producer of an artifact comes to the entry of whoever depends on it. -/
theorem mem_walk_of_dependency (merged : Merged schemas fragments dependencies g) {d : Dependency}
    (hd : d ∈ dependencies) {p c : Nat} {producer consumer : Fragment} {binding : ArtifactBinding}
    (hp : fragments[p]? = some producer) (hpname : producer.name = d.producer)
    (hc : fragments[c]? = some consumer) (hcname : consumer.name = d.consumer)
    (hbinding : producer.produces.get? d.artifact = some binding) {target last : String}
    (htarget : IsEntryAt fragments c target) {walk : List String} {m : Step}
    (w : g.Walk (scopedName binding.step (p + 1)) last walk) (hlast : g.step? last = some m)
    (hfinal : m.action = .final) :
    landing (planWiring fragments dependencies).redirects target ∈ walk := by
  obtain ⟨f, hf, reached, hend⟩ := merged.walk_leaves hp w hlast hfinal
  have after : f ∈ producer.finalsAfter binding.step :=
    (producer.mem_finalsAfter_iff binding.step f).2 ⟨hf, reached⟩
  rcases wiring_dependency merged.plan.names_nodup merged.unambiguous hd hp hpname hc hcname
    hbinding with hnil | ⟨final, hsingle, hdemand⟩
  · rw [hnil] at after
    cases after
  · obtain rfl : f = final := by
      rw [hsingle] at after
      exact List.mem_singleton.1 after
    obtain ⟨n, entry, _, _, hentry, hredirect, hwait⟩ := wiring_serves merged.plan hdemand
    rcases hend with hnone | ⟨rest, hsub, wrest⟩
    · rw [hnone] at hredirect
      cases hredirect
    · rw [landing_eq_of_redirect merged.plan hredirect] at wrest
      exact hsub (merged.mem_walk_of_waiting hwait hentry htarget wrest hlast hfinal)

/-- The step behind an artifact is kept, since a final step writes nothing. -/
theorem contains_bound (merged : Merged schemas fragments dependencies g) {p : Nat}
    {producer : Fragment} {artifact : String} {binding : ArtifactBinding}
    (hp : fragments[p]? = some producer)
    (hbinding : producer.produces.get? artifact = some binding) :
    g.contains (scopedName binding.step (p + 1)) = true := by
  obtain ⟨_, wf⟩ := merged.plan.wellFormed producer (List.mem_of_getElem? hp)
  obtain ⟨step, hstep, writes⟩ := wf.bound artifact binding hbinding
  have kept : (planWiring fragments dependencies).redirects.get?
      (scopedName binding.step (p + 1)) = none := by
    cases hredirect : (planWiring fragments dependencies).redirects.get?
        (scopedName binding.step (p + 1)) with
    | none => rfl
    | some _ =>
        obtain ⟨step', hstep', final⟩ := (producer.mem_finalIds_iff binding.step).1
          (merged.assembled.mem_finalIds_of_redirected hp hredirect)
        rw [hstep] at hstep'
        cases hstep'
        rw [Step.produces, final] at writes
        cases writes
  rw [← Graph.id_of_step? hstep] at kept ⊢
  exact (Graph.contains_iff g _).2
    ⟨_, merged.step?_of_kept hp (Graph.mem_stepList_of_step? hstep) kept⟩

end Merged

/-- In a merged graph every walk from the step behind an artifact to a final step passes the entry
of each fragment that depends on the artifact, or the step to which that entry is redirected. -/
theorem consumer_on_every_walk {schemas : Schemas} {fragments : List Fragment}
    {dependencies : Option (List Dependency)} {g : Graph}
    (h : merge schemas fragments dependencies = .ok g) {d : Dependency}
    (hd : d ∈ dependencies.getD (deriveDependencies fragments)) :
    ∃ p producer c consumer binding entry target,
      p < c ∧ fragments[p]? = some producer ∧ producer.name = d.producer ∧
      fragments[c]? = some consumer ∧ consumer.name = d.consumer ∧
      producer.produces.get? d.artifact = some binding ∧
      g.contains (scopedName binding.step (p + 1)) = true ∧
      consumer.graph.entry = some entry ∧
      EndsAt (planWiring fragments (dependencies.getD (deriveDependencies fragments))).redirects
        target (scopedName entry (c + 1)) ∧
      g.contains target = true ∧
      ∀ last step walk, g.Walk (scopedName binding.step (p + 1)) last walk →
        g.step? last = some step → step.action = .final → target ∈ walk := by
  have merged := merged_of_merge h
  generalize dependencies.getD (deriveDependencies fragments) = edges at *
  obtain ⟨p, producer, c, consumer, before, hp, hpname, hc, hcname, offers⟩ :=
    merged.plan.ordered d hd
  obtain ⟨binding, hbinding⟩ := Option.isSome_iff_exists.1 offers
  obtain ⟨entry, wf⟩ := merged.plan.wellFormed consumer (List.mem_of_getElem? hc)
  have hentry : IsEntryAt fragments c (scopedName entry (c + 1)) :=
    ⟨consumer, entry, hc, wf.entry_eq, rfl⟩
  refine ⟨p, producer, c, consumer, binding, entry,
    landing (planWiring fragments edges).redirects (scopedName entry (c + 1)), before, hp, hpname,
    hc, hcname, hbinding, merged.contains_bound hp hbinding, wf.entry_eq,
    endsAt_wiring merged.plan _, merged.contains_landing hentry, ?_⟩
  intro last step walk w hlast hfinal
  exact merged.mem_walk_of_dependency hd hp hpname hc hcname hbinding hentry w hlast hfinal

/-- The last reader of a relay is waited for, although another one reads the same word before it. -/
theorem relay_reaches_last_reader :
    ∃ g, merge (fun _ => none) relay none = .ok g ∧ g.contains "think_1" = true ∧
      ∀ last step walk, g.Walk "think_1" last walk → g.step? last = some step →
        step.action = .final → "rhyme_3" ∈ walk := by
  obtain ⟨g, hg⟩ := relay_merges
  have edge : (⟨"word", "think", "rhyme"⟩ : Dependency) ∈
      (none : Option (List Dependency)).getD (deriveDependencies relay) := by decide +kernel
  obtain ⟨p, producer, c, consumer, binding, entry, target, _, hp, hpname, hc, hcname, hbinding,
    kept, hentry, ends, _, passes⟩ := consumer_on_every_walk hg edge
  have nodup : (relay.map (·.name)).Nodup := by decide +kernel
  obtain rfl : p = 0 := eq_of_getElem?_name nodup hp (b := relay[0]) rfl hpname
  obtain rfl : c = 2 := eq_of_getElem?_name nodup hc (b := relay[2]) rfl hcname
  cases hp
  cases hc
  cases hbinding
  cases hentry
  have direct : (planWiring relay (deriveDependencies relay)).redirects.get? "rhyme_3" = none := by
    decide +kernel
  obtain rfl : target = "rhyme_3" := ends.unique (.here direct)
  exact ⟨g, hg, kept, passes⟩

end Workflow
