import Workflow.Proofs.Merge.Kept

/-!
# Chains of redirections end at kept steps

Where a final step leads on, the entry that takes its place may itself be a final step that leads
on, and so on through any number of fragments, also by way of fragments that only wait. All these
jumps are forward, so a chain is over before the fragments are; it ends at an entry that is kept.
Since no chain ends at a step that is taken out, it does not matter when a step is taken out and
when what led to it is led away.

Main statement: `redirections_settle`.
-/

namespace Workflow

/-- What the redirections of a plan do to its joined graph. -/
structure Settles (fragments : List Fragment) (redirects : Dict String)
    (joined : Graph) : Prop where
  forward : ∀ id target, redirects.get? id = some target →
    ∃ i n, i < n ∧ IsFinalAt fragments i id ∧ IsEntryAt fragments n target
  /-- Following a chain stops, however long it might go on, and always at one place. -/
  ends : ∀ id, redirects.contains id = true → ∃ last, EndsAt redirects last id ∧
    (∀ fuel, redirects.size < fuel → followRedirects redirects fuel id = last) ∧
    redirects.contains last = false ∧ joined.contains last = true
  /-- Each step may be taken out before or after anything else is done. -/
  in_any_order : ∀ changes : List Rewiring, changes.Perm (rewirings redirects) →
    changes.foldl Rewiring.apply joined = joined.redirect redirects
  unnamed : ∀ changes : List Rewiring, changes.Perm (rewirings redirects) →
    ∀ id, redirects.contains id = true →
      (changes.foldl Rewiring.apply joined).contains id = false ∧
        (∀ step ∈ (changes.foldl Rewiring.apply joined).stepList, id ∉ step.targets) ∧
        (changes.foldl Rewiring.apply joined).entry ≠ some id
  /-- What is there besides the redirected steps stays, the ends of the chains among it. -/
  kept : ∀ changes : List Rewiring, changes.Perm (rewirings redirects) →
    ∀ id, redirects.contains id = false →
      (changes.foldl Rewiring.apply joined).contains id = joined.contains id

section Plan

variable {schemas : Schemas} {fragments : List Fragment} {dependencies : List Dependency}

/-- The chain of a redirected step ends at a step of the joined graph. -/
theorem contains_landing_joinedGraph (wf : WellFormedPlan schemas fragments dependencies)
    {id target : String}
    (h : (planWiring fragments dependencies).redirects.get? id = some target) :
    (joinedGraph fragments).contains (landing (planWiring fragments dependencies).redirects id) =
      true := by
  obtain ⟨_, n, _, _, hentry⟩ := wiring_redirects wf h
  have there := (assembled_assembledGraph wf).contains_landing hentry
  rw [← landing_eq_of_redirect wf h] at there
  obtain ⟨m, hm⟩ := (Graph.contains_iff _ _).1 there
  rw [assembledGraph, Graph.step?_redirect fun id => (endsAt_wiring wf id).not_redirected] at hm
  split at hm
  · cases hm
  · obtain ⟨joined, hjoined, -⟩ := Option.map_eq_some_iff.1 hm
    exact (Graph.contains_iff _ _).2 ⟨joined, hjoined⟩

/-- Each redirection of an accepted plan leads from a final step of a fragment to the entry of a
later one, so following redirections ends, at a step of the joined graph that is not redirected. In
whatever order transitions are led away and steps taken out, the graph becomes the same, and in the
end no transition names a step that is gone, nor does the entry. -/
theorem redirections_settle
    (accepted : (validatePlan schemas fragments dependencies).isAccepted = true) :
    Settles fragments (planWiring fragments dependencies).redirects (joinedGraph fragments) := by
  have wf := wellFormedPlan_of_isAccepted accepted
  have ends (id : String) := (endsAt_wiring wf id).not_redirected
  refine
    { forward := fun id target h => wiring_redirects wf h
      ends := fun id redirected => ?_
      in_any_order := fun changes perm => Graph.foldl_rewirings ends perm _
      unnamed := fun changes perm id redirected => ?_
      kept := fun changes perm id kept => ?_ }
  · obtain ⟨target, htarget⟩ := Option.isSome_iff_exists.1 redirected
    have landed := endsAt_wiring wf id
    refine ⟨_, landed, fun fuel enough => ?_, (Assembled.contains_redirects_iff _ _).2 (ends id),
      contains_landing_joinedGraph wf htarget⟩
    exact (endsAt_followRedirects_wiring wf enough id).unique landed
  · rw [Graph.foldl_rewirings ends perm]
    exact Graph.redirect_names_no_redirected ends _ redirected
  · have none_there := (Assembled.contains_redirects_iff _ _).1 kept
    rw [Graph.foldl_rewirings ends perm]
    show (Graph.step? _ id).isSome = ((joinedGraph fragments).step? id).isSome
    rw [Graph.step?_redirect ends, none_there, if_neg (by simp), Option.isSome_map]

end Plan

/-- In a plan that hands a word on, the way from the thought over the pause ends at the rhyme, also
if the last change is made first. -/
theorem handedOn_settles :
    EndsAt (planWiring handedOn (deriveDependencies handedOn)).redirects "rhyme_3" "end_1" ∧
      (((rewirings (planWiring handedOn (deriveDependencies handedOn)).redirects).reverse.foldl
        Rewiring.apply (joinedGraph handedOn)).step? "think_1").map Step.targets =
          some ["rhyme_3"] := by
  have accepted : (validatePlan (fun _ => none) handedOn (deriveDependencies handedOn)).isAccepted =
      true := by
    decide +kernel
  have settled := redirections_settle accepted
  refine ⟨?_, ?_⟩
  · obtain ⟨last, hends, followed, -⟩ := settled.ends "end_1" (by decide +kernel)
    have reached : followRedirects (planWiring handedOn (deriveDependencies handedOn)).redirects 3
        "end_1" = "rhyme_3" := by
      decide +kernel
    rwa [← followed 3 (by decide +kernel), reached] at hends
  · rw [settled.in_any_order _ (List.reverse_perm _)]
    decide +kernel

end Workflow
