import Workflow.Proofs.Merge.Joining
import Workflow.Proofs.Merge.Redirect
import Workflow.Proofs.Merge.Wiring

/-!
# Merged graphs

What the result of joining a plan is made of, step by step: the renamed steps of all fragments but
the redirected ones, each with its transitions led to the ends of the chains of redirections. The
chains climb from fragment to fragment, so every one of them ends at a step that is kept.

Main statements: `assembled_assembledGraph` and `merged_of_merge`.
-/

namespace Workflow

section Chains

variable {schemas : Schemas} {fragments : List Fragment} {dependencies : List Dependency}

/-- Redirections climb from a fragment to a later one, so their chains end. -/
theorem endsAt_followRedirects_wiring (wf : WellFormedPlan schemas fragments dependencies)
    {fuel : Nat} (enough : (planWiring fragments dependencies).redirects.size < fuel)
    (id : String) :
    EndsAt (planWiring fragments dependencies).redirects
      (followRedirects (planWiring fragments dependencies).redirects fuel id) id := by
  refine endsAt_of_size_lt placeOf (fun id target h => ?_) enough id
  obtain ⟨i, n, before, ⟨_, final, _, _, rfl⟩, ⟨_, entry, _, _, rfl⟩⟩ := wiring_redirects wf h
  rw [placeOf_scopedName, placeOf_scopedName]
  exact Nat.succ_lt_succ before

theorem endsAt_wiring (wf : WellFormedPlan schemas fragments dependencies) (id : String) :
    EndsAt (planWiring fragments dependencies).redirects
      (landing (planWiring fragments dependencies).redirects id) id :=
  endsAt_followRedirects_wiring wf (Nat.lt_succ_self _) id

/-- A redirection leads where its chain leads. -/
theorem landing_eq_of_redirect (wf : WellFormedPlan schemas fragments dependencies)
    {id target : String}
    (h : (planWiring fragments dependencies).redirects.get? id = some target) :
    landing (planWiring fragments dependencies).redirects id =
      landing (planWiring fragments dependencies).redirects target :=
  (endsAt_wiring wf id).unique (.next h (endsAt_wiring wf target))

end Chains

/-- A step of a fragment as it stands in the merged graph. -/
def mergedStep (fragments : List Fragment) (dependencies : List Dependency) (fragment : Fragment)
    (position : Nat) (step : Step) : Step :=
  (joinedStep fragments fragment position step).redirect
    (planWiring fragments dependencies).redirects

section MergedStep

variable (fragments : List Fragment) (dependencies : List Dependency) (fragment : Fragment)
  (position : Nat) (step : Step)

theorem mergedStep_labels :
    (mergedStep fragments dependencies fragment position step).labels =
      step.labels.map (joinedLabel fragments fragment position) := by
  simp [mergedStep, joinedStep, Step.redirect, Step.labels]

theorem mergedStep_targets :
    (mergedStep fragments dependencies fragment position step).targets =
      step.targets.map fun target =>
        landing (planWiring fragments dependencies).redirects
          (scopedName target (position + 1)) := by
  simp [mergedStep, joinedStep, Step.redirect, Step.targets]

end MergedStep

/-- The joined graph of a plan with all jumps made, as validation gets to see it. -/
def assembledGraph (fragments : List Fragment) (dependencies : List Dependency) : Graph :=
  (joinedGraph fragments).redirect (planWiring fragments dependencies).redirects

/-- The steps of a graph that is put together from a plan: the renamed steps of the fragments but
the redirected ones. -/
structure Assembled (schemas : Schemas) (fragments : List Fragment) (dependencies : List Dependency)
    (g : Graph) : Prop where
  plan : WellFormedPlan schemas fragments dependencies
  step?_iff : ∀ id m, g.step? id = some m ↔
    ∃ i fragment step, fragments[i]? = some fragment ∧ step ∈ fragment.graph.stepList ∧
      id = scopedName step.id (i + 1) ∧
      (planWiring fragments dependencies).redirects.get? id = none ∧
      m = mergedStep fragments dependencies fragment i step

section Assembled

variable {schemas : Schemas} {fragments : List Fragment} {dependencies : List Dependency}

theorem assembled_assembledGraph (wf : WellFormedPlan schemas fragments dependencies) :
    Assembled schemas fragments dependencies (assembledGraph fragments dependencies) := by
  refine ⟨wf, fun id m => ?_⟩
  rw [assembledGraph, Graph.step?_redirect fun id => (endsAt_wiring wf id).not_redirected,
    step?_joinedGraph]
  constructor
  · intro hm
    split at hm
    · cases hm
    · next kept =>
        obtain ⟨joined, hjoined, rfl⟩ := Option.map_eq_some_iff.1 hm
        obtain ⟨i, fragment, step, hi, hstep, hid, rfl⟩ :=
          (step?_joinSteps_iff wf id joined).1 hjoined
        exact ⟨i, fragment, step, hi, hstep, hid, by simpa using kept, rfl⟩
  · rintro ⟨i, fragment, step, hi, hstep, hid, kept, rfl⟩
    have hjoined := (step?_joinSteps_iff wf id _).2 ⟨i, fragment, step, hi, hstep, hid, rfl⟩
    rw [kept, hjoined]
    rfl

/-- It starts where the first fragment does. -/
theorem entry_assembledGraph (wf : WellFormedPlan schemas fragments dependencies) {first : Fragment}
    {entry : String} (hfirst : fragments[0]? = some first)
    (hentry : first.graph.entry = some entry) :
    (assembledGraph fragments dependencies).entry = some (scopedName entry 1) := by
  have kept := start_not_redirected wf ⟨first, entry, hfirst, hentry, rfl⟩
  rw [assembledGraph, Graph.entry_redirect fun id => (endsAt_wiring wf id).not_redirected,
    entry_joinedGraph wf hfirst hentry, Option.map_some, landing_of_not_redirected kept]

namespace Assembled

variable {g : Graph}

/-- A step of the graph stands for one step of one fragment. -/
theorem eq_mergedStep (assembled : Assembled schemas fragments dependencies g) {i : Nat}
    {fragment : Fragment} {step m : Step} (hi : fragments[i]? = some fragment)
    (hstep : step ∈ fragment.graph.stepList)
    (hm : g.step? (scopedName step.id (i + 1)) = some m) :
    m = mergedStep fragments dependencies fragment i step := by
  obtain ⟨j, fragment', step', hj, hstep', hid, _, rfl⟩ := (assembled.step?_iff _ m).1 hm
  obtain ⟨same_id, hplace⟩ := scopedName_inj hid
  obtain rfl : i = j := Nat.succ.inj hplace
  rw [hi] at hj
  cases hj
  have same := (Graph.mem_stepList_iff _ step').1 hstep'
  rw [← same_id, (Graph.mem_stepList_iff _ step).1 hstep] at same
  cases same
  rfl

/-- A step that is not redirected is kept. -/
theorem step?_of_kept (assembled : Assembled schemas fragments dependencies g) {i : Nat}
    {fragment : Fragment} {step : Step} (hi : fragments[i]? = some fragment)
    (hstep : step ∈ fragment.graph.stepList)
    (kept :
      (planWiring fragments dependencies).redirects.get? (scopedName step.id (i + 1)) = none) :
    g.step? (scopedName step.id (i + 1)) =
      some (mergedStep fragments dependencies fragment i step) :=
  (assembled.step?_iff _ _).2 ⟨i, fragment, step, hi, hstep, rfl, kept, rfl⟩

/-- The redirected steps of a fragment are final steps of it. -/
theorem mem_finalIds_of_redirected (assembled : Assembled schemas fragments dependencies g)
    {i : Nat} {fragment : Fragment} (hi : fragments[i]? = some fragment) {id target : String}
    (h : (planWiring fragments dependencies).redirects.get? (scopedName id (i + 1)) = some target) :
    id ∈ fragment.finalIds := by
  obtain ⟨j, _, _, ⟨fragment', final, hj, hfinal, hid⟩, _⟩ := wiring_redirects assembled.plan h
  obtain ⟨rfl, hplace⟩ := scopedName_inj hid
  obtain rfl : i = j := Nat.succ.inj hplace
  rw [hi] at hj
  cases hj
  exact hfinal

/-- Chains of redirections from an entry lead to the entry of a fragment that is not before it. -/
theorem isEntryAt_of_endsAt (assembled : Assembled schemas fragments dependencies g) {n : Nat}
    {last entry : String} (h : EndsAt (planWiring fragments dependencies).redirects last entry)
    (hentry : IsEntryAt fragments n entry) : ∃ n', n ≤ n' ∧ IsEntryAt fragments n' last := by
  induction h generalizing n with
  | here _ => exact ⟨n, Nat.le_refl n, hentry⟩
  | next hsome _ ih =>
      obtain ⟨i, n', before, ⟨_, final, _, _, hfinal⟩, htarget⟩ :=
        wiring_redirects assembled.plan hsome
      obtain ⟨_, entry, _, _, rfl⟩ := hentry
      obtain rfl : n = i := Nat.succ.inj (scopedName_inj hfinal).2
      obtain ⟨last', hle, hlast⟩ := ih htarget
      exact ⟨last', by omega, hlast⟩

/-- Where the entry of a fragment leads is a step of the graph. -/
theorem contains_landing (assembled : Assembled schemas fragments dependencies g) {n : Nat}
    {entry : String} (hentry : IsEntryAt fragments n entry) :
    g.contains (landing (planWiring fragments dependencies).redirects entry) = true := by
  have ends := endsAt_wiring assembled.plan entry
  obtain ⟨n', _, fragment, id, hn, hid, heq⟩ := assembled.isEntryAt_of_endsAt ends hentry
  obtain ⟨entry', wf⟩ := assembled.plan.wellFormed fragment (List.mem_of_getElem? hn)
  have hin := wf.contains_entry
  rw [wf.entry_eq] at hid
  cases hid
  obtain ⟨step, hstep⟩ := (Graph.contains_iff _ id).1 hin
  have kept := ends.not_redirected
  rw [heq, ← Graph.id_of_step? hstep] at kept ⊢
  exact (Graph.contains_iff g _).2
    ⟨_, assembled.step?_of_kept hn (Graph.mem_stepList_of_step? hstep) kept⟩

end Assembled

/-- The entry of the first fragment is kept. -/
theorem exists_entry_assembledGraph (wf : WellFormedPlan schemas fragments dependencies) :
    ∃ first entry, fragments[0]? = some first ∧ first.graph.entry = some entry ∧
      (assembledGraph fragments dependencies).entry = some (scopedName entry 1) ∧
      (assembledGraph fragments dependencies).contains (scopedName entry 1) = true := by
  have inside := List.length_pos_iff.2 wf.nonempty
  have hfirst := List.getElem?_eq_getElem inside
  obtain ⟨entry, hwf⟩ := wf.wellFormed _ (List.getElem_mem inside)
  have hentry : IsEntryAt fragments 0 (scopedName entry 1) := ⟨_, entry, hfirst, hwf.entry_eq, rfl⟩
  have there := (assembled_assembledGraph wf).contains_landing hentry
  rw [landing_of_not_redirected (start_not_redirected wf hentry)] at there
  exact ⟨_, entry, hfirst, hwf.entry_eq, entry_assembledGraph wf hfirst hwf.entry_eq, there⟩

end Assembled

/-- What the merged graph of a plan with these dependencies is. -/
structure Merged (schemas : Schemas) (fragments : List Fragment) (dependencies : List Dependency)
    (g : Graph) : Prop where
  plan : WellFormedPlan schemas fragments dependencies
  unambiguous : (planWiring fragments dependencies).failures = []
  /-- The steps are the renamed steps of the fragments but the redirected ones. -/
  step?_iff : ∀ id m, g.step? id = some m ↔
    ∃ i fragment step, fragments[i]? = some fragment ∧ step ∈ fragment.graph.stepList ∧
      id = scopedName step.id (i + 1) ∧
      (planWiring fragments dependencies).redirects.get? id = none ∧
      m = mergedStep fragments dependencies fragment i step
  accepted : (g.validate schemas).isAccepted = true

theorem merged_of_merge {schemas : Schemas} {fragments : List Fragment}
    {dependencies : Option (List Dependency)} {g : Graph}
    (h : merge schemas fragments dependencies = .ok g) :
    Merged schemas fragments (dependencies.getD (deriveDependencies fragments)) g := by
  obtain ⟨plan_accepted, _, hwiring, rfl, accepted⟩ := (merge_eq_ok_iff ..).1 h
  have assembled := assembled_assembledGraph (wellFormedPlan_of_isAccepted plan_accepted)
  exact ⟨assembled.plan, hwiring, assembled.step?_iff, accepted⟩

namespace Merged

variable {schemas : Schemas} {fragments : List Fragment} {dependencies : List Dependency}
  {g : Graph}

theorem assembled (merged : Merged schemas fragments dependencies g) :
    Assembled schemas fragments dependencies g := ⟨merged.plan, merged.step?_iff⟩

/-- A step of the merged graph stands for one step of one fragment. -/
theorem eq_mergedStep (merged : Merged schemas fragments dependencies g) {i : Nat}
    {fragment : Fragment} {step m : Step} (hi : fragments[i]? = some fragment)
    (hstep : step ∈ fragment.graph.stepList)
    (hm : g.step? (scopedName step.id (i + 1)) = some m) :
    m = mergedStep fragments dependencies fragment i step :=
  merged.assembled.eq_mergedStep hi hstep hm

/-- A step that is not redirected is kept. -/
theorem step?_of_kept (merged : Merged schemas fragments dependencies g) {i : Nat}
    {fragment : Fragment} {step : Step} (hi : fragments[i]? = some fragment)
    (hstep : step ∈ fragment.graph.stepList)
    (kept :
      (planWiring fragments dependencies).redirects.get? (scopedName step.id (i + 1)) = none) :
    g.step? (scopedName step.id (i + 1)) =
      some (mergedStep fragments dependencies fragment i step) :=
  merged.assembled.step?_of_kept hi hstep kept

/-- Where the entry of a fragment leads is a step of the merged graph. -/
theorem contains_landing (merged : Merged schemas fragments dependencies g) {n : Nat}
    {entry : String} (hentry : IsEntryAt fragments n entry) :
    g.contains (landing (planWiring fragments dependencies).redirects entry) = true :=
  merged.assembled.contains_landing hentry

end Merged

/-! ## A relay -/

/-- A fragment of one question, which may read artifacts and offers its answer if `artifact` is
given. -/
def questionFragment (name prompt : String) (artifact : Option String) (reads : List String) :
    Fragment where
  name := name
  graph := Graph.ofSteps
    [⟨name, .reasoning prompt, [⟨"always", "end"⟩], none⟩, ⟨"end", .final, [], none⟩] name
  produces :=
    match artifact with
    | some artifact => Dict.empty.insert artifact ⟨name, "response"⟩
    | none => .empty
  consumes := reads

/-- A plan in which two fragments read what the first one offers. -/
def relay : List Fragment :=
  [ questionFragment "think" "Think of a word." (some "word") [],
    questionFragment "spell" "Spell \x7bword\x7d." none ["word"],
    questionFragment "rhyme" "What rhymes with \x7bword\x7d?" none ["word"] ]

theorem relay_merges : ∃ g, merge (fun _ => none) relay none = .ok g := by
  have succeeds : (merge (fun _ => none) relay none).isOk = true := by decide +kernel
  cases h : merge (fun _ => none) relay none with
  | ok g => exact ⟨g, rfl⟩
  | error report =>
      rw [h] at succeeds
      cases succeeds

end Workflow
