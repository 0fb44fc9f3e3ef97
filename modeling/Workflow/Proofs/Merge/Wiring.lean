import Workflow.Merge.Wiring
import Workflow.Proofs.Merge.Naming
import Workflow.Proofs.Validation.Plan

/-!
# What the wiring of a plan keeps

The wiring of a plan is built up fragment by fragment. Redirections lead from a final step to the
entry of a later fragment, and a fragment waits only for a fragment before it. So when the wiring
comes to a fragment, all that will ever wait for it is already known, and what one final step has to
lead on to is either where its redirection goes or waits for it there.

Main statements: `wiring_redirects`, `wiring_waiting` and `wiring_serves`.
-/

namespace Workflow

/-! ## Numbers in order -/

theorem mem_insertNumber_iff (n k : Nat) (numbers : List Nat) :
    k ∈ insertNumber n numbers ↔ k = n ∨ k ∈ numbers := by
  induction numbers with
  | nil => simp [insertNumber]
  | cons m rest ih =>
      rw [insertNumber]
      split
      · exact List.mem_cons
      · split
        · next heq => simp [heq]
        · rw [List.mem_cons, ih, List.mem_cons, or_left_comm]

theorem pairwise_insertNumber (n : Nat) {numbers : List Nat} (h : numbers.Pairwise (· < ·)) :
    (insertNumber n numbers).Pairwise (· < ·) := by
  induction numbers with
  | nil => exact List.pairwise_singleton _ _
  | cons m rest ih =>
      obtain ⟨first, later⟩ := List.pairwise_cons.1 h
      rw [insertNumber]
      split
      · next hlt =>
          refine List.pairwise_cons.2 ⟨fun k hk => ?_, h⟩
          rcases List.mem_cons.1 hk with rfl | hk
          · exact hlt
          · exact Nat.lt_trans hlt (first k hk)
      · split
        · exact h
        · refine List.pairwise_cons.2 ⟨fun k hk => ?_, ih later⟩
          rcases (mem_insertNumber_iff n k rest).1 hk with rfl | hk
          · omega
          · exact first k hk

theorem pairwise_sortedNumbers (numbers : List Nat) : (sortedNumbers numbers).Pairwise (· < ·) := by
  induction numbers with
  | nil => exact .nil
  | cons n rest ih => exact pairwise_insertNumber n ih

theorem mem_sortedNumbers_iff (numbers : List Nat) (n : Nat) :
    n ∈ sortedNumbers numbers ↔ n ∈ numbers := by
  induction numbers with
  | nil => rfl
  | cons m rest ih =>
      rw [sortedNumbers, List.foldr_cons, mem_insertNumber_iff, ← sortedNumbers, ih, List.mem_cons]

/-! ## Results -/

theorem mem_successesOf_iff {α : Type} (results : List (Except Violation α)) (a : α) :
    a ∈ successesOf results ↔ .ok a ∈ results := by
  simp only [successesOf, List.mem_filterMap]
  constructor
  · rintro ⟨r, hr, hsome⟩
    cases r with
    | error v => cases hsome
    | ok b =>
        cases hsome
        exact hr
  · intro h
    exact ⟨_, h, rfl⟩

theorem mem_failuresOf_iff {α : Type} (results : List (Except Violation α)) (v : Violation) :
    v ∈ failuresOf results ↔ .error v ∈ results := by
  simp only [failuresOf, List.mem_filterMap]
  constructor
  · rintro ⟨r, hr, hsome⟩
    cases r with
    | ok a => cases hsome
    | error w =>
        cases hsome
        exact hr
  · intro h
    exact ⟨_, h, rfl⟩

theorem failuresOf_eq_nil_iff {α : Type} (results : List (Except Violation α)) :
    failuresOf results = [] ↔ ∀ v, .error v ∉ results := by
  simp only [List.eq_nil_iff_forall_not_mem, mem_failuresOf_iff]

/-! ## Ends and entries of fragments -/

/-- The ids of the final steps of the fragment. -/
def Fragment.finalIds (fragment : Fragment) : List String := fragment.graph.finals.map (·.id)

theorem Fragment.mem_finalIds_iff (fragment : Fragment) (id : String) :
    id ∈ fragment.finalIds ↔
      ∃ step, fragment.graph.step? id = some step ∧ step.action = .final := by
  simp only [finalIds, Graph.finals, List.mem_map, List.mem_filter, Step.isFinal_iff]
  constructor
  · rintro ⟨step, ⟨hmem, hfinal⟩, rfl⟩
    exact ⟨step, (Graph.mem_stepList_iff _ step).1 hmem, hfinal⟩
  · rintro ⟨step, hstep, hfinal⟩
    exact ⟨step, ⟨Graph.mem_stepList_of_step? hstep, hfinal⟩, Graph.id_of_step? hstep⟩

theorem Fragment.nodup_finalIds (fragment : Fragment) : fragment.finalIds.Nodup := by
  have sub : fragment.finalIds.Sublist (fragment.graph.stepList.map (·.id)) :=
    List.filter_sublist.map _
  exact sub.nodup fragment.graph.map_id_nodup

theorem Fragment.mem_finalsAfter_iff (fragment : Fragment) (start id : String) :
    id ∈ fragment.finalsAfter start ↔
      id ∈ fragment.finalIds ∧ fragment.graph.Reachable start id := by
  simp [finalsAfter, finalIds, Graph.mem_reachable_iff]

theorem Fragment.contains_of_mem_finalIds {fragment : Fragment} {id : String}
    (h : id ∈ fragment.finalIds) : fragment.graph.contains id = true := by
  obtain ⟨step, hstep, _⟩ := (fragment.mem_finalIds_iff id).1 h
  exact (Graph.contains_iff _ id).2 ⟨step, hstep⟩

/-- `id` is the new name of a final step of the fragment at a position. -/
def IsFinalAt (fragments : List Fragment) (position : Nat) (id : String) : Prop :=
  ∃ fragment final, fragments[position]? = some fragment ∧ final ∈ fragment.finalIds ∧
    id = scopedName final (position + 1)

/-- `id` is the new name of the entry of the fragment at a position. -/
def IsEntryAt (fragments : List Fragment) (position : Nat) (id : String) : Prop :=
  ∃ fragment entry, fragments[position]? = some fragment ∧ fragment.graph.entry = some entry ∧
    id = scopedName entry (position + 1)

section Plan

variable {schemas : Schemas} {fragments : List Fragment} {dependencies : List Dependency}

theorem exists_isEntryAt (wf : WellFormedPlan schemas fragments dependencies) {position : Nat}
    (h : position < fragments.length) : ∃ id, IsEntryAt fragments position id := by
  have hposition := List.getElem?_eq_getElem h
  obtain ⟨entry, hfragment⟩ := wf.wellFormed _ (List.getElem_mem h)
  exact ⟨_, _, entry, hposition, hfragment.entry_eq, rfl⟩

theorem IsEntryAt.unique {position : Nat} {a b : String} (ha : IsEntryAt fragments position a)
    (hb : IsEntryAt fragments position b) : a = b := by
  obtain ⟨_, _, hfragment, hentry, rfl⟩ := ha
  obtain ⟨_, _, hfragment', hentry', rfl⟩ := hb
  rw [hfragment] at hfragment'
  cases hfragment'
  rw [hentry] at hentry'
  cases hentry'
  rfl

/-! ## One final step -/

/-- Connecting a final step to its consumers: the first is where it leads, the others wait for the
first. -/
theorem Wiring.connect_cons (wf : WellFormedPlan schemas fragments dependencies)
    (fragment : Fragment) (position : Nat) (wiring : Wiring) (final : String) {next : Nat}
    (others : List Nat) {entry : String} (h : IsEntryAt fragments next entry) :
    wiring.connect fragments fragment position final (next :: others) =
      { wiring with
        redirects := wiring.redirects.insert (fragment.newName position final) entry
        waiting := wiring.waiting ++ others.map (next, ·) } := by
  obtain ⟨consumer, entry, hnext, hentry, rfl⟩ := h
  obtain ⟨entry', hconsumer⟩ := wf.wellFormed consumer (List.mem_of_getElem? hnext)
  have hin := hconsumer.contains_entry
  rw [hconsumer.entry_eq] at hentry
  cases hentry
  simp [Wiring.connect, hnext, hconsumer.entry_eq, Fragment.newName_of_contains hin]

theorem Wiring.connect_failures (fragment : Fragment) (position : Nat) (wiring : Wiring)
    (final : String) (consumers : List Nat) :
    (wiring.connect fragments fragment position final consumers).failures = wiring.failures := by
  unfold Wiring.connect
  split
  · rfl
  · split <;> rfl

/-! ## All final steps of a fragment -/

section Connect

variable (fragments) (fragment : Fragment) (position : Nat) (consumers : String → List Nat)

/-- Connects final steps of a fragment, each to its consumers. -/
def Wiring.connectAll (finals : List String) (wiring : Wiring) : Wiring :=
  finals.foldl
    (fun wiring final => wiring.connect fragments fragment position final (consumers final)) wiring

variable {fragments fragment position consumers} {finals : List String}

theorem Wiring.connectAll_cons (final : String) (rest : List String) (wiring : Wiring) :
    wiring.connectAll fragments fragment position consumers (final :: rest) =
      (wiring.connect fragments fragment position final (consumers final)).connectAll fragments
        fragment position consumers rest := rfl

theorem Wiring.connectAll_failures (wiring : Wiring) :
    (wiring.connectAll fragments fragment position consumers finals).failures =
      wiring.failures := by
  induction finals generalizing wiring with
  | nil => rfl
  | cons final rest ih => rw [Wiring.connectAll_cons, ih, Wiring.connect_failures]

/-- The first consumer of a final step is a fragment with an entry. -/
theorem exists_isEntryAt_first (wf : WellFormedPlan schemas fragments dependencies)
    (valid : ∀ final ∈ finals, ∀ c ∈ consumers final, c < fragments.length) {final : String}
    (hfinal : final ∈ finals) {next : Nat} {others : List Nat}
    (h : consumers final = next :: others) : ∃ entry, IsEntryAt fragments next entry := by
  refine exists_isEntryAt wf (valid final hfinal next ?_)
  rw [h]
  exact List.mem_cons_self ..

theorem Wiring.mem_connectAll_waiting_iff (wf : WellFormedPlan schemas fragments dependencies)
    (valid : ∀ final ∈ finals, ∀ c ∈ consumers final, c < fragments.length) (wiring : Wiring)
    (pair : Nat × Nat) :
    pair ∈ (wiring.connectAll fragments fragment position consumers finals).waiting ↔
      pair ∈ wiring.waiting ∨ ∃ final ∈ finals, ∃ others,
        consumers final = pair.1 :: others ∧ pair.2 ∈ others := by
  induction finals generalizing wiring with
  | nil => simp [Wiring.connectAll]
  | cons final rest ih =>
      have later := fun f hf => valid f (List.mem_cons_of_mem _ hf)
      rw [Wiring.connectAll_cons, ih later]
      cases hconsumers : consumers final with
      | nil => simp [Wiring.connect, hconsumers]
      | cons next others =>
          obtain ⟨entry, hentry⟩ :=
            exists_isEntryAt_first wf valid (List.mem_cons_self ..) hconsumers
          rw [Wiring.connect_cons wf fragment position wiring final others hentry]
          obtain ⟨n, c⟩ := pair
          simp only [List.mem_append, List.mem_map, Prod.mk.injEq, List.mem_cons, exists_eq_or_imp,
            hconsumers, List.cons.injEq, or_assoc]
          grind

/-- A redirection after connecting is one that was made for a final step, or an older one. -/
theorem Wiring.connectAll_redirect (wf : WellFormedPlan schemas fragments dependencies)
    (valid : ∀ final ∈ finals, ∀ c ∈ consumers final, c < fragments.length) (wiring : Wiring)
    {id target : String}
    (h : (wiring.connectAll fragments fragment position consumers finals).redirects.get? id =
      some target) :
    (∃ final ∈ finals, ∃ next others, consumers final = next :: others ∧
        id = fragment.newName position final ∧ IsEntryAt fragments next target) ∨
      wiring.redirects.get? id = some target := by
  induction finals generalizing wiring with
  | nil => exact .inr h
  | cons final rest ih =>
      have later := fun f hf => valid f (List.mem_cons_of_mem _ hf)
      rw [Wiring.connectAll_cons] at h
      rcases ih later _ h with ⟨f, hf, hmade⟩ | hold
      · exact .inl ⟨f, List.mem_cons_of_mem _ hf, hmade⟩
      · cases hconsumers : consumers final with
        | nil =>
            rw [hconsumers] at hold
            exact .inr hold
        | cons next others =>
            obtain ⟨entry, hentry⟩ :=
              exists_isEntryAt_first wf valid (List.mem_cons_self ..) hconsumers
            rw [hconsumers, Wiring.connect_cons wf fragment position wiring final others hentry,
              Dict.get?_insert] at hold
            split at hold
            · next hid =>
                cases hold
                exact .inl ⟨final, List.mem_cons_self .., next, others, hconsumers, hid, hentry⟩
            · exact .inr hold

/-- What is redirected stays as it is unless it is one of the final steps. -/
theorem Wiring.connectAll_of_ne (wiring : Wiring) {id : String}
    (hne : ∀ final ∈ finals, id ≠ fragment.newName position final) :
    (wiring.connectAll fragments fragment position consumers finals).redirects.get? id =
      wiring.redirects.get? id := by
  induction finals generalizing wiring with
  | nil => rfl
  | cons final rest ih =>
      rw [Wiring.connectAll_cons, ih _ fun f hf => hne f (List.mem_cons_of_mem _ hf)]
      unfold Wiring.connect
      split
      · rfl
      · split
        · rfl
        · rw [Dict.get?_insert, if_neg (hne final (List.mem_cons_self ..))]

/-- Each final step with consumers is redirected to the first of them. -/
theorem Wiring.connectAll_serves (wf : WellFormedPlan schemas fragments dependencies)
    (inside : ∀ final ∈ finals, fragment.graph.contains final = true) (nodup : finals.Nodup)
    (wiring : Wiring) {final : String} (hfinal : final ∈ finals) {next : Nat} {others : List Nat}
    (hconsumers : consumers final = next :: others) {entry : String}
    (hentry : IsEntryAt fragments next entry) :
    (wiring.connectAll fragments fragment position consumers finals).redirects.get?
      (fragment.newName position final) = some entry := by
  induction finals generalizing wiring with
  | nil => cases hfinal
  | cons head rest ih =>
      obtain ⟨hhead, hrest⟩ := List.nodup_cons.1 nodup
      have inside_rest := fun f hf => inside f (List.mem_cons_of_mem _ hf)
      rw [Wiring.connectAll_cons]
      rcases List.mem_cons.1 hfinal with rfl | hmem
      · have apart : ∀ f ∈ rest, fragment.newName position final ≠ fragment.newName position f := by
          intro f hf heq
          rw [Fragment.newName_of_contains (inside final (List.mem_cons_self ..)),
            Fragment.newName_of_contains (inside_rest f hf)] at heq
          exact hhead ((scopedName_inj heq).1 ▸ hf)
        rw [Wiring.connectAll_of_ne _ apart, hconsumers,
          Wiring.connect_cons wf fragment position wiring final others hentry,
          Dict.get?_insert_self]
      · exact ih inside_rest hrest _ hmem

end Connect

/-! ## What is asked of one fragment -/

/-- What a fragment has to lead on to when the wiring comes to it: the fragments that wait for it,
and those that depend on it. -/
def Wiring.demands (fragments : List Fragment) (dependencies : List Dependency) (wiring : Wiring)
    (fragment : Fragment) (position : Nat) : List (Except Violation (String × Nat)) :=
  inheritedFeeds fragments fragment position
      (sortedNumbers ((wiring.waiting.filter (·.1 = position)).map (·.2)))
    ++ (dependencies.filter (·.producer = fragment.name)).filterMap
      (feed? fragments fragment position)

/-- The positions to which one final step has to lead, in ascending order. -/
def consumersOf (demands : List (Except Violation (String × Nat))) (final : String) : List Nat :=
  sortedNumbers (((successesOf demands).filter (·.1 = final)).map (·.2))

theorem mem_consumersOf_iff (demands : List (Except Violation (String × Nat))) (final : String)
    (c : Nat) : c ∈ consumersOf demands final ↔ .ok (final, c) ∈ demands := by
  simp only [consumersOf, mem_sortedNumbers_iff, List.mem_map, List.mem_filter,
    mem_successesOf_iff, decide_eq_true_eq]
  constructor
  · rintro ⟨⟨f, c⟩, ⟨hmem, rfl⟩, rfl⟩
    exact hmem
  · intro h
    exact ⟨(final, c), ⟨h, rfl⟩, rfl⟩

theorem Wiring.addFragment_eq (wiring : Wiring) (fragment : Fragment) (position : Nat) :
    wiring.addFragment fragments dependencies fragment position =
      Wiring.connectAll fragments fragment position
        (consumersOf (wiring.demands fragments dependencies fragment position)) fragment.finalIds
        { wiring with
          failures := wiring.failures ++
            failuresOf (wiring.demands fragments dependencies fragment position) } := rfl

theorem inheritedFeeds_of_single {fragment : Fragment} {final : String}
    (h : fragment.finalIds = [final]) (position : Nat) (waiting : List Nat) :
    inheritedFeeds fragments fragment position waiting =
      waiting.map fun c => .ok (final, c) := by
  have single : fragment.graph.finals.map (·.id) = [final] := h
  rw [inheritedFeeds, single]
  cases waiting <;> rfl

/-- Who waits for a fragment waits for its only final step, or there is a failure. -/
theorem inheritedFeeds_cases (fragments : List Fragment) (fragment : Fragment) (position : Nat)
    (waiting : List Nat) :
    waiting = [] ∨ (∃ final, fragment.finalIds = [final]) ∨
      ∃ v, inheritedFeeds fragments fragment position waiting = [.error v] := by
  cases waiting with
  | nil => exact .inl rfl
  | cons c rest =>
      rw [inheritedFeeds, List.isEmpty_cons, if_neg Bool.false_ne_true]
      split
      · next final h => exact .inr (.inl ⟨final, h⟩)
      · exact .inr (.inr ⟨_, rfl⟩)

/-- A dependency asks for the only final step behind what is offered, or there is a failure. -/
theorem feed?_eq_ok_iff (fragment : Fragment) (position : Nat) (d : Dependency) (final : String)
    (c : Nat) :
    feed? fragments fragment position d = some (.ok (final, c)) ↔
      fragmentPosition? fragments d.consumer = some c ∧ ∃ binding,
        fragment.produces.get? d.artifact = some binding ∧
        fragment.finalsAfter binding.step = [final] := by
  unfold feed?
  cases fragmentPosition? fragments d.consumer with
  | none => simp
  | some consumer =>
      cases fragment.produces.get? d.artifact with
      | none => simp
      | some binding =>
          dsimp only
          rcases h : fragment.finalsAfter binding.step with _ | ⟨f, _ | ⟨f', rest⟩⟩
          · simp [h]
          · simp [h, and_comm]
          · simp [h]

theorem feed?_cases {fragment : Fragment} {d : Dependency} {c : Nat} {binding : ArtifactBinding}
    (hconsumer : fragmentPosition? fragments d.consumer = some c)
    (hbinding : fragment.produces.get? d.artifact = some binding) (position : Nat) :
    fragment.finalsAfter binding.step = [] ∨
      (∃ final, fragment.finalsAfter binding.step = [final]) ∨
      ∃ v, feed? fragments fragment position d = some (.error v) := by
  rw [feed?, hconsumer, hbinding]
  dsimp only
  rcases fragment.finalsAfter binding.step with _ | ⟨f, _ | ⟨f', rest⟩⟩
  · exact .inl rfl
  · exact .inr (.inl ⟨f, rfl⟩)
  · exact .inr (.inr ⟨_, rfl⟩)

/-- What goes wrong with a demand is that it is unclear which final step leads on. -/
theorem Wiring.kind_of_error_mem_demands {wiring : Wiring} {fragment : Fragment} {position : Nat}
    {v : Violation}
    (h : .error v ∈ wiring.demands fragments dependencies fragment position) :
    v.kind = .ambiguousWiring := by
  rcases List.mem_append.1 h with h | h
  · unfold inheritedFeeds at h
    split at h
    · cases h
    · split at h
      · obtain ⟨_, _, hok⟩ := List.mem_map.1 h
        cases hok
      · cases List.mem_singleton.1 h
        rfl
  · obtain ⟨d, _, hd⟩ := List.mem_filterMap.1 h
    unfold feed? at hd
    split at hd
    · split at hd <;> cases hd
      rfl
    · cases hd

/-- Fragments wait only for fragments before them. -/
def Wiring.IsForward (fragments : List Fragment) (wiring : Wiring) : Prop :=
  ∀ pair ∈ wiring.waiting, pair.1 < pair.2 ∧ pair.2 < fragments.length

section Forward

variable {wiring : Wiring} {fragment : Fragment} {position : Nat} {final : String} {c : Nat}

/-- A waiting fragment is a demand on the only final step. -/
theorem Wiring.mem_demands_of_waiting (hfinals : fragment.finalIds = [final])
    (h : (position, c) ∈ wiring.waiting) :
    .ok (final, c) ∈ wiring.demands fragments dependencies fragment position := by
  refine List.mem_append_left _ ?_
  rw [inheritedFeeds_of_single hfinals]
  refine List.mem_map_of_mem (f := fun c => Except.ok (final, c)) ?_
  exact (mem_sortedNumbers_iff _ c).2
    (List.mem_map.2 ⟨(position, c), List.mem_filter.2 ⟨h, by simp⟩, rfl⟩)

/-- Every demand is of a later fragment on a final step. -/
theorem Wiring.demand_forward (wf : WellFormedPlan schemas fragments dependencies)
    (hposition : fragments[position]? = some fragment) (forward : wiring.IsForward fragments)
    (h : .ok (final, c) ∈ wiring.demands fragments dependencies fragment position) :
    final ∈ fragment.finalIds ∧ position < c ∧ c < fragments.length := by
  rcases List.mem_append.1 h with h | h
  · -- What is passed on is for a fragment that waits here, and those are later ones.
    rcases inheritedFeeds_cases fragments fragment position
      (sortedNumbers ((wiring.waiting.filter (·.1 = position)).map (·.2))) with hnil | hone | hbad
    · rw [hnil] at h
      cases h
    · obtain ⟨f, hf⟩ := hone
      rw [inheritedFeeds_of_single hf, List.mem_map] at h
      obtain ⟨c', hc, heq⟩ := h
      cases heq
      rw [mem_sortedNumbers_iff, List.mem_map] at hc
      obtain ⟨pair, hpair, rfl⟩ := hc
      obtain ⟨hmem, hfirst⟩ := List.mem_filter.1 hpair
      obtain rfl : pair.1 = position := by simpa using hfirst
      exact ⟨by rw [hf]; exact List.mem_singleton_self _, forward pair hmem⟩
    · obtain ⟨v, hv⟩ := hbad
      rw [hv] at h
      cases List.mem_singleton.1 h
  · -- A dependency is of a later fragment, by the order of the plan.
    obtain ⟨d, hd, hfeed⟩ := List.mem_filterMap.1 h
    obtain ⟨hmem, hname⟩ := List.mem_filter.1 hd
    obtain ⟨hconsumer, binding, _, hfinals⟩ := (feed?_eq_ok_iff fragment position d final c).1 hfeed
    have hfinal : final ∈ fragment.finalsAfter binding.step := by
      rw [hfinals]
      exact List.mem_singleton_self _
    obtain ⟨p, producer, c', consumer, before, hp, hpname, hc', hcname, _⟩ := wf.ordered d hmem
    have hproducer : p = position := by
      refine eq_of_getElem?_name wf.names_nodup hp hposition ?_
      rw [hpname]
      exact (of_decide_eq_true hname).symm ▸ rfl
    obtain ⟨_, hc, hname'⟩ := getElem?_of_fragmentPosition? hconsumer
    have heq : c' = c :=
      eq_of_getElem?_name wf.names_nodup hc' hc (hcname.trans hname'.symm)
    refine ⟨((fragment.mem_finalsAfter_iff binding.step final).1 hfinal).1, ?_, ?_⟩
    · rw [← hproducer, ← heq]
      exact before
    · exact (List.getElem?_eq_some_iff.1 hc).1

theorem consumersOf_valid (wf : WellFormedPlan schemas fragments dependencies)
    (hposition : fragments[position]? = some fragment) (forward : wiring.IsForward fragments) :
    ∀ final ∈ fragment.finalIds,
      ∀ c ∈ consumersOf (wiring.demands fragments dependencies fragment position) final,
        c < fragments.length := fun final _ c hc =>
  (Wiring.demand_forward wf hposition forward ((mem_consumersOf_iff _ final c).1 hc)).2.2

/-- A fragment that comes to wait does so for a later fragment than the one that is wired. -/
theorem Wiring.addFragment_waiting (wf : WellFormedPlan schemas fragments dependencies)
    (hposition : fragments[position]? = some fragment) (forward : wiring.IsForward fragments)
    {pair : Nat × Nat}
    (h : pair ∈ (wiring.addFragment fragments dependencies fragment position).waiting) :
    pair ∈ wiring.waiting ∨
      position < pair.1 ∧ pair.1 < pair.2 ∧ pair.2 < fragments.length := by
  rw [Wiring.addFragment_eq, Wiring.mem_connectAll_waiting_iff wf
    (consumersOf_valid wf hposition forward)] at h
  refine h.imp_right ?_
  rintro ⟨final, _, others, hconsumers, hother⟩
  have demand : ∀ c ∈ pair.1 :: others, position < c ∧ c < fragments.length := by
    intro c hc
    rw [← hconsumers] at hc
    exact (Wiring.demand_forward wf hposition forward ((mem_consumersOf_iff _ final c).1 hc)).2
  -- Consumers are taken in ascending order, so that the others are behind the first.
  have sorted := pairwise_sortedNumbers
    (((successesOf (wiring.demands fragments dependencies fragment position)).filter
      (·.1 = final)).map (·.2))
  rw [← consumersOf, hconsumers] at sorted
  exact ⟨(demand _ (List.mem_cons_self ..)).1, (List.pairwise_cons.1 sorted).1 _ hother,
    (demand _ (List.mem_cons_of_mem _ hother)).2⟩

theorem Wiring.isForward_addFragment (wf : WellFormedPlan schemas fragments dependencies)
    (hposition : fragments[position]? = some fragment) (forward : wiring.IsForward fragments) :
    (wiring.addFragment fragments dependencies fragment position).IsForward fragments := by
  intro pair hpair
  rcases Wiring.addFragment_waiting wf hposition forward hpair with h | h
  · exact forward pair h
  · exact h.2

end Forward

/-! ## Fragment by fragment -/

/-- The wiring when it comes to the fragment at a position. -/
def wiringBefore (fragments : List Fragment) (dependencies : List Dependency) (position : Nat) :
    Wiring :=
  (fragments.zipIdx.take position).foldl
    (fun wiring (fragment, position) => wiring.addFragment fragments dependencies fragment position)
    ⟨.empty, [], []⟩

theorem wiringBefore_succ {fragment : Fragment} {position : Nat}
    (h : fragments[position]? = some fragment) :
    wiringBefore fragments dependencies (position + 1) =
      (wiringBefore fragments dependencies position).addFragment fragments dependencies fragment
        position := by
  have numbered : fragments.zipIdx[position]? = some (fragment, position) := by
    rw [List.getElem?_zipIdx, h, Option.map_some, Nat.zero_add]
  rw [wiringBefore, List.take_add_one, numbered, Option.toList_some, List.foldl_append]
  rfl

theorem wiringBefore_length (fragments : List Fragment) (dependencies : List Dependency) :
    wiringBefore fragments dependencies fragments.length = planWiring fragments dependencies := by
  rw [wiringBefore, List.take_of_length_le (by simp)]
  rfl

/-- What holds at the start and is kept by each fragment holds all along. -/
theorem wiringBefore_induction (fragments : List Fragment) (dependencies : List Dependency)
    (p : Nat → Wiring → Prop) {first : Nat}
    (start : p first (wiringBefore fragments dependencies first))
    (next : ∀ position fragment, first ≤ position → fragments[position]? = some fragment →
      p position (wiringBefore fragments dependencies position) →
      p (position + 1) ((wiringBefore fragments dependencies position).addFragment fragments
        dependencies fragment position))
    {last : Nat} (hle : first ≤ last) (hlast : last ≤ fragments.length) :
    p last (wiringBefore fragments dependencies last) := by
  induction last, hle using Nat.le_induction with
  | base => exact start
  | succ position hfirst ih =>
      have hposition := List.getElem?_eq_getElem (Nat.lt_of_succ_le hlast)
      rw [wiringBefore_succ hposition]
      exact next position _ hfirst hposition (ih (Nat.le_of_succ_le hlast))

section Whole

variable {position last n c : Nat} {fragment : Fragment} {final : String}

theorem isForward_wiringBefore (wf : WellFormedPlan schemas fragments dependencies)
    (hlast : last ≤ fragments.length) :
    (wiringBefore fragments dependencies last).IsForward fragments := by
  refine wiringBefore_induction fragments dependencies
    (fun _ wiring => wiring.IsForward fragments) ?_ ?_ (Nat.zero_le last) hlast
  · intro pair hpair
    cases hpair
  · intro position fragment _ hposition forward
    exact Wiring.isForward_addFragment wf hposition forward

theorem failures_eq_nil_of_le (hle : position ≤ last) (hlast : last ≤ fragments.length)
    (h : (wiringBefore fragments dependencies last).failures = []) :
    (wiringBefore fragments dependencies position).failures = [] := by
  refine wiringBefore_induction fragments dependencies
    (fun _ wiring => wiring.failures = [] →
      (wiringBefore fragments dependencies position).failures = []) id ?_ hle hlast h
  intro j fragment _ _ ih hnil
  rw [Wiring.addFragment_eq, Wiring.connectAll_failures] at hnil
  exact ih (List.append_eq_nil_iff.1 hnil).1

/-- Wiring fails in one way only. -/
theorem kind_of_mem_failures {v : Violation}
    (h : v ∈ (planWiring fragments dependencies).failures) : v.kind = .ambiguousWiring := by
  rw [← wiringBefore_length] at h
  refine wiringBefore_induction fragments dependencies
    (fun _ wiring => v ∈ wiring.failures → v.kind = .ambiguousWiring) ?_ ?_
    (Nat.zero_le _) (Nat.le_refl _) h
  · intro hmem
    cases hmem
  · intro position fragment _ _ ih hmem
    rw [Wiring.addFragment_eq, Wiring.connectAll_failures] at hmem
    rcases List.mem_append.1 hmem with hmem | hmem
    · exact ih hmem
    · exact Wiring.kind_of_error_mem_demands ((mem_failuresOf_iff _ v).1 hmem)

theorem waiting_subset_of_le (wf : WellFormedPlan schemas fragments dependencies)
    (hle : position ≤ last) (hlast : last ≤ fragments.length) :
    (wiringBefore fragments dependencies position).waiting ⊆
      (wiringBefore fragments dependencies last).waiting := by
  refine wiringBefore_induction fragments dependencies
    (fun _ wiring => (wiringBefore fragments dependencies position).waiting ⊆ wiring.waiting)
    (List.Subset.refl _) ?_ hle hlast
  intro j fragment _ hj ih pair hpair
  have forward := isForward_wiringBefore wf (List.getElem?_eq_some_iff.1 hj).1.le
  rw [Wiring.addFragment_eq,
    Wiring.mem_connectAll_waiting_iff wf (consumersOf_valid wf hj forward)]
  exact .inl (ih hpair)

/-- Whoever waits for a fragment waits already when the wiring comes to that fragment. -/
theorem mem_waiting_in_time (wf : WellFormedPlan schemas fragments dependencies)
    (hlast : last ≤ fragments.length)
    (h : (n, c) ∈ (wiringBefore fragments dependencies last).waiting) :
    (n, c) ∈ (wiringBefore fragments dependencies n).waiting := by
  refine wiringBefore_induction fragments dependencies
    (fun _ wiring => (n, c) ∈ wiring.waiting →
      (n, c) ∈ (wiringBefore fragments dependencies n).waiting) ?_ ?_ (Nat.zero_le last) hlast h
  · intro hmem
    cases hmem
  · intro j fragment _ hj ih hmem
    have inside := (List.getElem?_eq_some_iff.1 hj).1
    have forward := isForward_wiringBefore wf inside.le
    rcases Wiring.addFragment_waiting wf hj forward hmem with hold | ⟨hlt, hbefore, hc⟩
    · exact ih hold
    · -- It is added before the wiring comes to `n`, since `n` is behind `j`.
      rw [← wiringBefore_succ hj] at hmem
      exact waiting_subset_of_le wf hlt (Nat.le_of_lt (Nat.lt_trans hbefore hc)) hmem

/-- A final step of a fragment has to lead to a later fragment. -/
def Demanded (fragments : List Fragment) (dependencies : List Dependency) (position : Nat)
    (final : String) (c : Nat) : Prop :=
  ∃ fragment, fragments[position]? = some fragment ∧
    .ok (final, c) ∈ (wiringBefore fragments dependencies position).demands fragments dependencies
      fragment position

/-! ## The whole plan -/

/-- A redirection leads a final step to the entry of a fragment to which it has to lead. -/
theorem demanded_of_redirect (wf : WellFormedPlan schemas fragments dependencies)
    {id target : String}
    (h : (planWiring fragments dependencies).redirects.get? id = some target) :
    ∃ i final n, Demanded fragments dependencies i final n ∧ id = scopedName final (i + 1) ∧
      IsEntryAt fragments n target := by
  rw [← wiringBefore_length] at h
  refine wiringBefore_induction fragments dependencies
    (fun _ wiring => wiring.redirects.get? id = some target →
      ∃ i final n, Demanded fragments dependencies i final n ∧ id = scopedName final (i + 1) ∧
        IsEntryAt fragments n target)
    ?_ ?_ (Nat.zero_le _) (Nat.le_refl _) h
  · intro hsome
    cases hsome
  · intro i fragment _ hi ih hsome
    have forward := isForward_wiringBefore wf (List.getElem?_eq_some_iff.1 hi).1.le
    rw [Wiring.addFragment_eq] at hsome
    rcases Wiring.connectAll_redirect wf (consumersOf_valid wf hi forward) _ hsome with
      ⟨final, hfinal, n, others, hconsumers, rfl, hentry⟩ | hold
    · refine ⟨i, final, n, ⟨fragment, hi, (mem_consumersOf_iff _ final n).1 ?_⟩, ?_, hentry⟩
      · rw [hconsumers]
        exact List.mem_cons_self ..
      · exact Fragment.newName_of_contains (Fragment.contains_of_mem_finalIds hfinal) i
    · exact ih hold

/-- Redirections lead from a final step of a fragment to the entry of a later one. -/
theorem wiring_redirects (wf : WellFormedPlan schemas fragments dependencies) {id target : String}
    (h : (planWiring fragments dependencies).redirects.get? id = some target) :
    ∃ i n, i < n ∧ IsFinalAt fragments i id ∧ IsEntryAt fragments n target := by
  obtain ⟨i, final, n, ⟨fragment, hi, hdemand⟩, rfl, hentry⟩ := demanded_of_redirect wf h
  have forward := isForward_wiringBefore wf (List.getElem?_eq_some_iff.1 hi).1.le
  obtain ⟨hfinal, before, _⟩ := Wiring.demand_forward wf hi forward hdemand
  exact ⟨i, n, before, ⟨fragment, final, hi, hfinal, rfl⟩, hentry⟩

/-- The entry of the first fragment is not redirected. Nothing waits for the first fragment, and if
its entry is final there is no step in it that an artifact could be bound to. -/
theorem start_not_redirected (wf : WellFormedPlan schemas fragments dependencies) {id : String}
    (h : IsEntryAt fragments 0 id) :
    (planWiring fragments dependencies).redirects.get? id = none := by
  refine Option.eq_none_iff_forall_ne_some.2 fun target hredirect => ?_
  obtain ⟨i, final, n, ⟨fragment, hi, hdemand⟩, rfl, _⟩ := demanded_of_redirect wf hredirect
  obtain ⟨first, entry, hfirst, hentry, hid⟩ := h
  obtain ⟨rfl, hplace⟩ := scopedName_inj hid
  obtain rfl : i = 0 := Nat.succ.inj hplace
  obtain rfl : fragment = first := Option.some.inj (hi.symm.trans hfirst)
  obtain ⟨start, hwf⟩ := wf.wellFormed fragment (List.mem_of_getElem? hi)
  obtain rfl : start = final := Option.some.inj (hwf.entry_eq.symm.trans hentry)
  have nothing_waits : (wiringBefore fragments dependencies 0).waiting = [] := rfl
  rw [Wiring.demands, nothing_waits] at hdemand
  obtain ⟨d, _, hfeed⟩ := List.mem_filterMap.1 hdemand
  obtain ⟨_, binding, hbinding, hfinals⟩ := (feed?_eq_ok_iff fragment 0 d start n).1 hfeed
  have hfinal : start ∈ fragment.finalsAfter binding.step := by
    rw [hfinals]
    exact List.mem_singleton_self _
  obtain ⟨step, hstep, final⟩ := (fragment.mem_finalIds_iff start).1
    ((fragment.mem_finalsAfter_iff binding.step start).1 hfinal).1
  obtain ⟨source, hsource, writes⟩ := hwf.bound d.artifact binding hbinding
  -- A final entry leads nowhere, so the step that is bound would have to be the entry itself.
  have alone : binding.step = start := by
    obtain ⟨walk, w⟩ := hwf.reached binding.step ((Graph.contains_iff _ _).2 ⟨source, hsource⟩)
    rcases w.cases_head with ⟨heq, _⟩ | ⟨next, _, hnext, _⟩
    · exact heq
    · rw [Graph.successors_of_step? hstep, Step.targets,
        (hwf.ends_iff_final step (Graph.mem_stepList_of_step? hstep)).2 final] at hnext
      cases hnext
  rw [alone, hstep] at hsource
  cases hsource
  rw [Step.produces, final] at writes
  cases writes

/-- The redirections of a fragment's final steps are left alone by the fragments after it. -/
theorem redirects_after (final : String) (hfragment : fragments[position]? = some fragment) :
    (planWiring fragments dependencies).redirects.get? (scopedName final (position + 1)) =
      (wiringBefore fragments dependencies (position + 1)).redirects.get?
        (scopedName final (position + 1)) := by
  rw [← wiringBefore_length]
  refine wiringBefore_induction fragments dependencies
    (fun _ wiring => wiring.redirects.get? (scopedName final (position + 1)) =
      (wiringBefore fragments dependencies (position + 1)).redirects.get?
        (scopedName final (position + 1))) rfl ?_
    (List.getElem?_eq_some_iff.1 hfragment).1 (Nat.le_refl _)
  intro j later hj _ ih
  rw [Wiring.addFragment_eq, Wiring.connectAll_of_ne]
  · exact ih
  · intro f hf heq
    rw [Fragment.newName_of_contains (Fragment.contains_of_mem_finalIds hf)] at heq
    have := (scopedName_inj heq).2
    omega

/-- What a final step has to lead to is where its redirection goes, or waits for it there. -/
theorem wiring_serves (wf : WellFormedPlan schemas fragments dependencies)
    (h : Demanded fragments dependencies position final c) :
    ∃ n entry, position < n ∧ n ≤ c ∧ IsEntryAt fragments n entry ∧
      (planWiring fragments dependencies).redirects.get? (scopedName final (position + 1)) =
        some entry ∧
      (n = c ∨ (n, c) ∈ (planWiring fragments dependencies).waiting) := by
  obtain ⟨fragment, hposition, hdemand⟩ := h
  have inside := (List.getElem?_eq_some_iff.1 hposition).1
  have forward := isForward_wiringBefore wf inside.le
  have valid := consumersOf_valid wf hposition forward
  have hfinal := (Wiring.demand_forward wf hposition forward hdemand).1
  have hmem := (mem_consumersOf_iff _ final c).2 hdemand
  cases hconsumers : consumersOf ((wiringBefore fragments dependencies position).demands fragments
      dependencies fragment position) final with
  | nil =>
      rw [hconsumers] at hmem
      cases hmem
  | cons n others =>
      have first : .ok (final, n) ∈ (wiringBefore fragments dependencies position).demands
          fragments dependencies fragment position := by
        refine (mem_consumersOf_iff _ final n).1 ?_
        rw [hconsumers]
        exact List.mem_cons_self ..
      obtain ⟨_, hlt, hn⟩ := Wiring.demand_forward wf hposition forward first
      obtain ⟨entry, hentry⟩ := exists_isEntryAt wf hn
      have redirected : ((wiringBefore fragments dependencies position).addFragment fragments
          dependencies fragment position).redirects.get? (fragment.newName position final) =
            some entry :=
        Wiring.connectAll_serves wf (fun f hf => Fragment.contains_of_mem_finalIds hf)
          fragment.nodup_finalIds _ hfinal hconsumers hentry
      rw [← wiringBefore_succ hposition,
        Fragment.newName_of_contains (Fragment.contains_of_mem_finalIds hfinal),
        ← redirects_after final hposition] at redirected
      rw [hconsumers] at hmem
      -- The consumer is the one that is led to, or it waits there.
      rcases List.mem_cons.1 hmem with rfl | hother
      · exact ⟨c, entry, hlt, Nat.le_refl _, hentry, redirected, .inl rfl⟩
      · have waits : (n, c) ∈ (wiringBefore fragments dependencies (position + 1)).waiting := by
          rw [wiringBefore_succ hposition, Wiring.addFragment_eq,
            Wiring.mem_connectAll_waiting_iff wf valid]
          exact .inr ⟨final, hfinal, others, hconsumers, hother⟩
        have before := (isForward_wiringBefore wf inside _ waits).1
        have still := waiting_subset_of_le wf inside (Nat.le_refl _) waits
        rw [wiringBefore_length] at still
        exact ⟨n, entry, hlt, Nat.le_of_lt before, hentry, redirected, .inr still⟩

/-- Without failures nothing that is asked of a fragment is unclear. -/
theorem demands_of_failures (h : (planWiring fragments dependencies).failures = [])
    (hposition : fragments[position]? = some fragment) (v : Violation) :
    .error v ∉ (wiringBefore fragments dependencies position).demands fragments dependencies
      fragment position := by
  rw [← wiringBefore_length] at h
  have inside := (List.getElem?_eq_some_iff.1 hposition).1
  have here := failures_eq_nil_of_le inside (Nat.le_refl _) h
  rw [wiringBefore_succ hposition, Wiring.addFragment_eq, Wiring.connectAll_failures] at here
  exact (failuresOf_eq_nil_iff _).1 (List.append_eq_nil_iff.1 here).2 v

/-- A fragment for which another one waits has one final step, and that one has to lead on. -/
theorem wiring_waiting (wf : WellFormedPlan schemas fragments dependencies)
    (hfailures : (planWiring fragments dependencies).failures = [])
    (h : (n, c) ∈ (planWiring fragments dependencies).waiting) :
    n < c ∧ ∃ fragment final, fragments[n]? = some fragment ∧ fragment.finalIds = [final] ∧
      Demanded fragments dependencies n final c := by
  rw [← wiringBefore_length] at h
  obtain ⟨before, hc⟩ : n < c ∧ c < fragments.length :=
    isForward_wiringBefore wf (Nat.le_refl _) _ h
  have intime := mem_waiting_in_time wf (Nat.le_refl _) h
  obtain ⟨fragment, hfragment⟩ : ∃ fragment, fragments[n]? = some fragment :=
    ⟨_, List.getElem?_eq_getElem (Nat.lt_trans before hc)⟩
  refine ⟨before, fragment, ?_⟩
  rcases inheritedFeeds_cases fragments fragment n (sortedNumbers
    (((wiringBefore fragments dependencies n).waiting.filter (·.1 = n)).map (·.2)))
    with hnil | ⟨final, hfinal⟩ | ⟨v, hv⟩
  · have hmem : c ∈ sortedNumbers
        (((wiringBefore fragments dependencies n).waiting.filter (·.1 = n)).map (·.2)) :=
      (mem_sortedNumbers_iff _ c).2
        (List.mem_map.2 ⟨(n, c), List.mem_filter.2 ⟨intime, by simp⟩, rfl⟩)
    rw [hnil] at hmem
    cases hmem
  · exact ⟨final, hfragment, hfinal, _, hfragment, Wiring.mem_demands_of_waiting hfinal intime⟩
  · refine absurd ?_ (demands_of_failures hfailures hfragment v)
    refine List.mem_append_left _ ?_
    rw [hv]
    exact List.mem_singleton_self _

/-- A dependency asks for the only final step behind what its producer offers, if there is one. -/
theorem wiring_dependency (hnames : (fragments.map (·.name)).Nodup)
    (hfailures : (planWiring fragments dependencies).failures = []) {d : Dependency}
    (hd : d ∈ dependencies) {consumer : Fragment} {binding : ArtifactBinding}
    (hproducer : fragments[position]? = some fragment) (hname : fragment.name = d.producer)
    (hconsumer : fragments[c]? = some consumer) (hname' : consumer.name = d.consumer)
    (hbinding : fragment.produces.get? d.artifact = some binding) :
    fragment.finalsAfter binding.step = [] ∨
      ∃ final, fragment.finalsAfter binding.step = [final] ∧
        Demanded fragments dependencies position final c := by
  have hposition := (fragmentPosition?_eq_some_iff hnames d.consumer c).2
    ⟨consumer, hconsumer, hname'⟩
  have demand : ∀ r, feed? fragments fragment position d = some r →
      r ∈ (wiringBefore fragments dependencies position).demands fragments dependencies fragment
        position := by
    intro r hr
    refine List.mem_append_right _ (List.mem_filterMap.2 ⟨d, List.mem_filter.2 ⟨hd, ?_⟩, hr⟩)
    exact decide_eq_true hname.symm
  rcases feed?_cases hposition hbinding position with hnil | ⟨final, hfinal⟩ | ⟨v, hv⟩
  · exact .inl hnil
  · refine .inr ⟨final, hfinal, fragment, hproducer, demand _ ?_⟩
    exact (feed?_eq_ok_iff fragment position d final c).2 ⟨hposition, binding, hbinding, hfinal⟩
  · exact absurd (demand _ hv) (demands_of_failures hfailures hproducer v)

end Whole

end Plan

end Workflow
