import Mathlib.Data.List.Count
import Mathlib.Data.List.Pairwise
import Workflow.Proofs.Validation.Accepted

/-!
# Accepted graphs are trees

Two paths from one step to another would part at some step and meet again behind two of its
transitions, or go in a circle. So there is one path from the entry to each step, the last step
before it is its only predecessor, and what an action refers to stands on that path.

Main statement: `WellFormed.isTree`, and with it that accepted graphs are trees.
-/

namespace Workflow.Graph

variable {schemas : Schemas} {g : Graph} {entry : String}

/-! ## One way to each step -/

namespace WellFormed

variable {first last : String} {walk rest : List String}

theorem targets_pairwise (wf : g.WellFormed schemas entry) (id : String) :
    (g.successors id).Pairwise fun a b =>
      ∀ shared, g.Reachable a shared → ¬ g.Reachable b shared := by
  cases h : g.step? id with
  | none => simp [successors, h]
  | some step =>
      rw [successors_of_step? h]
      exact wf.isolated step (mem_stepList_of_step? h)

/-- No step has two transitions to one target. -/
theorem successors_nodup (wf : g.WellFormed schemas entry) (id : String) :
    (g.successors id).Nodup := by
  refine List.Pairwise.imp_of_mem ?_ (wf.targets_pairwise id)
  intro a b ha _ apart heq
  subst heq
  have reached := Reachable.refl (wf.contains_target ha)
  exact apart a reached reached

/-- Two transitions of a step behind which one step can be reached lead to the same target. -/
theorem target_unique (wf : g.WellFormed schemas entry) {id a b shared : String}
    (ha : a ∈ g.successors id) (hb : b ∈ g.successors id) (hra : g.Reachable a shared)
    (hrb : g.Reachable b shared) : a = b := by
  by_contra hne
  have : Std.Symm fun a b => ∀ shared, g.Reachable a shared → ¬ g.Reachable b shared :=
    ⟨fun _ _ apart shared hb ha => apart shared ha hb⟩
  exact (wf.targets_pairwise id).forall ha hb hne shared hra hrb

/-- Two walks with the same ends are the same walk. -/
theorem walk_unique (wf : g.WellFormed schemas entry) (w : g.Walk first last walk)
    (v : g.Walk first last rest) : walk = rest := by
  have circle : ∀ {first next : String} {rest : List String}, next ∈ g.successors first →
      ¬ g.Walk next first rest := by
    intro first next rest hnext back
    exact wf.acyclic first (Relation.TransGen.head' hnext back.reflTransGen)
  induction walk generalizing first rest with
  | nil => exact absurd rfl w.ne_nil
  | cons head tail ih =>
      -- If one walk ended where the other goes on, the other would come back to that step.
      rcases w.cases_head with ⟨hl, hw⟩ | ⟨next, wrest, hnext, w', hw⟩
      · rcases v.cases_head with ⟨_, hv⟩ | ⟨_, _, hnext', v', _⟩
        · rw [hw, hv]
        · exact absurd (hl ▸ v') (circle hnext')
      · rcases v.cases_head with ⟨hl, _⟩ | ⟨next', vrest, hnext', v', hv⟩
        · exact absurd (hl ▸ w') (circle hnext)
        · -- Both go on, and by the same transition, since they meet at the end.
          obtain rfl := wf.target_unique hnext hnext' ⟨_, w'⟩ ⟨_, v'⟩
          obtain ⟨rfl, rfl⟩ := List.cons.inj hw
          rw [hv, ih w' v']

/-- What can be reached from a step is the step itself and, behind one of its transitions each, all
the rest. -/
theorem reachable_perm (wf : g.WellFormed schemas entry) {id : String}
    (h : g.contains id = true) :
    (g.reachable id).Perm (id :: (g.successors id).flatMap g.reachable) := by
  have reachable_nodup (start : String) : (g.reachable start).Nodup := g.ids_nodup.filter _
  have below_nodup : ((g.successors id).flatMap g.reachable).Nodup := by
    refine List.nodup_flatMap.2 ⟨fun start _ => reachable_nodup start, ?_⟩
    refine (wf.targets_pairwise id).imp fun apart shared ha hb => ?_
    exact apart shared ((mem_reachable_iff g _ shared).1 ha) ((mem_reachable_iff g _ shared).1 hb)
  have above : id ∉ (g.successors id).flatMap g.reachable := by
    intro hmem
    obtain ⟨next, hnext, hback⟩ := List.mem_flatMap.1 hmem
    obtain ⟨_, w⟩ := (mem_reachable_iff g next id).1 hback
    exact wf.acyclic id (Relation.TransGen.head' hnext w.reflTransGen)
  refine (List.perm_ext_iff_of_nodup (reachable_nodup id)
    (List.nodup_cons.2 ⟨above, below_nodup⟩)).2 fun last => ?_
  rw [mem_reachable_iff, List.mem_cons, List.mem_flatMap]
  constructor
  · rintro ⟨walk, w⟩
    rcases w.cases_head with ⟨hlast, _⟩ | ⟨next, rest, hnext, v, _⟩
    · exact .inl hlast
    · exact .inr ⟨next, hnext, (mem_reachable_iff g next last).2 ⟨rest, v⟩⟩
  · rintro (rfl | ⟨next, hnext, hlast⟩)
    · exact .refl h
    · obtain ⟨rest, v⟩ := (mem_reachable_iff g next last).1 hlast
      exact ⟨_, v.cons hnext⟩

theorem existsUnique_walk (wf : g.WellFormed schemas entry) {id : String}
    (h : g.contains id = true) : ∃! walk, g.Walk entry id walk := by
  obtain ⟨walk, w⟩ := wf.reached id h
  exact ⟨walk, w, fun rest v => wf.walk_unique v w⟩

/-! ## One transition to each step -/

/-- Two steps that lead to one step are the same step. -/
theorem predecessor_unique (wf : g.WellFormed schemas entry) {a b target : String}
    (ha : target ∈ g.successors a) (hb : target ∈ g.successors b) : a = b := by
  obtain ⟨walk, w⟩ := wf.reached a (contains_of_mem_successors ha)
  obtain ⟨rest, v⟩ := wf.reached b (contains_of_mem_successors hb)
  -- The ways through `a` and through `b` are one way, so both are its last step but one.
  have same := wf.walk_unique (wf.walk_step w ha) (wf.walk_step v hb)
  have := w.getLast?_eq
  rw [(List.append_inj_left' same rfl), v.getLast?_eq] at this
  exact (Option.some.inj this).symm

theorem mem_predecessors_iff (g : Graph) (id pred : String) :
    pred ∈ g.predecessors id ↔ id ∈ g.successors pred := by
  rw [predecessors, mem_successors_iff, List.mem_map]
  constructor
  · rintro ⟨step, hmem, rfl⟩
    obtain ⟨hstep, htarget⟩ := List.mem_filter.1 hmem
    exact ⟨step, (mem_stepList_iff g step).1 hstep, of_decide_eq_true htarget⟩
  · rintro ⟨step, hstep, htarget⟩
    refine ⟨step, List.mem_filter.2 ⟨mem_stepList_of_step? hstep, decide_eq_true htarget⟩, ?_⟩
    exact id_of_step? hstep

theorem predecessors_nodup (g : Graph) (id : String) : (g.predecessors id).Nodup := by
  exact (map_id_nodup g).sublist (List.filter_sublist.map _)

/-- Nothing leads to the entry. -/
theorem predecessors_entry (wf : g.WellFormed schemas entry) : g.predecessors entry = [] := by
  refine List.eq_nil_iff_forall_not_mem.2 fun pred hpred => ?_
  have hnext := (mem_predecessors_iff g entry pred).1 hpred
  obtain ⟨walk, w⟩ := wf.reached pred (contains_of_mem_successors hnext)
  exact wf.acyclic entry (Relation.TransGen.tail' w.reflTransGen hnext)

theorem exists_predecessor (wf : g.WellFormed schemas entry) {id : String}
    (h : g.contains id = true) (hne : id ≠ entry) : ∃ pred, id ∈ g.successors pred := by
  obtain ⟨walk, w⟩ := wf.reached id h
  cases w with
  | start _ => exact absurd rfl hne
  | step _ hnext _ => exact ⟨_, hnext⟩

/-- One step leads to each step that is not the entry. -/
theorem predecessors_eq_singleton (wf : g.WellFormed schemas entry) {id : String}
    (h : g.contains id = true) (hne : id ≠ entry) : ∃ pred, g.predecessors id = [pred] := by
  obtain ⟨pred, hpred⟩ := wf.exists_predecessor h hne
  refine ⟨pred, List.perm_singleton.1 ?_⟩
  refine (List.perm_ext_iff_of_nodup (predecessors_nodup g id) (List.nodup_singleton pred)).2 ?_
  intro other
  rw [mem_predecessors_iff, List.mem_singleton]
  constructor
  · intro hother
    exact wf.predecessor_unique hother hpred
  · rintro rfl
    exact hpred

/-- No two transitions of the graph lead to one step. -/
theorem targets_nodup (wf : g.WellFormed schemas entry) :
    (g.stepList.flatMap Step.targets).Nodup := by
  have successors_eq : ∀ step ∈ g.stepList, g.successors step.id = step.targets := fun step hstep =>
    successors_of_step? ((mem_stepList_iff g step).1 hstep)
  have distinct : g.stepList.Pairwise fun a b => a.id ≠ b.id := by
    exact List.pairwise_map.1 (map_id_nodup g)
  refine List.nodup_flatMap.2 ⟨fun step hstep => ?_, ?_⟩
  · rw [← successors_eq step hstep]
    exact wf.successors_nodup step.id
  · refine distinct.imp_of_mem fun {a b} ha hb hne target hta htb => ?_
    rw [← successors_eq a ha] at hta
    rw [← successors_eq b hb] at htb
    exact hne (wf.predecessor_unique hta htb)

theorem count_targets (wf : g.WellFormed schemas entry) {id : String}
    (h : g.contains id = true) (hne : id ≠ entry) :
    (g.stepList.flatMap Step.targets).count id = 1 := by
  obtain ⟨pred, hpred⟩ := wf.exists_predecessor h hne
  obtain ⟨step, hstep, htarget⟩ := (mem_successors_iff g pred id).1 hpred
  refine List.count_eq_one_of_mem wf.targets_nodup (List.mem_flatMap.2 ⟨step, ?_, htarget⟩)
  exact mem_stepList_of_step? hstep

/-! ## Ends of paths, and references -/

/-- A path that cannot be made longer has reached a final step. -/
theorem final_of_maximal (wf : g.WellFormed schemas entry) (w : g.Walk first last walk)
    (maximal : ∀ target, ¬ g.Walk first target (walk ++ [target])) :
    ∃ step, g.step? last = some step ∧ step.action = .final := by
  obtain ⟨step, hstep⟩ := (contains_iff g last).1 w.contains_last
  have no_way : step.transitions = [] := by
    refine List.eq_nil_iff_forall_not_mem.2 fun t ht => maximal t.target ?_
    refine wf.walk_step w ?_
    rw [successors_of_step? hstep]
    exact List.mem_map_of_mem ht
  exact ⟨step, hstep, (wf.ends_iff_final step (mem_stepList_of_step? hstep)).1 no_way⟩

/-- What an action refers to stands before its step on the path from the entry. -/
theorem mem_dropLast_of_action (wf : g.WellFormed schemas entry) {step : Step}
    (hstep : step ∈ g.stepList) {source field : String}
    (h : .output source field ∈ step.actionReferences) (w : g.Walk entry step.id walk) :
    source ∈ walk.dropLast := by
  obtain ⟨foreign, supplied⟩ := wf.action_supplied step hstep source field h
  have hmem := supplied.passed walk w
  rw [← w.dropLast_append] at hmem
  rcases List.mem_append.1 hmem with hmem | hmem
  · exact hmem
  · exact absurd (List.mem_singleton.1 hmem) foreign

/-- What an action refers to leads to its step. -/
theorem transGen_of_action (wf : g.WellFormed schemas entry) {step : Step}
    (hstep : step ∈ g.stepList) {source field : String}
    (h : .output source field ∈ step.actionReferences) :
    Relation.TransGen g.Leads source step.id := by
  obtain ⟨foreign, supplied⟩ := wf.action_supplied step hstep source field h
  obtain ⟨walk, w⟩ := wf.reached step.id (contains_of_mem_stepList hstep)
  obtain ⟨_, _, _, v, _⟩ := w.exists_split (supplied.passed walk w)
  exact v.transGen foreign

/-- The steps have an order, and no step comes before one that its action refers to. -/
theorem exists_topologicalSteps (wf : g.WellFormed schemas entry) :
    ∃ order, g.topologicalSteps = .ok order ∧ order.Perm g.stepList ∧
      order.Pairwise fun earlier later =>
        ∀ field, .output later.id field ∉ earlier.actionReferences := by
  obtain ⟨order, horder⟩ := (exists_topologicalIds_iff g).2 wf.acyclic
  refine ⟨_, topologicalSteps_eq_ok horder, perm_filterMap_step? (perm_of_topologicalIds horder),
    ?_⟩
  rw [List.pairwise_filterMap]
  refine (pairwise_of_topologicalIds horder).imp ?_
  intro a b apart earlier hearlier later hlater field hmem
  have back := wf.transGen_of_action (mem_stepList_of_step? hearlier) hmem
  rw [id_of_step? hearlier, id_of_step? hlater] at back
  exact apart back

end WellFormed

/-! ## Trees -/

/-- A graph that is a tree of steps below its entry, in which what a step reads stands above it. -/
structure IsTree (g : Graph) (entry : String) : Prop where
  entry_first : g.contains entry = true ∧ g.predecessors entry = []
  one_predecessor : ∀ id, g.contains id = true → id ≠ entry →
    (∃ pred, g.predecessors id = [pred]) ∧ (g.stepList.flatMap Step.targets).count id = 1
  one_path : ∀ id, g.contains id = true → ∃! walk, g.Walk entry id walk
  /-- Paths are finite, and one that cannot be made longer has reached a final step. -/
  ends_final : ∀ first last walk, g.Walk first last walk →
    walk.length ≤ g.steps.size ∧
      ((∀ target, ¬ g.Walk first target (walk ++ [target])) →
        ∃ step, g.step? last = some step ∧ step.action = .final)
  action_below : ∀ step ∈ g.stepList, ∀ source field,
    .output source field ∈ step.actionReferences →
      ∀ walk, g.Walk entry step.id walk → source ∈ walk.dropLast
  label_below : ∀ step ∈ g.stepList, ∀ label ∈ step.labels, ∀ source field,
    LabelReads label (.output source field) → ∀ walk, g.Walk entry step.id walk → source ∈ walk
  ordered : ∃ order, g.topologicalSteps = .ok order ∧ order.Perm g.stepList ∧
    order.Pairwise fun earlier later =>
      ∀ field, .output later.id field ∉ earlier.actionReferences

theorem WellFormed.isTree (wf : g.WellFormed schemas entry) : g.IsTree entry where
  entry_first := ⟨wf.contains_entry, wf.predecessors_entry⟩
  one_predecessor _ h hne := ⟨wf.predecessors_eq_singleton h hne, wf.count_targets h hne⟩
  one_path _ h := wf.existsUnique_walk h
  ends_final _ _ _ w := ⟨w.length_le wf.acyclic, wf.final_of_maximal w⟩
  action_below _ hstep _ _ h _ w := wf.mem_dropLast_of_action hstep h w
  label_below step hstep label hlabel source field h walk w :=
    (wf.label_supplied step hstep label hlabel source field h).passed walk w
  ordered := wf.exists_topologicalSteps

/-- An accepted graph is a tree below its entry. -/
theorem exists_isTree_of_isAccepted (h : (g.validate schemas).isAccepted = true) :
    ∃ entry, g.entry = some entry ∧ g.IsTree entry := by
  obtain ⟨entry, hentry, wf⟩ := wellFormed_of_isAccepted h
  exact ⟨entry, hentry, wf.isTree⟩

theorem forecast_isTree :
    (forecast.validate forecastSchemas).isAccepted = true ∧
      ∃ entry, forecast.entry = some entry ∧ forecast.IsTree entry :=
  ⟨forecast_isAccepted, exists_isTree_of_isAccepted forecast_isAccepted⟩

end Workflow.Graph
