import Workflow.Proofs.Graph.Order

/-!
# The least order of the steps

A graph may have many orders in which each step stands before those to which it leads. The first
step of any of them is one to which no step leads, and placing starts with the smallest such step.
So an order that differs from the one found has a greater id at the first place where they differ.

Main statement: `topologicalSteps_least`.
-/

namespace Workflow.Graph

variable {g : Graph} {order other unplaced : List String}

/-! ## Listings -/

/-- The list holds all steps of the graph, each once, and the source of each transition before its
target, if the target exists. -/
structure IsListing (g : Graph) (steps : List Step) : Prop where
  perm : steps.Perm g.stepList
  forward : ∀ source target, target ∈ g.successors source → g.contains target = true →
    (steps.map (·.id)).idxOf source < (steps.map (·.id)).idxOf target

theorem forward_iff_goesForward (perm : order.Perm g.ids) :
    (∀ source target, target ∈ g.successors source → g.contains target = true →
      order.idxOf source < order.idxOf target) ↔ g.GoesForward order := by
  have nodup : order.Nodup := perm.nodup_iff.2 (ids_nodup g)
  have mem_iff : ∀ id, id ∈ order ↔ g.contains id = true := fun id =>
    perm.mem_iff.trans (mem_ids_iff g id)
  constructor
  · intro forward
    refine ⟨List.pairwise_iff_getElem.2 fun i j hi hj hij back => ?_, fun id hid self => ?_⟩
    · have lt := forward _ _ back ((mem_iff _).1 (List.getElem_mem hi))
      rw [nodup.idxOf_getElem, nodup.idxOf_getElem] at lt
      omega
    · exact Nat.lt_irrefl _ (forward id id self ((mem_iff id).1 hid))
  · intro forward source target hnext hin
    have hsource := (mem_iff source).2 (contains_of_mem_successors hnext)
    exact forward.idxOf_lt hsource ((mem_iff target).2 hin) hnext

theorem map_id_filterMap_step? (perm : order.Perm g.ids) :
    (order.filterMap g.step?).map (·.id) = order := by
  rw [List.map_filterMap]
  refine (List.filterMap_congr fun id hid => ?_).trans List.filterMap_some
  obtain ⟨step, hstep⟩ := (contains_iff g id).1 ((mem_ids_iff g id).1 (perm.mem_iff.1 hid))
  rw [hstep, Option.map_some, id_of_step? hstep]

theorem isListing_filterMap_step? (perm : order.Perm g.ids) (forward : g.GoesForward order) :
    g.IsListing (order.filterMap g.step?) := by
  refine ⟨perm_filterMap_step? perm, ?_⟩
  rw [map_id_filterMap_step? perm]
  exact (forward_iff_goesForward perm).2 forward

theorem IsListing.perm_ids {steps : List Step} (listing : g.IsListing steps) :
    (steps.map (·.id)).Perm g.ids := by
  rw [← map_id_stepList]
  exact listing.perm.map _

theorem IsListing.filterMap_step?_map_id {steps : List Step} (listing : g.IsListing steps) :
    (steps.map (·.id)).filterMap g.step? = steps := by
  rw [List.filterMap_map]
  refine (List.filterMap_congr fun step hstep => ?_).trans List.filterMap_some
  exact (mem_stepList_iff g step).1 (listing.perm.mem_iff.1 hstep)

theorem IsListing.goesForward {steps : List Step} (listing : g.IsListing steps) :
    g.GoesForward (steps.map (·.id)) :=
  (forward_iff_goesForward listing.perm_ids).1 listing.forward

/-! ## The smallest step first -/

/-- What is found first in an ascending list is the smallest that could be found. -/
theorem eq_or_lt_of_find? {ids : List String} (sorted : ids.Pairwise (· < ·)) {q : String → Bool}
    {first id : String} (h : ids.find? q = some first) (hid : id ∈ ids) (hq : q id = true) :
    first = id ∨ first < id := by
  obtain ⟨_, before, after, rfl, unfit⟩ := List.find?_eq_some_iff_append.1 h
  rcases List.mem_append.1 hid with hid | hid
  · have := unfit id hid
    simp [hq] at this
  · rcases List.mem_cons.1 hid with rfl | hid
    · exact .inl rfl
    · exact .inr ((List.pairwise_cons.1 (List.pairwise_append.1 sorted).2.1).1 id hid)

theorem GoesForward.head_free {first : String} (forward : g.GoesForward (first :: order)) :
    g.isAwaited (first :: order) first = false := by
  rw [← Bool.not_eq_true, isAwaited_iff]
  rintro ⟨source, hsource, hnext⟩
  rcases List.mem_cons.1 hsource with rfl | hsource
  · exact forward.2 source (List.mem_cons_self ..) hnext
  · exact (List.pairwise_cons.1 forward.1).1 source hsource hnext

theorem GoesForward.tail {first : String} (forward : g.GoesForward (first :: order)) :
    g.GoesForward order :=
  ⟨(List.pairwise_cons.1 forward.1).2, fun id hid => forward.2 id (List.mem_cons_of_mem _ hid)⟩

theorem isAwaited_of_perm (perm : order.Perm unplaced) (id : String) :
    g.isAwaited order id = g.isAwaited unplaced id := by
  rw [Bool.eq_iff_iff, isAwaited_iff, isAwaited_iff]
  exact exists_congr fun source => and_congr_left fun _ => perm.mem_iff

theorem place_eq_or_lt (sorted : unplaced.Pairwise (· < ·)) (perm : other.Perm unplaced)
    (forward : g.GoesForward other) :
    (g.place unplaced).1 = other ∨ (g.place unplaced).1 < other := by
  fun_induction place g unplaced generalizing other with
  | case1 unplaced hnone =>
      -- The first step of the other order could have been placed.
      cases other with
      | nil => exact .inl rfl
      | cons first rest =>
          have free := forward.head_free
          rw [isAwaited_of_perm perm] at free
          have awaited := List.find?_eq_none.1 hnone first (perm.mem_iff.1 (List.mem_cons_self ..))
          simp [free] at awaited
  | case2 unplaced id hfind order left hplace ih =>
      rw [hplace] at ih
      cases other with
      | nil =>
          rw [← perm.nil_eq] at hfind
          cases hfind
      | cons first rest =>
          have free := forward.head_free
          rw [isAwaited_of_perm perm] at free
          have hmem : first ∈ unplaced := perm.mem_iff.1 (List.mem_cons_self ..)
          rcases eq_or_lt_of_find? sorted hfind hmem (by simp [free]) with rfl | lt
          · have rest_perm : rest.Perm (unplaced.erase id) :=
              (perm.trans (List.perm_cons_erase hmem)).cons_inv
            rcases ih (sorted.sublist List.erase_sublist) rest_perm forward.tail with rfl | lt
            · exact .inl rfl
            · exact .inr (List.cons_lt_cons_iff.2 (.inr ⟨rfl, lt⟩))
          · exact .inr (List.cons_lt_cons_iff.2 (.inl lt))

/-! ## The order of a graph -/

/-- The steps are put in order exactly if the graph has no cycle. They are then a listing of the
graph, and no other listing has smaller ids at the first place where it differs. The counters that
the order is found with are not below zero in any state that the run comes by, the last one
included. -/
theorem topologicalSteps_least (g : Graph) :
    ((∃ steps, g.topologicalSteps = .ok steps) ↔ g.Acyclic) ∧
    (∀ steps, g.topologicalSteps = .ok steps →
      g.IsListing steps ∧ ∀ other, g.IsListing other →
        steps = other ∨ steps.map (·.id) < other.map (·.id)) ∧
    Placing.Passes g ((Placing.start g).run g) [] ∧
    ∀ p due, Placing.Passes g p due → ∀ id count, p.waits.get? id = some count → 0 ≤ count := by
  refine ⟨?_, ?_, Placing.Passes.start.run, fun p due passes id count h => passes.nonneg h⟩
  · rw [← exists_topologicalIds_iff]
    constructor
    · rintro ⟨steps, h⟩
      cases horder : g.topologicalIds with
      | ok order => exact ⟨order, rfl⟩
      | error e => simp [topologicalSteps, horder, Except.map] at h
    · rintro ⟨order, h⟩
      exact ⟨_, topologicalSteps_eq_ok h⟩
  · intro steps h
    cases horder : g.topologicalIds with
    | error e => simp [topologicalSteps, horder, Except.map] at h
    | ok order =>
        obtain rfl := Except.ok.inj ((topologicalSteps_eq_ok horder).symm.trans h)
        have perm := perm_of_topologicalIds horder
        refine ⟨isListing_filterMap_step? perm (goesForward_of_topologicalIds horder), ?_⟩
        intro other listing
        have sorted : g.ids.Pairwise (· < ·) := g.steps.keys_sorted
        have least := place_eq_or_lt sorted listing.perm_ids listing.goesForward
        rw [(topologicalIds_eq_ok_iff g order).1 horder] at least
        rw [map_id_filterMap_step? perm]
        refine least.imp_left fun same => ?_
        rw [show order = other.map (·.id) from same, listing.filterMap_step?_map_id]

end Workflow.Graph
