import Mathlib.Data.List.Nodup
import Mathlib.Data.Set.Finite.Basic
import Mathlib.Order.WellFounded
import Workflow.Proofs.Graph.Placing

/-!
# Orders along the transitions

Placing leaves a step over exactly if a step that is left over leads to it. In an acyclic graph the
steps left over would have a first one among them, so that none is left over; an order of all steps,
on the other hand, rules out every cycle.

Main statements: `exists_topologicalIds_iff`, there is an order exactly if the graph is acyclic, and
`pairwise_of_topologicalIds`, no step comes before one from which it can be reached.
-/

namespace Workflow

open Relation in
/-- Who always finds a way onwards among finitely many comes to one to which there is a way back. -/
theorem exists_returning {α : Type} {r : α → α → Prop} {l : List α}
    (onwards : ∀ a ∈ l, ∃ b ∈ l, r a b) {a : α} (ha : a ∈ l) :
    ∃ b, ReflTransGen r a b ∧ TransGen r b b := by
  by_contra none_returns
  rw [not_exists] at none_returns
  have finite : Finite {b // b ∈ l ∧ ReflTransGen r a b} :=
    (List.finite_toSet l).subset fun _ hb => hb.1
  have trans : IsTrans {b // b ∈ l ∧ ReflTransGen r a b} fun x y => TransGen r y.1 x.1 :=
    ⟨fun _ _ _ hxy hyz => hyz.trans hxy⟩
  have irrefl : Std.Irrefl fun x y : {b // b ∈ l ∧ ReflTransGen r a b} => TransGen r y.1 x.1 :=
    ⟨fun x back => none_returns x.1 ⟨x.2.2, back⟩⟩
  have wf : WellFounded fun x y : {b // b ∈ l ∧ ReflTransGen r a b} => TransGen r y.1 x.1 :=
    Finite.wellFounded_of_trans_of_irrefl _
  -- There would be one from which there is no way onwards.
  obtain ⟨last, -, least⟩ := wf.has_min Set.univ ⟨⟨a, ha, .refl⟩, trivial⟩
  obtain ⟨next, hnext, step⟩ := onwards last.1 last.2.1
  exact least ⟨next, hnext, last.2.2.tail step⟩ trivial (.single step)

namespace Graph

variable {g : Graph} {order unplaced : List String}

/-! ## Placing -/

/-- No transition leads from a step of the list to an earlier one or to the step itself. -/
def GoesForward (g : Graph) (order : List String) : Prop :=
  order.Pairwise (fun a b => a ∉ g.successors b) ∧ ∀ id ∈ order, id ∉ g.successors id

theorem not_mem_successors_of_find? {id : String}
    (h : (unplaced.find? fun id => !g.isAwaited unplaced id) = some id) :
    ∀ other ∈ unplaced, id ∉ g.successors other := by
  have free : ¬ g.isAwaited unplaced id = true := by simpa using List.find?_some h
  rw [isAwaited_iff] at free
  intro other hother hnext
  exact free ⟨other, hother, hnext⟩

theorem mem_of_mem_place {id : String} (h : id ∈ (g.place unplaced).1) : id ∈ unplaced :=
  (place_perm g unplaced).subset (List.mem_append_left _ h)

theorem place_goesForward (g : Graph) (unplaced : List String) :
    g.GoesForward (g.place unplaced).1 := by
  fun_induction place g unplaced with
  | case1 unplaced _ => exact ⟨.nil, by simp⟩
  | case2 unplaced id h order left hplace ih =>
      rw [hplace] at ih
      have free := not_mem_successors_of_find? h
      have placed_later : ∀ other ∈ order, other ∈ unplaced := by
        intro other hother
        have : other ∈ (g.place (unplaced.erase id)).1 := by rwa [hplace]
        exact List.mem_of_mem_erase (mem_of_mem_place this)
      refine ⟨List.pairwise_cons.2 ⟨fun other hother => ?_, ih.1⟩, ?_⟩
      · exact free other (placed_later other hother)
      · intro other hother
        rcases List.mem_cons.1 hother with rfl | hother
        · exact free other (List.mem_of_find?_eq_some h)
        · exact ih.2 other hother

/-- A step is left over because one that is left over leads to it. -/
theorem exists_mem_left {id : String} (h : id ∈ (g.place unplaced).2) :
    ∃ other ∈ (g.place unplaced).2, id ∈ g.successors other := by
  revert h
  fun_induction place g unplaced with
  | case1 unplaced h =>
      intro hid
      have awaited : g.isAwaited unplaced id = true := by
        simpa using List.find?_eq_none.1 h id hid
      exact (isAwaited_iff g unplaced id).1 awaited
  | case2 unplaced found h order left hplace ih =>
      rw [hplace] at ih
      exact ih

/-! ## Acyclic graphs -/

/-- In an acyclic graph each list of steps has one to which no step of the list leads. -/
theorem Acyclic.exists_first (acyclic : g.Acyclic) {left : List String} (h : left ≠ []) :
    ∃ id ∈ left, ∀ other ∈ left, id ∉ g.successors other := by
  by_contra none_first
  have backwards : ∀ id ∈ left, ∃ other ∈ left, Function.swap g.Leads id other := by
    intro id hid
    by_contra no_other
    exact none_first ⟨id, hid, fun other hother hnext => no_other ⟨other, hother, hnext⟩⟩
  obtain ⟨id, hid⟩ := List.exists_mem_of_ne_nil left h
  obtain ⟨first, _, cycle⟩ := exists_returning backwards hid
  exact acyclic first (Relation.transGen_swap.1 cycle)

theorem Acyclic.left_eq_nil (acyclic : g.Acyclic) (unplaced : List String) :
    (g.place unplaced).2 = [] := by
  by_contra hne
  obtain ⟨id, hid, free⟩ := acyclic.exists_first hne
  obtain ⟨other, hother, hnext⟩ := exists_mem_left hid
  exact free other hother hnext

/-- Along a transition between steps of the list the position grows. -/
theorem GoesForward.idxOf_lt (forward : g.GoesForward order) {a b : String} (ha : a ∈ order)
    (hb : b ∈ order) (h : b ∈ g.successors a) : order.idxOf a < order.idxOf b := by
  have la := List.idxOf_lt_length_of_mem ha
  have lb := List.idxOf_lt_length_of_mem hb
  rcases Nat.lt_trichotomy (order.idxOf a) (order.idxOf b) with lt | eq | gt
  · exact lt
  · have same : a = b := by
      rw [← List.getElem_idxOf la, ← List.getElem_idxOf lb]
      simp only [eq]
    subst same
    exact absurd h (forward.2 a ha)
  · have back := List.pairwise_iff_getElem.1 forward.1 _ _ lb la gt
    rw [List.getElem_idxOf, List.getElem_idxOf] at back
    exact absurd h back

/-- Along a path the position grows, if all steps of the graph are in the list. -/
theorem GoesForward.idxOf_lt_of_transGen (forward : g.GoesForward order)
    (all : ∀ id, g.contains id = true → id ∈ order) {a b : String}
    (h : Relation.TransGen g.Leads a b) (hb : b ∈ order) :
    order.idxOf a < order.idxOf b := by
  induction h with
  | single hnext => exact forward.idxOf_lt (all _ (contains_of_mem_successors hnext)) hb hnext
  | tail _ hnext ih =>
      have hmid := all _ (contains_of_mem_successors hnext)
      exact (ih hmid).trans (forward.idxOf_lt hmid hb hnext)

theorem GoesForward.acyclic (forward : g.GoesForward order)
    (all : ∀ id, g.contains id = true → id ∈ order) : g.Acyclic := by
  intro id cycle
  obtain ⟨_, hnext, _⟩ := Relation.TransGen.head'_iff.1 cycle
  have hid := all id (contains_of_mem_successors hnext)
  exact Nat.lt_irrefl _ (forward.idxOf_lt_of_transGen all cycle hid)

/-! ## The order of a graph -/

theorem topologicalIds_eq (g : Graph) :
    g.topologicalIds =
      if (g.place g.ids).2 = [] then .ok (g.place g.ids).1
      else .error (.cycle (g.peelSinks (g.place g.ids).2)) := by
  have total := (place_perm g g.ids).length_eq
  have size : g.ids.length = g.steps.size := List.length_map ..
  rw [List.length_append, size] at total
  have short : (g.place g.ids).1.length < g.steps.size ↔ (g.place g.ids).2 ≠ [] := by
    rw [← List.length_pos_iff]
    omega
  simp only [topologicalIds, Placing.order_run_start, ← place_snd (ids_nodup g), short, ite_not]

theorem topologicalIds_eq_ok_iff (g : Graph) (order : List String) :
    g.topologicalIds = .ok order ↔ g.place g.ids = (order, []) := by
  rw [topologicalIds_eq]
  split
  · next h => simp [Prod.ext_iff, h]
  · next h => simp [Prod.ext_iff, h]

theorem topologicalIds_eq_error {error : GraphError} (h : g.topologicalIds = .error error) :
    ∃ left, error = .cycle left := by
  rw [topologicalIds_eq] at h
  split at h <;> cases h
  exact ⟨_, rfl⟩

theorem perm_of_topologicalIds (h : g.topologicalIds = .ok order) : order.Perm g.ids := by
  have perm := place_perm g g.ids
  rw [(topologicalIds_eq_ok_iff g order).1 h] at perm
  simpa using perm

theorem goesForward_of_topologicalIds (h : g.topologicalIds = .ok order) :
    g.GoesForward order := by
  have forward := place_goesForward g g.ids
  rwa [(topologicalIds_eq_ok_iff g order).1 h] at forward

theorem exists_topologicalIds_iff (g : Graph) :
    (∃ order, g.topologicalIds = .ok order) ↔ g.Acyclic := by
  constructor
  · rintro ⟨order, h⟩
    refine (goesForward_of_topologicalIds h).acyclic fun id hid => ?_
    exact (perm_of_topologicalIds h).mem_iff.2 ((mem_ids_iff g id).2 hid)
  · intro acyclic
    refine ⟨(g.place g.ids).1, (topologicalIds_eq_ok_iff g _).2 ?_⟩
    rw [← acyclic.left_eq_nil g.ids]

/-- A later step of the order does not lead to an earlier one, on any path. -/
theorem pairwise_of_topologicalIds (h : g.topologicalIds = .ok order) :
    order.Pairwise fun a b => ¬ Relation.TransGen g.Leads b a := by
  have perm := perm_of_topologicalIds h
  have nodup : order.Nodup := perm.nodup_iff.2 (ids_nodup g)
  have all : ∀ id, g.contains id = true → id ∈ order := fun id hid =>
    perm.mem_iff.2 ((mem_ids_iff g id).2 hid)
  rw [List.pairwise_iff_getElem]
  intro i j hi hj hij back
  have lt := (goesForward_of_topologicalIds h).idxOf_lt_of_transGen all back (List.getElem_mem hi)
  rw [nodup.idxOf_getElem, nodup.idxOf_getElem] at lt
  omega

/-- The steps in topological order are the steps of the graph in another order. -/
theorem topologicalSteps_eq_ok (h : g.topologicalIds = .ok order) :
    g.topologicalSteps = .ok (order.filterMap g.step?) := by
  simp [topologicalSteps, h, Except.map]

theorem perm_filterMap_step? (h : order.Perm g.ids) :
    (order.filterMap g.step?).Perm g.stepList := by
  rw [← filterMap_step?_ids]
  exact h.filterMap g.step?

end Graph

end Workflow
