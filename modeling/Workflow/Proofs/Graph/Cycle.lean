import Workflow.Proofs.Graph.Order

/-!
# The report of a cycle

Placing leaves over the largest list of steps in which each one is led to from the list, and peeling
leaves of these the largest list in which each one leads into the list. Whoever goes backwards or
forwards in such a list comes round at last, because it is finite. So the steps that placing leaves
over are those that follow a cycle, and the reported ones those of them that lead to a cycle as
well.

Main statement: `cycle_report`.
-/

namespace Workflow

open Relation

namespace Graph

variable {g : Graph} {unplaced left : List String} {kept : String → Prop} {id : String}

/-! ## What is left over -/

/-- Placing leaves over all steps to which steps lead that are left over. -/
theorem mem_left_of_awaited
    (awaited : ∀ id, kept id → ∃ other, kept other ∧ id ∈ g.successors other)
    (within : ∀ id, kept id → id ∈ unplaced) : ∀ id, kept id → id ∈ (g.place unplaced).2 := by
  fun_induction place g unplaced with
  | case1 unplaced _ => exact within
  | case2 unplaced found h order left hplace ih =>
      rw [hplace] at ih
      have free := not_mem_successors_of_find? h
      refine ih fun id hid => (List.mem_erase_of_ne ?_).2 (within id hid)
      rintro rfl
      obtain ⟨other, hother, hnext⟩ := awaited id hid
      exact free other (within other hother) hnext

theorem peelSinks_sublist (g : Graph) (left : List String) : (g.peelSinks left).Sublist left := by
  fun_induction peelSinks g left with
  | case1 left _ ih => exact ih.trans List.filter_sublist
  | case2 left _ => exact .refl _

theorem mem_withoutSinks_iff (g : Graph) (left : List String) (id : String) :
    id ∈ g.withoutSinks left ↔ id ∈ left ∧ ∃ other ∈ left, other ∈ g.successors id := by
  simp [withoutSinks, and_comm]

/-- A step is not peeled off as long as it leads to one that is not. -/
theorem mem_peelSinks_of_leading
    (leading : ∀ id, kept id → ∃ other, kept other ∧ other ∈ g.successors id)
    (within : ∀ id, kept id → id ∈ left) : ∀ id, kept id → id ∈ g.peelSinks left := by
  fun_induction peelSinks g left with
  | case1 left _ ih =>
      refine ih fun id hid => (mem_withoutSinks_iff g left id).2 ⟨within id hid, ?_⟩
      obtain ⟨other, hother, hnext⟩ := leading id hid
      exact ⟨other, within other hother, hnext⟩
  | case2 left _ => exact within

theorem exists_mem_peelSinks (h : id ∈ g.peelSinks left) :
    ∃ other ∈ g.peelSinks left, other ∈ g.successors id := by
  fun_induction peelSinks g left with
  | case1 left _ ih => exact ih h
  | case2 left full =>
      have all : g.withoutSinks left = left :=
        List.filter_sublist.eq_of_length_le (Nat.le_of_not_lt full)
      rw [← all] at h
      exact ((mem_withoutSinks_iff g left id).1 h).2

/-! ## Cycles -/

/-- A path along transitions leads from the step back to it. The steps on such a path exist, because
others have no transitions. -/
def OnCycle (g : Graph) (id : String) : Prop := TransGen g.Leads id id

/-- A path leads to the step from one that lies on a cycle. -/
def FollowsCycle (g : Graph) (id : String) : Prop :=
  ∃ first, g.OnCycle first ∧ TransGen g.Leads first id

/-- A path leads from the step to one that lies on a cycle. -/
def LeadsToCycle (g : Graph) (id : String) : Prop :=
  ∃ last, g.OnCycle last ∧ TransGen g.Leads id last

theorem contains_of_transGen {last : String} (h : TransGen g.Leads id last) :
    g.contains id = true := by
  obtain ⟨_, hnext, _⟩ := TransGen.head'_iff.1 h
  exact contains_of_mem_successors hnext

theorem OnCycle.followsCycle (h : g.OnCycle id) : g.FollowsCycle id := ⟨id, h, h⟩

theorem OnCycle.leadsToCycle (h : g.OnCycle id) : g.LeadsToCycle id := ⟨id, h, h⟩

theorem FollowsCycle.exists_before (h : g.FollowsCycle id) :
    ∃ other, g.FollowsCycle other ∧ id ∈ g.successors other := by
  obtain ⟨first, cycle, path⟩ := h
  obtain ⟨other, before, hnext⟩ := TransGen.tail'_iff.1 path
  exact ⟨other, ⟨first, cycle, cycle.trans_left before⟩, hnext⟩

theorem LeadsToCycle.exists_next (h : g.LeadsToCycle id) :
    ∃ other, g.LeadsToCycle other ∧ other ∈ g.successors id := by
  obtain ⟨last, cycle, path⟩ := h
  obtain ⟨other, hnext, after⟩ := TransGen.head'_iff.1 path
  exact ⟨other, ⟨last, cycle, TransGen.trans_right after cycle⟩, hnext⟩

theorem LeadsToCycle.contains (h : g.LeadsToCycle id) : g.contains id = true := by
  obtain ⟨_, _, path⟩ := h
  exact contains_of_transGen path

/-- Placing leaves over the steps that follow a cycle. -/
theorem mem_left_iff (g : Graph) (id : String) :
    id ∈ (g.place g.ids).2 ↔ g.contains id = true ∧ g.FollowsCycle id := by
  constructor
  · intro h
    obtain ⟨first, path, cycle⟩ :=
      exists_returning (r := Function.swap g.Leads) (fun _ hid => exists_mem_left hid) h
    rw [reflTransGen_swap] at path
    rw [transGen_swap] at cycle
    have hid := (place_perm g g.ids).subset (List.mem_append_right _ h)
    exact ⟨(mem_ids_iff g id).1 hid, first, cycle, cycle.trans_left path⟩
  · have awaited : ∀ id, g.contains id = true ∧ g.FollowsCycle id →
        ∃ other, (g.contains other = true ∧ g.FollowsCycle other) ∧ id ∈ g.successors other := by
      rintro id ⟨_, follows⟩
      obtain ⟨other, before, hnext⟩ := follows.exists_before
      exact ⟨other, ⟨contains_of_mem_successors hnext, before⟩, hnext⟩
    exact mem_left_of_awaited awaited (fun id hid => (mem_ids_iff g id).2 hid.1) id

/-- Of these steps those are reported that lead to a cycle as well. -/
theorem mem_reported_iff (g : Graph) (id : String) :
    id ∈ g.peelSinks (g.place g.ids).2 ↔ g.FollowsCycle id ∧ g.LeadsToCycle id := by
  constructor
  · intro h
    have follows := ((mem_left_iff g id).1 ((peelSinks_sublist g _).subset h)).2
    obtain ⟨last, path, cycle⟩ :=
      exists_returning (r := g.Leads) (fun _ hid => exists_mem_peelSinks hid) h
    exact ⟨follows, last, cycle, TransGen.trans_right path cycle⟩
  · have leading : ∀ id, g.FollowsCycle id ∧ g.LeadsToCycle id →
        ∃ other, (g.FollowsCycle other ∧ g.LeadsToCycle other) ∧ other ∈ g.successors id := by
      rintro id ⟨⟨first, cycle, path⟩, leads⟩
      obtain ⟨other, there, hnext⟩ := leads.exists_next
      exact ⟨other, ⟨⟨first, cycle, path.tail hnext⟩, there⟩, hnext⟩
    exact mem_peelSinks_of_leading leading
      (fun id hid => (mem_left_iff g id).2 ⟨hid.2.contains, hid.1⟩) id

/-- If transitions lead round in a cycle, the steps that lie on a cycle or on a path from one cycle
to another are reported in ascending order, each once. There is at least one, and neither the steps
that only lead to cycles nor those that only follow them are among them. -/
theorem cycle_report (cyclic : g.OnCycle id) :
    ∃ reported, g.topologicalSteps = .error (.cycle reported) ∧
      reported.Pairwise (· < ·) ∧ reported ≠ [] ∧
      (∀ id, id ∈ reported ↔ g.OnCycle id ∨ ∃ first last, g.OnCycle first ∧ g.OnCycle last ∧
        TransGen g.Leads first id ∧ TransGen g.Leads id last) ∧
      ∀ id, ¬ g.FollowsCycle id ∨ ¬ g.LeadsToCycle id → id ∉ reported := by
  have stuck : (g.place g.ids).2 ≠ [] :=
    List.ne_nil_of_mem ((mem_left_iff g id).2 ⟨contains_of_transGen cyclic, cyclic.followsCycle⟩)
  refine ⟨g.peelSinks (g.place g.ids).2, ?_, ?_, ?_, ?_, ?_⟩
  · rw [topologicalSteps, topologicalIds_eq, if_neg stuck]
    rfl
  · have sorted : g.ids.Pairwise (· < ·) := g.steps.keys_sorted
    rw [place_snd (ids_nodup g)]
    exact (sorted.filter _).sublist (peelSinks_sublist g _)
  · exact List.ne_nil_of_mem ((mem_reported_iff g id).2 ⟨cyclic.followsCycle, cyclic.leadsToCycle⟩)
  · intro id
    rw [mem_reported_iff]
    constructor
    · rintro ⟨⟨first, hfirst, before⟩, last, hlast, after⟩
      exact .inr ⟨first, last, hfirst, hlast, before, after⟩
    · rintro (cycle | ⟨first, last, hfirst, hlast, before, after⟩)
      · exact ⟨cycle.followsCycle, cycle.leadsToCycle⟩
      · exact ⟨⟨first, hfirst, before⟩, last, hlast, after⟩
  · intro id apart
    rw [mem_reported_iff, not_and_or]
    exact apart

/-- Two cycles with a way from the first to the second, a way into the first one, and ways out of
the second one, of which one leads to no step. -/
def knots : Graph where
  steps := Dict.ofList
    (([("start", ["a"]), ("a", ["b"]), ("b", ["a", "between"]), ("between", ["c"]),
      ("c", ["c", "end", "nowhere"]), ("end", [])] : List (String × List String)).map
      fun (id, targets) => (id, ⟨id, .reasoning "Which way?", targets.map (⟨"always", ·⟩), none⟩))
  entry := some "start"
  info := .empty
  keyed := by decide +kernel

theorem knots_reported : knots.OnCycle "a" ∧
    ∃ reported, knots.topologicalSteps = .error (.cycle reported) ∧ reported.Pairwise (· < ·) ∧
      reported = ["a", "b", "between", "c"] := by
  have there : knots.Leads "a" "b" := by
    show "b" ∈ knots.successors "a"
    decide +kernel
  have back : knots.Leads "b" "a" := by
    show "a" ∈ knots.successors "b"
    decide +kernel
  have cyclic : knots.OnCycle "a" := .tail (.single there) back
  obtain ⟨reported, stuck, sorted, -⟩ := cycle_report cyclic
  have found : knots.topologicalIds = .error (.cycle ["a", "b", "between", "c"]) := by
    decide +kernel
  refine ⟨cyclic, reported, stuck, sorted, ?_⟩
  rw [topologicalSteps, found] at stuck
  cases stuck
  rfl

end Graph

end Workflow
