import Mathlib.Data.List.Sort
import Mathlib.Data.String.Basic
import Workflow.Graph.Order
import Workflow.Proofs.Graph.Walk

/-!
# Counting the transitions to a step

Which step is placed next can be said without counters: the first one, in ascending order, to which
no unplaced step leads. The counters are a way to know this without looking at all transitions
again. While the transitions of a placed step are used up one by one, the counter of a step is the
number of transitions to it that unplaced steps still have, together with those that are due. From
this follows that it is never below zero, and that the ready steps are those which the rule without
counters admits.

Main statements: `Passes.nonneg` and `order_run_start`.
-/

namespace Workflow

/-! ## Placing without counters -/

namespace Graph

variable {g : Graph} {unplaced due : List String} {id : String}

/-- Whether a step among `unplaced` has a transition to `id`. -/
def isAwaited (g : Graph) (unplaced : List String) (id : String) : Bool :=
  unplaced.any fun other => id ∈ g.successors other

/-- Places steps as long as possible: the steps in the order of placing, and those left over. -/
def place (g : Graph) (unplaced : List String) : List String × List String :=
  match _h : unplaced.find? fun id => !g.isAwaited unplaced id with
  | none => ([], unplaced)
  | some id =>
      let (order, left) := g.place (unplaced.erase id)
      (id :: order, left)
termination_by unplaced.length
decreasing_by
  have hm := List.mem_of_find?_eq_some _h
  have := List.length_erase_of_mem hm
  have := List.length_pos_of_mem hm
  omega

theorem isAwaited_iff (g : Graph) (unplaced : List String) (id : String) :
    g.isAwaited unplaced id = true ↔ ∃ other ∈ unplaced, id ∈ g.successors other := by
  simp [isAwaited]

theorem place_perm (g : Graph) (unplaced : List String) :
    ((g.place unplaced).1 ++ (g.place unplaced).2).Perm unplaced := by
  fun_induction place g unplaced with
  | case1 unplaced _ => exact .refl _
  | case2 unplaced id h order left hplace ih =>
      rw [hplace] at ih
      have hid : id ∈ unplaced := List.mem_of_find?_eq_some h
      exact (ih.cons id).trans (List.perm_cons_erase hid).symm

/-- The steps left over are those that are not placed, in the order in which they came. -/
theorem place_snd (nodup : unplaced.Nodup) :
    (g.place unplaced).2 = unplaced.filter (· ∉ (g.place unplaced).1) := by
  fun_induction place g unplaced with
  | case1 unplaced _ => simp
  | case2 unplaced id h order left hplace ih =>
      rw [hplace] at ih
      rw [ih (nodup.erase id), nodup.erase_eq_filter, List.filter_filter]
      refine List.filter_congr fun other _ => ?_
      by_cases same : other = id <;> simp [same]

theorem place_of_find?_none
    (h : (unplaced.find? fun id => !g.isAwaited unplaced id) = none) :
    (g.place unplaced).1 = [] := by
  rw [place]
  split
  · rfl
  · next hfind =>
      rw [h] at hfind
      cases hfind

theorem place_of_find?
    (h : (unplaced.find? fun id => !g.isAwaited unplaced id) = some id) :
    (g.place unplaced).1 = id :: (g.place (unplaced.erase id)).1 := by
  rw [place]
  split
  · next hfind =>
      rw [h] at hfind
      cases hfind
  · next hfind =>
      rw [h] at hfind
      cases hfind
      rfl

/-! ## Transitions that are not used up -/

/-- How many transitions to `id` are not used up: those of unplaced steps, and those that
are due. -/
def arrivals (g : Graph) (unplaced due : List String) (id : String) : Nat :=
  (due ++ unplaced.flatMap g.successors).count id

theorem arrivals_nil_eq_zero_iff :
    g.arrivals unplaced [] id = 0 ↔ g.isAwaited unplaced id = false := by
  rw [← Bool.not_eq_true, isAwaited_iff, arrivals, List.nil_append, List.count_eq_zero,
    List.mem_flatMap]

theorem arrivals_cons (target : String) :
    g.arrivals unplaced (target :: due) id =
      g.arrivals unplaced due id + if target = id then 1 else 0 := by
  simp [arrivals, List.count_cons]

/-- When a step is placed, its transitions become due. -/
theorem arrivals_erase {placed : String} (h : placed ∈ unplaced) :
    g.arrivals (unplaced.erase placed) (g.successors placed) id = g.arrivals unplaced [] id := by
  have perm := (List.perm_cons_erase h).flatMap_right g.successors
  rw [arrivals, arrivals, List.nil_append, perm.count_eq, List.flatMap_cons]

theorem flatMap_successors_ids (g : Graph) :
    g.ids.flatMap g.successors = g.stepList.flatMap Step.targets := by
  rw [← map_id_stepList, List.flatMap_map]
  exact List.flatMap_congr fun step hstep =>
    successors_of_step? ((mem_stepList_iff g step).1 hstep)

end Graph

namespace Placing

variable {g : Graph} {p : Placing} {unplaced due : List String} {id target : String}

/-! ## What the counters count -/

/-- Placing has come so far that the steps in `unplaced` are not placed, and that of the transitions
of the last placed step those to `due` are not used up. -/
structure Counts (g : Graph) (unplaced due : List String) (p : Placing) : Prop where
  sorted : unplaced.Pairwise (· < ·)
  exist : ∀ id ∈ unplaced, g.contains id = true
  waits_eq : ∀ id, p.waits.get? id =
    if g.contains id = true then some (g.arrivals unplaced due id : Int) else none
  /-- No transition to a placed step is left. -/
  settled : ∀ id, g.contains id = true → id ∉ unplaced → g.arrivals unplaced due id = 0
  ready_iff : ∀ id, id ∈ p.ready.keys ↔ id ∈ unplaced ∧ g.arrivals unplaced due id = 0

theorem counts_start (g : Graph) : (start g).Counts g g.ids [] := by
  have waits_eq : ∀ id, (start g).waits.get? id =
      if g.contains id = true then some (g.arrivals g.ids [] id : Int) else none := by
    intro id
    rw [start, Dict.get?_map, Graph.arrivals, List.nil_append, Graph.flatMap_successors_ids]
    cases h : g.step? id with
    | none =>
        have absent : ¬ g.contains id = true := by simp [Graph.contains_iff, h]
        rw [if_neg absent, show g.steps.get? id = none from h]
        rfl
    | some step =>
        have present : g.contains id = true := (Graph.contains_iff g id).2 ⟨step, h⟩
        rw [if_pos present, show g.steps.get? id = some step from h, ← Graph.id_of_step? h]
        rfl
  refine
    { sorted := g.steps.keys_sorted
      exist := fun id hid => (Graph.mem_ids_iff g id).1 hid
      waits_eq
      settled := fun id hin hnot => absurd ((Graph.mem_ids_iff g id).2 hin) hnot
      ready_iff := ?_ }
  intro id
  have ready : id ∈ (start g).ready.keys ↔
      ∃ count, (start g).waits.get? id = some count ∧ decide (count = 0) = true := by
    rw [← Dict.mem_keys_filter_iff]
    simp [start, Dict.keys, Dict.map]
  rw [ready, waits_eq, Graph.mem_ids_iff]
  by_cases hin : g.contains id = true <;> simp [hin]

/-- Placing a ready step makes its transitions due. -/
theorem Counts.take (counts : p.Counts g unplaced []) (h : p.next? = some id) :
    (p.take id).Counts g (unplaced.erase id) (g.successors id) := by
  obtain ⟨placed, free⟩ := (counts.ready_iff id).1 (List.mem_of_head? h)
  have nodup : unplaced.Nodup := counts.sorted.imp fun lt => String.ne_of_lt lt
  refine
    { sorted := counts.sorted.sublist List.erase_sublist
      exist := fun other hother => counts.exist other (List.mem_of_mem_erase hother)
      waits_eq := fun other => by rw [Graph.arrivals_erase placed]; exact counts.waits_eq other
      settled := ?_
      ready_iff := ?_ }
  · intro other hin hnot
    rw [Graph.arrivals_erase placed]
    by_cases same : other = id
    · rw [same, free]
    · exact counts.settled other hin fun hmem => hnot ((List.mem_erase_of_ne same).2 hmem)
  · intro other
    rw [Graph.arrivals_erase placed, nodup.mem_erase_iff, Placing.take, Dict.mem_keys_erase_iff,
      counts.ready_iff, and_assoc]

/-- Using up a transition to a step lowers the counter of the step, and makes it ready if the
transition was the last one. -/
theorem Counts.release_of_contains (counts : p.Counts g unplaced (target :: due))
    (hin : g.contains target = true) : (p.release target).Counts g unplaced due := by
  have waits := counts.waits_eq target
  rw [Graph.arrivals_cons, if_pos rfl, if_pos hin] at waits
  -- The target is not placed, as a transition to it is left.
  have unsettled : target ∈ unplaced := by
    by_contra hnot
    have := counts.settled target hin hnot
    rw [Graph.arrivals_cons, if_pos rfl] at this
    omega
  have lowered : ((g.arrivals unplaced due target + 1 : Nat) : Int) - 1 =
      g.arrivals unplaced due target := by omega
  simp only [Placing.release, waits, lowered]
  refine
    { sorted := counts.sorted
      exist := counts.exist
      waits_eq := ?_
      settled := ?_
      ready_iff := ?_ }
  · intro id
    rw [Dict.get?_insert]
    split
    · next same => rw [same, if_pos hin]
    · next other =>
        rw [counts.waits_eq, Graph.arrivals_cons, if_neg (Ne.symm other), Nat.add_zero]
  · intro id hid hnot
    have := counts.settled id hid hnot
    rw [Graph.arrivals_cons] at this
    omega
  · intro id
    have before := counts.ready_iff id
    rw [Graph.arrivals_cons] at before
    by_cases same : target = id
    · subst same
      rw [if_pos rfl] at before
      split
      · next zero =>
          rw [Dict.mem_keys_insert_iff]
          exact ⟨fun _ => ⟨unsettled, by omega⟩, fun _ => .inl rfl⟩
      · next positive => rw [before]; omega
    · rw [if_neg same, Nat.add_zero] at before
      split
      · rw [Dict.mem_keys_insert_iff, before]
        exact or_iff_right (Ne.symm same)
      · exact before

/-- Only steps are counted, so that a transition to something else changes nothing for them. -/
theorem Counts.release_of_not_contains (counts : p.Counts g unplaced (target :: due))
    (hout : ¬g.contains target = true) : (p.release target).Counts g unplaced due := by
  have waits := counts.waits_eq target
  rw [if_neg hout] at waits
  have kept : ∀ id, g.contains id = true →
      g.arrivals unplaced (target :: due) id = g.arrivals unplaced due id := by
    intro id hid
    have other : ¬ target = id := fun same => hout (same ▸ hid)
    rw [Graph.arrivals_cons, if_neg other, Nat.add_zero]
  simp only [Placing.release, waits]
  refine
    { sorted := counts.sorted
      exist := counts.exist
      waits_eq := ?_
      settled := fun id hid hnot => (kept id hid).symm.trans (counts.settled id hid hnot)
      ready_iff := ?_ }
  · intro id
    rw [counts.waits_eq]
    split
    · next hid => rw [kept id hid]
    · rfl
  · intro id
    rw [counts.ready_iff]
    refine and_congr_right fun hid => ?_
    rw [kept id (counts.exist id hid)]

theorem Counts.release (counts : p.Counts g unplaced (target :: due)) :
    (p.release target).Counts g unplaced due := by
  by_cases hin : g.contains target = true
  · exact counts.release_of_contains hin
  · exact counts.release_of_not_contains hin

theorem Counts.foldl_release (counts : p.Counts g unplaced due) :
    (due.foldl Placing.release p).Counts g unplaced [] := by
  induction due generalizing p with
  | nil => exact counts
  | cons target rest ih => exact ih counts.release

/-! ## The states of a run -/

/-- The run comes by this state, in which of the transitions of the last placed step those to `due`
are still to be used up. -/
inductive Passes (g : Graph) : Placing → List String → Prop where
  | start : Passes g (start g) []
  | take {p : Placing} {id : String} : Passes g p [] → p.next? = some id →
      Passes g (p.take id) (g.successors id)
  | release {p : Placing} {target : String} {due : List String} : Passes g p (target :: due) →
      Passes g (p.release target) due

theorem Passes.counts (h : Passes g p due) : ∃ unplaced, p.Counts g unplaced due := by
  induction h with
  | start => exact ⟨g.ids, counts_start g⟩
  | take _ hnext ih =>
      obtain ⟨unplaced, counts⟩ := ih
      exact ⟨_, counts.take hnext⟩
  | release _ ih =>
      obtain ⟨unplaced, counts⟩ := ih
      exact ⟨unplaced, counts.release⟩

/-- No counter is ever below zero. -/
theorem Passes.nonneg (h : Passes g p due) {count : Int} (hcount : p.waits.get? id = some count) :
    0 ≤ count := by
  obtain ⟨unplaced, counts⟩ := h.counts
  rw [counts.waits_eq] at hcount
  split at hcount
  · obtain rfl := Option.some.inj hcount
    exact Int.natCast_nonneg _
  · cases hcount

theorem Passes.foldl_release (h : Passes g p due) : Passes g (due.foldl Placing.release p) [] := by
  induction due generalizing p with
  | nil => exact h
  | cons target rest ih => exact ih h.release

theorem Passes.run (h : Passes g p []) : Passes g (p.run g) [] := by
  fun_induction Placing.run g p with
  | case1 p _ => exact h
  | case2 p id hnext ih => exact ih (h.take hnext).foldl_release

/-! ## Agreement with the rule without counters -/

/-- The next step is the first one to which no unplaced step leads. -/
theorem Counts.next?_eq (counts : p.Counts g unplaced []) :
    p.next? = unplaced.find? fun id => !g.isAwaited unplaced id := by
  have keys_eq : p.ready.keys = unplaced.filter fun id => !g.isAwaited unplaced id := by
    refine p.ready.keys_sorted.eq_of_mem_iff (counts.sorted.filter _) fun id => ?_
    rw [counts.ready_iff, Graph.arrivals_nil_eq_zero_iff, List.mem_filter, Bool.not_eq_true']
  rw [next?, keys_eq, List.head?_filter]

theorem order_release (p : Placing) (target : String) : (p.release target).order = p.order := by
  unfold Placing.release
  split <;> rfl

theorem order_foldl_release (targets : List String) (p : Placing) :
    (targets.foldl Placing.release p).order = p.order := by
  induction targets generalizing p with
  | nil => rfl
  | cons target rest ih => rw [List.foldl_cons, ih, order_release]

theorem Counts.order_run (counts : p.Counts g unplaced []) :
    (p.run g).order = p.order ++ (g.place unplaced).1 := by
  fun_induction Placing.run g p generalizing unplaced with
  | case1 p hnext =>
      rw [counts.next?_eq] at hnext
      rw [Graph.place_of_find?_none hnext, List.append_nil]
  | case2 p id hnext ih =>
      have there := ih (counts.take hnext).foldl_release
      rw [counts.next?_eq] at hnext
      rw [there, order_foldl_release, Graph.place_of_find? hnext]
      exact List.append_assoc ..

/-- With counters and without them the steps are placed in one order. -/
theorem order_run_start (g : Graph) : ((start g).run g).order = (g.place g.ids).1 :=
  (counts_start g).order_run

end Placing

end Workflow
