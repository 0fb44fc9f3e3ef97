import Workflow.Graph.Reach
import Workflow.Proofs.Graph.Walk

/-!
# What a search finds

Each step that a search finds is led to by a walk around the blocked step, because the transition by
which it is found goes on from such a walk. Conversely, a step that has been found and does not wait
in the queue has been followed, so that the steps to which it leads are found too. When the queue is
empty nothing is left to which a walk around the blocked step could go on. Each round takes a step
off the queue, and every step is put there at most once, so there are no more rounds than steps.

Main statement: `reachableAvoiding_finds`.
-/

namespace Workflow

namespace Graph

variable {g : Graph} {blocked : Option String} {start id target : String}

/-- A walk leads from `first` to `last` that does not pass the blocked step. -/
def ReachableAround (g : Graph) (blocked : Option String) (first last : String) : Prop :=
  ∃ walk, g.Walk first last walk ∧ ∀ passed ∈ walk, blocked ≠ some passed

theorem mem_idsExcept_iff (g : Graph) (blocked : Option String) (id : String) :
    id ∈ g.idsExcept blocked ↔ g.contains id = true ∧ blocked ≠ some id := by
  rw [idsExcept, List.mem_filter, mem_ids_iff, decide_eq_true_eq, ne_comm]

namespace ReachableAround

theorem refl (h : start ∈ g.idsExcept blocked) : g.ReachableAround blocked start start := by
  obtain ⟨hin, hfree⟩ := (mem_idsExcept_iff g blocked start).1 h
  exact ⟨[start], .start hin, by simpa using hfree⟩

theorem step (h : g.ReachableAround blocked start id) (hnext : target ∈ g.successors id)
    (htarget : target ∈ g.idsExcept blocked) : g.ReachableAround blocked start target := by
  obtain ⟨walk, w, free⟩ := h
  obtain ⟨hin, hfree⟩ := (mem_idsExcept_iff g blocked target).1 htarget
  refine ⟨walk ++ [target], w.step hnext hin, fun passed hp => ?_⟩
  rcases List.mem_append.1 hp with hp | hp
  · exact free passed hp
  · rw [List.mem_singleton.1 hp]
    exact hfree

/-- What holds of the start, and goes on along transitions around the blocked step, holds of all
that is reached. -/
theorem closed {found : String → Prop} (h : g.ReachableAround blocked start id)
    (begun : start ∈ g.idsExcept blocked → found start)
    (closed : ∀ id target, found id → target ∈ g.successors id → target ∈ g.idsExcept blocked →
      found target) : found id := by
  obtain ⟨walk, w, free⟩ := h
  induction w with
  | start hin =>
      have unblocked := free start (List.mem_singleton_self _)
      exact begun ((mem_idsExcept_iff g blocked start).2 ⟨hin, unblocked⟩)
  | @step id target walk w hnext hin ih =>
      have passed := ih fun passed hp => free passed (List.mem_append_left _ hp)
      have hfree := free target (List.mem_append_right _ (List.mem_singleton_self _))
      exact closed id target passed hnext ((mem_idsExcept_iff g blocked target).2 ⟨hin, hfree⟩)

end ReachableAround

end Graph

/-! ## Rounds -/

namespace Search

variable {g : Graph} {blocked : Option String} {start id target : String} {due : List String}
  {s s' : Search}

/-- The search goes from one state to the other in this number of rounds. -/
inductive Rounds (next : String → List String) (domain : List String) :
    Nat → Search → Search → Prop where
  | none (s : Search) : Rounds next domain 0 s s
  | more {n : Nat} {s s' last : Search} : s.follow? next domain = some s' →
      Rounds next domain n s' last → Rounds next domain (n + 1) s last

theorem rounds_run (next : String → List String) (domain : List String) (s : Search) :
    ∃ n, Rounds next domain n s (s.run next domain) := by
  fun_induction run next domain s with
  | case1 s _ => exact ⟨0, .none s⟩
  | case2 s s' h ih =>
      obtain ⟨n, rounds⟩ := ih
      exact ⟨n + 1, .more h rounds⟩

theorem queue_run (next : String → List String) (domain : List String) (s : Search) :
    (s.run next domain).queue = [] := by
  fun_induction run next domain s with
  | case1 s h =>
      unfold follow? at h
      split at h
      · next hqueue => exact hqueue
      · cases h
  | case2 s s' _ ih => exact ih

/-- Each round uses up a name that was to be found or to be followed. -/
theorem Rounds.le_remaining {next : String → List String} {domain : List String} {n : Nat}
    {last : Search} (rounds : Rounds next domain n s last) : n ≤ s.remaining domain := by
  induction rounds with
  | none s => exact Nat.zero_le _
  | more h _ ih =>
      have less := remaining_follow?_lt h
      omega

/-! ## What has been found -/

/-- A search from `start` around the blocked step has come so far. Of the step that is being
followed the targets in `due` are still to be looked at. -/
structure Explores (g : Graph) (blocked : Option String) (start : String) (due : List String)
    (s : Search) : Prop where
  begun : start ∈ g.idsExcept blocked → start ∈ s.found
  reached : ∀ id ∈ s.found, g.ReachableAround blocked start id
  due_reached : ∀ id ∈ due, id ∈ g.idsExcept blocked → g.ReachableAround blocked start id
  queued : ∀ id ∈ s.queue, id ∈ s.found
  /-- The transitions of a step that does not wait have been looked at, or are so now. -/
  followed : ∀ id ∈ s.found, id ∉ s.queue → ∀ target ∈ g.successors id,
    target ∈ g.idsExcept blocked → target ∈ s.found ∨ target ∈ due

theorem explores_begin (g : Graph) (blocked : Option String) (start : String) :
    (g.beginSearch start blocked).Explores g blocked start [] := by
  rw [Graph.beginSearch, find]
  by_cases hstart : start ∈ g.idsExcept blocked
  · rw [if_pos ⟨hstart, List.not_mem_nil⟩]
    exact
      { begun := fun _ => List.mem_singleton_self _
        reached := by
          intro id hid
          obtain rfl := List.mem_singleton.1 hid
          exact .refl hstart
        due_reached := fun _ hid => nomatch hid
        queued := fun _ hid => hid
        followed := fun _ hid hnot => absurd hid hnot }
  · rw [if_neg fun h => hstart h.1]
    exact
      { begun := fun h => absurd h hstart
        reached := fun _ hid => nomatch hid
        due_reached := fun _ hid => nomatch hid
        queued := fun _ hid => hid
        followed := fun _ hid => nomatch hid }

/-- Taking a step off the queue makes its targets due. -/
theorem Explores.take {rest : List String} (explores : s.Explores g blocked start [])
    (h : s.queue = id :: rest) :
    Explores g blocked start (g.successors id) { s with queue := rest } := by
  have hid : id ∈ s.found := explores.queued id (by simp [h])
  refine
    { begun := explores.begun
      reached := explores.reached
      due_reached := fun _ hnext hin => (explores.reached id hid).step hnext hin
      queued := fun other hother => explores.queued other (by simp [h, hother])
      followed := ?_ }
  intro other hother waits target hnext hin
  by_cases same : other = id
  · exact .inr (same ▸ hnext)
  · have hnot : other ∉ s.queue := by simpa [h, same] using waits
    exact .inl ((explores.followed other hother hnot target hnext hin).resolve_right
      List.not_mem_nil)

/-- A target that is looked at is found, unless it cannot be entered. -/
theorem Explores.find (explores : s.Explores g blocked start (target :: due)) :
    (s.find (g.idsExcept blocked) target).Explores g blocked start due := by
  have rest_reached : ∀ id ∈ due, id ∈ g.idsExcept blocked → g.ReachableAround blocked start id :=
    fun id hid => explores.due_reached id (List.mem_cons_of_mem _ hid)
  unfold Search.find
  split
  · next h =>
      refine
        { begun := fun hin => List.mem_append_left _ (explores.begun hin)
          reached := ?_
          due_reached := rest_reached
          queued := ?_
          followed := ?_ }
      · intro id hid
        rcases List.mem_append.1 hid with hid | hid
        · exact explores.reached id hid
        · rw [List.mem_singleton.1 hid]
          exact explores.due_reached target (List.mem_cons_self ..) h.1
      · intro id hid
        rcases List.mem_append.1 hid with hid | hid
        · exact List.mem_append_left _ (explores.queued id hid)
        · exact List.mem_append_right _ hid
      · intro id hid waits other hnext hin
        have hnot : id ∉ s.queue := fun hq => waits (List.mem_append_left _ hq)
        have found : id ∈ s.found := (List.mem_append.1 hid).resolve_right fun hid =>
          waits (List.mem_append_right _ hid)
        rcases explores.followed id found hnot other hnext hin with hother | hother
        · exact .inl (List.mem_append_left _ hother)
        · rcases List.mem_cons.1 hother with rfl | hother
          · exact .inl (List.mem_append_right _ (List.mem_singleton_self _))
          · exact .inr hother
  · next h =>
      refine
        { begun := explores.begun
          reached := explores.reached
          due_reached := rest_reached
          queued := explores.queued
          followed := ?_ }
      intro id hid waits other hnext hin
      rcases explores.followed id hid waits other hnext hin with hother | hother
      · exact .inl hother
      · rcases List.mem_cons.1 hother with rfl | hother
        · exact .inl (by_contra fun fresh => h ⟨hin, fresh⟩)
        · exact .inr hother

theorem Explores.foldl_find (explores : s.Explores g blocked start due) :
    (due.foldl (Search.find (g.idsExcept blocked)) s).Explores g blocked start [] := by
  induction due generalizing s with
  | nil => exact explores
  | cons target rest ih => exact ih explores.find

theorem Explores.follow (explores : s.Explores g blocked start [])
    (h : s.follow? g.successors (g.idsExcept blocked) = some s') :
    s'.Explores g blocked start [] := by
  unfold follow? at h
  split at h
  · cases h
  · next id rest hqueue =>
      cases h
      exact (explores.take hqueue).foldl_find

theorem Explores.rounds {n : Nat} {last : Search} (explores : s.Explores g blocked start [])
    (rounds : Rounds g.successors (g.idsExcept blocked) n s last) :
    last.Explores g blocked start [] := by
  induction rounds with
  | none s => exact explores
  | more h _ ih => exact ih (explores.follow h)

/-- When nothing waits any more, everything is found to which a walk around the blocked
step leads. -/
theorem Explores.mem_found_iff (explores : s.Explores g blocked start []) (ended : s.queue = []) :
    id ∈ s.found ↔ g.ReachableAround blocked start id := by
  refine ⟨explores.reached id, fun h => h.closed explores.begun fun id target hid hnext hin => ?_⟩
  have followed : id ∉ s.queue := ended ▸ List.not_mem_nil
  exact (explores.followed id hid followed target hnext hin).resolve_right List.not_mem_nil

end Search

/-! ## Searching a graph -/

namespace Graph

theorem remaining_beginSearch_le (g : Graph) (start : String) (blocked : Option String) :
    (g.beginSearch start blocked).remaining (g.idsExcept blocked) ≤ g.steps.size := by
  have first := Search.empty.remaining_find_le (g.idsExcept blocked) start
  have all : Search.empty.remaining (g.idsExcept blocked) ≤ (g.idsExcept blocked).length :=
    List.length_filter_le ..
  have within : (g.idsExcept blocked).length ≤ g.ids.length := List.length_filter_le ..
  have size : g.ids.length = g.steps.size := List.length_map ..
  rw [beginSearch]
  omega

/-- The search with a blocked step finds exactly the steps to which a walk leads that does not pass
the blocked one. -/
theorem mem_reachableAvoiding_iff_walk (g : Graph) (start id : String) (blocked : Option String) :
    id ∈ g.reachableAvoiding start blocked ↔
      ∃ walk, g.Walk start id walk ∧ ∀ passed ∈ walk, blocked ≠ some passed := by
  obtain ⟨_, rounds⟩ := Search.rounds_run g.successors (g.idsExcept blocked)
    (g.beginSearch start blocked)
  have explores := (Search.explores_begin g blocked start).rounds rounds
  rw [reachableAvoiding, List.mem_filter, decide_eq_true_eq,
    explores.mem_found_iff (Search.queue_run ..), mem_ids_iff]
  exact and_iff_right_of_imp fun ⟨_, w, _⟩ => w.contains_last

theorem mem_reachable_iff (g : Graph) (start id : String) :
    id ∈ g.reachable start ↔ g.Reachable start id := by
  rw [reachable, mem_reachableAvoiding_iff_walk]
  simp [Reachable]

/-- A search around a blocked step ends after no more rounds than there are steps. What it has found
then, in whatever way the transitions lead in circles or to steps that do not exist, is everything
to which a walk leads all of whose steps exist and are not the blocked one. -/
theorem reachableAvoiding_finds (g : Graph) (start : String) (blocked : Option String) :
    (∃ rounds last, rounds ≤ g.steps.size ∧
      Search.Rounds g.successors (g.idsExcept blocked) rounds (g.beginSearch start blocked) last ∧
      last.queue = [] ∧
      ∀ id, id ∈ g.reachableAvoiding start blocked ↔ id ∈ last.found) ∧
    ∀ id, id ∈ g.reachableAvoiding start blocked ↔
      ∃ walk, g.Walk start id walk ∧ ∀ passed ∈ walk, blocked ≠ some passed := by
  obtain ⟨n, rounds⟩ := Search.rounds_run g.successors (g.idsExcept blocked)
    (g.beginSearch start blocked)
  have explores := (Search.explores_begin g blocked start).rounds rounds
  have few := Nat.le_trans rounds.le_remaining (remaining_beginSearch_le g start blocked)
  refine ⟨⟨n, _, few, rounds, Search.queue_run .., fun id => ?_⟩, fun id =>
    mem_reachableAvoiding_iff_walk g start id blocked⟩
  rw [mem_reachableAvoiding_iff_walk, explores.mem_found_iff (Search.queue_run ..)]
  rfl

end Graph

end Workflow
