import Mathlib.Data.List.Nodup
import Mathlib.Data.List.Perm.Subperm
import Mathlib.Logic.Relation
import Workflow.Graph.Basic
import Workflow.Proofs.Dict

/-!
# Walks along transitions

A walk lists the steps of a path, both ends included, and grows at its end like the trail of a run.
Reachability, dominance and the trail of a run are all said with walks, so that what a search finds
and where a run has been can be compared.

Main statement: `Walk.nodup`, no walk of an acyclic graph repeats a step.
-/

namespace Workflow.Graph

variable {g : Graph}

/-! ## Looking up steps -/

theorem mem_ids_iff (g : Graph) (id : String) : id ∈ g.ids ↔ g.contains id = true :=
  Dict.mem_keys_iff g.steps id

theorem contains_iff (g : Graph) (id : String) :
    g.contains id = true ↔ ∃ step, g.step? id = some step :=
  Option.isSome_iff_exists

theorem ids_nodup (g : Graph) : g.ids.Nodup := g.steps.keys_nodup

/-- A step of the graph is found under its id. -/
theorem mem_stepList_iff (g : Graph) (step : Step) :
    step ∈ g.stepList ↔ g.step? step.id = some step := by
  simp only [stepList, Dict.values, List.mem_map]
  constructor
  · rintro ⟨entry, hmem, rfl⟩
    have keyed := g.keyed entry hmem
    exact (Dict.get?_eq_some_iff _ _ _).2 (by rw [keyed]; exact hmem)
  · intro h
    exact ⟨_, (Dict.get?_eq_some_iff _ _ _).1 h, rfl⟩

theorem mem_stepList_of_step? {id : String} {step : Step} (h : g.step? id = some step) :
    step ∈ g.stepList := by
  rw [mem_stepList_iff, id_of_step? h]
  exact h

theorem step?_eq_some_iff (g : Graph) (id : String) (step : Step) :
    g.step? id = some step ↔ step ∈ g.stepList ∧ step.id = id := by
  constructor
  · intro h
    exact ⟨mem_stepList_of_step? h, id_of_step? h⟩
  · rintro ⟨hstep, rfl⟩
    exact (mem_stepList_iff g step).1 hstep

theorem contains_of_mem_stepList {step : Step} (h : step ∈ g.stepList) :
    g.contains step.id = true :=
  (contains_iff g _).2 ⟨step, (mem_stepList_iff g step).1 h⟩

theorem map_id_stepList (g : Graph) : g.stepList.map (·.id) = g.ids := by
  simp only [stepList, ids, Dict.values, Dict.keys, List.map_map]
  exact List.map_congr_left fun entry hmem => g.keyed entry hmem

theorem map_id_nodup (g : Graph) : (g.stepList.map (·.id)).Nodup := by
  rw [map_id_stepList]
  exact ids_nodup g

/-- The ids and the steps are listed in the same order. -/
theorem filterMap_step?_ids (g : Graph) : g.ids.filterMap g.step? = g.stepList := by
  simp only [ids, stepList, Dict.keys, Dict.values, List.filterMap_map]
  rw [← List.filterMap_eq_map]
  refine List.filterMap_congr fun entry hmem => ?_
  exact (Dict.get?_eq_some_iff _ _ _).2 hmem

theorem eq_of_step? {g' : Graph} (steps : ∀ id, g.step? id = g'.step? id)
    (entry : g.entry = g'.entry) (info : g.info = g'.info) : g = g' := by
  obtain ⟨_, _, _, _⟩ := g
  obtain ⟨_, _, _, _⟩ := g'
  obtain rfl := Dict.ext_get? steps
  cases entry
  cases info
  rfl

/-! ## Adding steps -/

theorem not_contains_of_addStep {g' : Graph} {step : Step} (h : g.addStep step = .ok g') :
    g.step? step.id = none := by
  unfold addStep at h
  split at h
  · cases h
  · next hnot => simpa [contains, Dict.contains, step?] using hnot

theorem addStep_of_fresh {step : Step} (h : g.step? step.id = none) :
    ∃ g', g.addStep step = .ok g' := by
  have fresh : ¬ g.contains step.id = true := by
    rw [contains, Dict.contains, ← step?, h]
    exact Bool.false_ne_true
  exact ⟨_, if_neg fresh⟩

theorem info_addStep {g' : Graph} {step : Step} (h : g.addStep step = .ok g') :
    g'.info = g.info := by
  unfold addStep at h
  split at h
  · cases h
  · cases h
    rfl

/-! ## Where transitions lead -/

theorem successors_of_step? {id : String} {step : Step} (h : g.step? id = some step) :
    g.successors id = step.targets := by
  simp [successors, h]

theorem mem_successors_iff (g : Graph) (id target : String) :
    target ∈ g.successors id ↔ ∃ step, g.step? id = some step ∧ target ∈ step.targets := by
  cases h : g.step? id with
  | none => simp [successors, h]
  | some step => simp [successors, h]

theorem contains_of_mem_successors {id target : String} (h : target ∈ g.successors id) :
    g.contains id = true := by
  obtain ⟨step, hstep, -⟩ := (mem_successors_iff g id target).1 h
  exact (contains_iff g id).2 ⟨step, hstep⟩

/-! ## Walks -/

/-- `walk` lists the steps of a path along transitions from `first` to `last`, both included. -/
inductive Walk (g : Graph) (first : String) : String → List String → Prop where
  | start : g.contains first = true → Walk g first first [first]
  | step {id target : String} {walk : List String} : Walk g first id walk →
      target ∈ g.successors id → g.contains target = true → Walk g first target (walk ++ [target])

/-- A path leads from `first` to `last`. Every existing step is reachable from itself. -/
def Reachable (g : Graph) (first last : String) : Prop := ∃ walk, g.Walk first last walk

/-- A transition leads from one step to the other. -/
def Leads (g : Graph) (id target : String) : Prop := target ∈ g.successors id

/-- No path along at least one transition leads back to where it starts. -/
def Acyclic (g : Graph) : Prop :=
  ∀ id, ¬ Relation.TransGen g.Leads id id

namespace Walk

variable {first last id : String} {walk : List String}

theorem ne_nil (w : g.Walk first last walk) : walk ≠ [] := by
  cases w <;> simp

theorem contains_of_mem (w : g.Walk first last walk) (h : id ∈ walk) : g.contains id = true := by
  induction w with
  | start hfirst =>
      rw [List.mem_singleton.1 h]
      exact hfirst
  | step w hnext htarget ih =>
      rcases List.mem_append.1 h with h | h
      · exact ih h
      · rw [List.mem_singleton.1 h]
        exact htarget

theorem first_mem (w : g.Walk first last walk) : first ∈ walk := by
  induction w with
  | start hfirst => exact List.mem_singleton_self _
  | step w hnext htarget ih => exact List.mem_append_left _ ih

theorem last_mem (w : g.Walk first last walk) : last ∈ walk := by
  cases w <;> simp

theorem contains_first (w : g.Walk first last walk) : g.contains first = true :=
  w.contains_of_mem w.first_mem

theorem contains_last (w : g.Walk first last walk) : g.contains last = true :=
  w.contains_of_mem w.last_mem

theorem getLast?_eq (w : g.Walk first last walk) : walk.getLast? = some last := by
  cases w <;> simp

/-- A walk ends with its last step. -/
theorem dropLast_append (w : g.Walk first last walk) : walk.dropLast ++ [last] = walk := by
  cases w <;> simp

/-- Two walks that meet make one; the step where they meet is listed once. -/
theorem append {middle : String} {rest : List String} (w : g.Walk first middle walk)
    (v : g.Walk middle last rest) : g.Walk first last (walk ++ rest.tail) := by
  induction v with
  | start _ => simpa using w
  | @step id target rest v hnext htarget ih =>
      rw [List.tail_append_of_ne_nil v.ne_nil, ← List.append_assoc]
      exact ih.step hnext htarget

/-- A walk can be cut at each of its steps. -/
theorem exists_split (w : g.Walk first last walk) (h : id ∈ walk) :
    ∃ before after, g.Walk first id before ∧ g.Walk id last after ∧
      walk = before ++ after.tail := by
  induction w with
  | start hfirst =>
      rw [List.mem_singleton.1 h]
      exact ⟨[first], [first], .start hfirst, .start hfirst, rfl⟩
  | @step mid target walk w hnext htarget ih =>
      rcases List.mem_append.1 h with h | h
      · obtain ⟨before, after, wb, wa, rfl⟩ := ih h
        refine ⟨before, after ++ [target], wb, wa.step hnext htarget, ?_⟩
        rw [List.tail_append_of_ne_nil wa.ne_nil, List.append_assoc]
      · rw [List.mem_singleton.1 h]
        exact ⟨walk ++ [target], [target], w.step hnext htarget, .start htarget, by simp⟩

theorem reflTransGen (w : g.Walk first last walk) :
    Relation.ReflTransGen g.Leads first last := by
  induction w with
  | start _ => exact .refl
  | step _ hnext _ ih => exact ih.tail hnext

theorem transGen (w : g.Walk first last walk) (h : first ≠ last) :
    Relation.TransGen g.Leads first last :=
  (Relation.reflTransGen_iff_eq_or_transGen.1 w.reflTransGen).resolve_left h.symm

/-- Seen from its start, a walk has ended or takes a transition first. -/
theorem cases_head (w : g.Walk first last walk) :
    (last = first ∧ walk = [first]) ∨
      ∃ next rest, next ∈ g.successors first ∧ g.Walk next last rest ∧ walk = first :: rest := by
  induction w with
  | start _ => exact .inl ⟨rfl, rfl⟩
  | @step id target walk w hnext htarget ih =>
      rcases ih with ⟨rfl, rfl⟩ | ⟨next, rest, hfirst, v, rfl⟩
      · exact .inr ⟨target, [target], hnext, .start htarget, rfl⟩
      · exact .inr ⟨next, rest ++ [target], hfirst, v.step hnext htarget, rfl⟩

theorem cons {next : String} {rest : List String} (hnext : next ∈ g.successors first)
    (v : g.Walk next last rest) : g.Walk first last (first :: rest) := by
  have w : g.Walk first next [first, next] :=
    (Walk.start (contains_of_mem_successors hnext)).step hnext v.contains_first
  rcases v.cases_head with ⟨rfl, rfl⟩ | ⟨_, tail, _, _, rfl⟩
  · exact w
  · exact w.append v

/-- What an acyclic graph leads to next has not been passed yet. -/
theorem not_mem_of_acyclic (acyclic : g.Acyclic) (w : g.Walk first last walk)
    (h : id ∈ g.successors last) : id ∉ walk := by
  intro hmem
  obtain ⟨_, _, _, wa, _⟩ := w.exists_split hmem
  exact acyclic id (Relation.TransGen.tail' wa.reflTransGen h)

/-- No walk of an acyclic graph repeats a step. -/
theorem nodup (acyclic : g.Acyclic) (w : g.Walk first last walk) : walk.Nodup := by
  induction w with
  | start _ => exact List.nodup_singleton _
  | step w hnext _ ih =>
      refine List.Nodup.append ih (List.nodup_singleton _) ?_
      exact List.disjoint_singleton.2 (w.not_mem_of_acyclic acyclic hnext)

/-- A walk of an acyclic graph is no longer than there are steps. -/
theorem length_le (acyclic : g.Acyclic) (w : g.Walk first last walk) :
    walk.length ≤ g.steps.size := by
  have hsub : walk ⊆ g.ids := fun id h => (mem_ids_iff g id).2 (w.contains_of_mem h)
  have := ((w.nodup acyclic).subperm hsub).length_le
  simpa [ids, Dict.keys, Dict.size] using this

end Walk

namespace Reachable

variable {first middle last : String}

theorem refl (h : g.contains first = true) : g.Reachable first first := ⟨[first], .start h⟩

theorem trans (h : g.Reachable first middle) (k : g.Reachable middle last) :
    g.Reachable first last := by
  obtain ⟨walk, w⟩ := h
  obtain ⟨rest, v⟩ := k
  exact ⟨_, w.append v⟩

theorem tail (h : g.Reachable first middle) (hnext : last ∈ g.successors middle)
    (hlast : g.contains last = true) : g.Reachable first last := by
  obtain ⟨walk, w⟩ := h
  exact ⟨_, w.step hnext hlast⟩

theorem contains_first (h : g.Reachable first last) : g.contains first = true :=
  h.choose_spec.contains_first

theorem contains_last (h : g.Reachable first last) : g.contains last = true :=
  h.choose_spec.contains_last

end Reachable

end Workflow.Graph
