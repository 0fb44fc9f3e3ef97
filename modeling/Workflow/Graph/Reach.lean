import Workflow.Graph.Basic

/-!
# Reachable steps

A search along the transitions of a graph. The steps found so far are kept, and those of them whose
transitions have not been followed wait in a queue. Each round takes the first step off the queue
and follows its transitions: a target that may be entered and has not been found is found, and waits
at the end of the queue. What is put there was not found before, so the search ends whatever cycles
there are.
-/

namespace Workflow

/-! ## The search -/

/-- How far a search has come. -/
structure Search where
  /-- The names found, in the order in which they were found. -/
  found : List String
  /-- The names among them that are still to be followed. -/
  queue : List String
deriving DecidableEq

namespace Search

/-- Nothing is found. -/
def empty : Search := ⟨[], []⟩

/-- Finds a name, unless it lies outside the domain or is found already. -/
def find (domain : List String) (s : Search) (id : String) : Search :=
  if id ∈ domain ∧ id ∉ s.found then ⟨s.found ++ [id], s.queue ++ [id]⟩ else s

/-- Follows the first name of the queue; there is none when the search has ended. -/
def follow? (next : String → List String) (domain : List String) (s : Search) : Option Search :=
  match s.queue with
  | [] => none
  | id :: rest => some ((next id).foldl (find domain) { s with queue := rest })

/-- The names of the domain that are not found yet. -/
def unfound (domain : List String) (s : Search) : List String := domain.filter (· ∉ s.found)

/-- How many names are still to be found or to be followed. -/
def remaining (domain : List String) (s : Search) : Nat :=
  (s.unfound domain).length + s.queue.length

theorem remaining_find_le (domain : List String) (s : Search) (id : String) :
    (s.find domain id).remaining domain ≤ s.remaining domain := by
  unfold find
  split
  · next h =>
      have others : unfound domain ⟨s.found ++ [id], s.queue ++ [id]⟩ =
          (s.unfound domain).filter (· ≠ id) := by
        simp [unfound, List.filter_filter, Bool.and_comm]
      have fewer : ((s.unfound domain).filter (· ≠ id)).length < (s.unfound domain).length :=
        List.length_filter_lt_length_iff_exists.2
          ⟨id, List.mem_filter.2 ⟨h.1, by simpa using h.2⟩, by simp⟩
      simp only [remaining, others, List.length_append, List.length_singleton]
      omega
  · exact Nat.le_refl _

theorem remaining_foldl_find_le (domain targets : List String) (s : Search) :
    (targets.foldl (find domain) s).remaining domain ≤ s.remaining domain := by
  induction targets generalizing s with
  | nil => exact Nat.le_refl _
  | cons target rest ih => exact Nat.le_trans (ih _) (s.remaining_find_le domain target)

theorem remaining_follow?_lt {next : String → List String} {domain : List String} {s s' : Search}
    (h : s.follow? next domain = some s') : s'.remaining domain < s.remaining domain := by
  unfold follow? at h
  split at h
  · cases h
  · next id rest hqueue =>
      cases h
      refine Nat.lt_of_le_of_lt (remaining_foldl_find_le domain (next id) _) ?_
      rw [remaining, remaining, hqueue]
      exact Nat.lt_succ_self _

/-- Follows names until the queue is empty. -/
def run (next : String → List String) (domain : List String) (s : Search) : Search :=
  match _h : s.follow? next domain with
  | none => s
  | some s' => s'.run next domain
termination_by s.remaining domain
decreasing_by exact remaining_follow?_lt _h

end Search

/-! ## Steps of a graph -/

namespace Graph

/-- The steps other than `blocked`, in ascending order of their ids. -/
def idsExcept (g : Graph) (blocked : Option String) : List String :=
  g.ids.filter fun id => some id ≠ blocked

/-- A search that has found where it starts, if this is a step and not `blocked`. -/
def beginSearch (g : Graph) (start : String) (blocked : Option String) : Search :=
  Search.empty.find (g.idsExcept blocked) start

/-- The steps that can be reached from `start` without passing `blocked`, in ascending order. A step
that is reached or passed exists and is not `blocked`. -/
def reachableAvoiding (g : Graph) (start : String) (blocked : Option String) : List String :=
  let search := (g.beginSearch start blocked).run g.successors (g.idsExcept blocked)
  g.ids.filter (· ∈ search.found)

/-- The steps that can be reached from `start`, itself included, in ascending order. -/
def reachable (g : Graph) (start : String) : List String := g.reachableAvoiding start none

/-- The steps that can be reached from an existing step. -/
def reachableFrom (g : Graph) (start : String) : Except GraphError (List String) :=
  if g.contains start then .ok (g.reachable start) else .error (.stepNotFound start)

end Graph

end Workflow
