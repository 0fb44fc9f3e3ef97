import Workflow.Graph.Basic

/-!
# Topological order

Steps are placed one after the other. For each step it is counted how many transitions lead to it
from steps that are not placed yet. The steps that wait for none are ready, and the one of them with
the smallest id is placed next, by which its own transitions are used up. If steps are left over
when none is ready, they contain a cycle. The report of a cycle leaves out the steps that only
follow one: they are peeled off from the end, as long as there is an unplaced step that leads to no
other.
-/

namespace Workflow

/-! ## Placing -/

/-- How far the placing of the steps of a graph has come. -/
structure Placing where
  /-- The placed steps. -/
  order : List String
  /-- For each step, how many transitions from unplaced steps it waits for. -/
  waits : Dict Int
  /-- The unplaced steps that wait for none. -/
  ready : Dict Unit
deriving DecidableEq

namespace Placing

/-- The ready step with the smallest id. -/
def next? (p : Placing) : Option String := p.ready.keys.head?

/-- Places a ready step. Its transitions are still to be used up. -/
def take (p : Placing) (id : String) : Placing :=
  { p with order := p.order ++ [id], ready := p.ready.erase id }

/-- Uses up a transition. One whose target does not exist was not counted. -/
def release (p : Placing) (target : String) : Placing :=
  match p.waits.get? target with
  | none => p
  | some count =>
      { p with
        waits := p.waits.insert target (count - 1)
        ready := if count - 1 = 0 then p.ready.insert target () else p.ready }

/-- How many steps are ready or wait. -/
def remaining (p : Placing) : Nat := p.ready.size + p.waits.entries.countP (0 < ·.2)

theorem remaining_release_le (p : Placing) (target : String) :
    (p.release target).remaining ≤ p.remaining := by
  unfold release
  split
  · exact Nat.le_refl _
  · next count h =>
      have counted := Dict.countP_insert (fun entry => 0 < entry.2) h (count - 1)
      simp only [decide_eq_true_eq] at counted
      simp only [remaining]
      split
      · have size := p.ready.size_insert_le target ()
        split at counted <;> split at counted <;> omega
      · split at counted <;> split at counted <;> omega

theorem remaining_foldl_release_le (targets : List String) (p : Placing) :
    (targets.foldl release p).remaining ≤ p.remaining := by
  induction targets generalizing p with
  | nil => exact Nat.le_refl _
  | cons target rest ih => exact Nat.le_trans (ih _) (p.remaining_release_le target)

theorem remaining_take_lt {p : Placing} {id : String} (h : p.next? = some id) :
    (p.take id).remaining < p.remaining := by
  have size := p.ready.size_erase_lt (List.mem_of_head? h)
  simp only [remaining, take]
  omega

/-- Places steps as long as one is ready. -/
def run (g : Graph) (p : Placing) : Placing :=
  match _h : p.next? with
  | none => p
  | some id => run g ((g.successors id).foldl release (p.take id))
termination_by p.remaining
decreasing_by
  exact Nat.lt_of_le_of_lt (remaining_foldl_release_le _ _) (remaining_take_lt _h)

/-- Nothing is placed, and each step waits for all transitions to it. -/
def start (g : Graph) : Placing :=
  let targets := g.stepList.flatMap Step.targets
  let waits := g.steps.map fun step => (targets.count step.id : Int)
  { order := []
    waits
    ready := (waits.filter (· = 0)).map fun _ => () }

end Placing

/-! ## The order of a graph -/

namespace Graph

/-- The steps of the list that lead to a step of the list. -/
def withoutSinks (g : Graph) (left : List String) : List String :=
  left.filter fun id => (g.successors id).any (· ∈ left)

/-- What remains of the list when the steps that lead to none of the others are taken away until
there are no such steps. -/
def peelSinks (g : Graph) (left : List String) : List String :=
  if _h : (g.withoutSinks left).length < left.length then
    g.peelSinks (g.withoutSinks left)
  else left
termination_by left.length

/-- The ids of all steps, each before the targets of its transitions and the smaller one first
where both are possible; or the steps between the cycles of the graph. -/
def topologicalIds (g : Graph) : Except GraphError (List String) :=
  let order := ((Placing.start g).run g).order
  if order.length < g.steps.size then
    .error (.cycle (g.peelSinks (g.ids.filter (· ∉ order))))
  else .ok order

/-- The steps in topological order. -/
def topologicalSteps (g : Graph) : Except GraphError (List Step) :=
  g.topologicalIds.map fun ids => ids.filterMap g.step?

end Graph

end Workflow
