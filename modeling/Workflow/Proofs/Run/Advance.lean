import Workflow.Proofs.Run.Soundness

/-!
# How an advance ends

A run enters each step of an acyclic graph at most once and leaves it at most once, so the moves
that an advance may make do not run out. It ends because the run has ended, or because it waits for
a tool or, without a selector, for the choice of a branch.

Main statement: `advance_settles`.
-/

namespace Workflow

variable {World : Type}

/-- A run that can be moved on without anything from outside. -/
def Run.IsOpen (run : Run) : Prop := run.status = .pending ∨ run.status = .running

/-! ## Moves that are left -/

/-- The number of moves that a run can still make: two for each step that it has not completed, and
one for the step that it is leaving. -/
def Graph.movesLeft (g : Graph) (run : Run) : Nat :=
  match run.cursor with
  | .enter _ => 2 * (g.steps.size - run.trail.length)
  | .leave _ => 2 * (g.steps.size - run.trail.length) + 1
  | .idle => 0

section

variable {schemas : Schemas} {g : Graph} {entry : String} {run : Run}

/-- The step that is reached next has not been counted yet. -/
theorem Run.Consistent.length_trail_lt (wf : g.WellFormed schemas entry)
    (hc : run.Consistent schemas g entry) {id : String} (h : run.cursor = .enter id) :
    run.trail.length < g.steps.size := by
  have bound := (hc.entering id h).length_le wf.acyclic
  rw [List.length_append, List.length_singleton] at bound
  exact bound

/-- A run that is running stands somewhere. -/
theorem Run.Consistent.not_idle_of_running (hc : run.Consistent schemas g entry)
    (running : run.status = .running) : run.cursor ≠ .idle := by
  rw [Ne, hc.idle_iff, running]
  decide

theorem Run.Consistent.movesLeft_pos (wf : g.WellFormed schemas entry)
    (hc : run.Consistent schemas g entry) (h : run.cursor ≠ .idle) : 0 < g.movesLeft run := by
  unfold Graph.movesLeft
  split
  · next id hcursor =>
      have := hc.length_trail_lt wf hcursor
      omega
  · exact Nat.succ_pos _
  · next hcursor => exact absurd hcursor h

theorem Engine.movesLeft_le_maxMoves (e : Engine) : e.graph.movesLeft e.run ≤ e.maxMoves := by
  unfold Graph.movesLeft Engine.maxMoves
  split <;> omega

/-- A move after which the run goes on is one of those that were left. -/
theorem Engine.Progress.movesLeft_succ (wf : g.WellFormed schemas entry)
    (hc : run.Consistent schemas g entry) {run' : Run} (p : Progress g run (.goesOn run')) :
    g.movesLeft run' + 1 = g.movesLeft run := by
  cases p with
  | answered _ h _ =>
      have := hc.length_trail_lt wf h
      simp only [Graph.movesLeft, Run.complete, h, List.length_append, List.length_singleton]
      omega
  | left _ h _ => simp only [Graph.movesLeft, Run.goTo, h]

/-- Completed steps stay completed. -/
theorem Engine.Progress.trail_prefix {m : Engine.Move} (p : Progress g run m) :
    run.trail <+: m.run.trail := by
  cases p with
  | finished _ _ _ => exact List.prefix_append _ _
  | answered _ _ _ => exact List.prefix_append _ _
  | called _ _ _ _ => exact List.prefix_refl _
  | left _ _ _ => exact List.prefix_refl _
  | undecided _ _ _ => exact List.prefix_refl _
  | failed _ _ => exact List.prefix_refl _

end

/-! ## Stops -/

namespace Engine

/-- The run stands where the next thing has to come from outside, or has ended. A branch is left to
the caller only without a selector. -/
def Halted (c : Collaborators World) (run : Run) : Prop :=
  run.status.isTerminal = true ∨ (∃ invocation, run.status = .awaitingTool invocation) ∨
    ∃ id labels, run.status = .awaitingBranch id labels ∧ c.selector = none

/-- An operation that answers with a status gives the one that the run has, and one that fails
leaves a failed run. -/
structure Outcome.Settles (c : Collaborators World) (o : Outcome World RunStatus) : Prop where
  status_eq : ∀ status, o.result = .ok status → o.engine.run.status = status
  failed : ∀ error, o.result = .error error → ∃ failure, o.engine.run.status = .failed failure
  halted : Halted c o.engine.run

/-- A step waits for a choice only if there is no selector. -/
theorem unattended_of_leave {c : Collaborators World} {run run' : Run} {step : Step}
    {world world' : World} (h : leave c run step world = (.stops run', world')) :
    c.selector = none := by
  unfold leave at h
  split at h
  · cases h
  · split at h
    · assumption
    · split at h
      · cases h
      · split at h <;> cases h

/-- A move that stops leaves a run that waits or has ended. -/
theorem halted_of_move {c : Collaborators World} {e : Engine} {run : Run} {world world' : World}
    (p : Progress e.graph e.run (.stops run)) (h : e.move c world = (.stops run, world')) :
    Halted c run := by
  cases p with
  | finished _ _ _ => exact .inl rfl
  | called _ _ _ _ => exact .inr (.inl ⟨_, rfl⟩)
  | undecided hstep hcursor _ =>
      refine .inr (.inr ⟨_, _, rfl, ?_⟩)
      simp only [move, hcursor, Engine.step, hstep] at h
      exact unattended_of_leave h

/-- With as many moves as are left, moving goes on to a stop. -/
theorem moveOn_settles {entry : String} (c : Collaborators World) (moves : Nat) (e : Engine)
    (world : World) (wf : e.graph.WellFormed e.schemas entry)
    (hc : e.run.Consistent e.schemas e.graph entry) (running : e.run.status = .running)
    (enough : e.graph.movesLeft e.run ≤ moves) :
    (moveOn c moves e world).Settles c ∧
      e.run.trail <+: (moveOn c moves e world).engine.run.trail := by
  induction moves generalizing e world with
  | zero =>
      have pos := hc.movesLeft_pos wf (hc.not_idle_of_running running)
      omega
  | succ moves ih =>
      have progress := move_progress c e world wf hc running
      have follows := progress.follows wf hc running
      have grows := progress.trail_prefix
      rw [moveOn]
      split
      · next run world' hmove =>
          rw [hmove] at progress follows grows
          have fewer := progress.movesLeft_succ wf hc
          have going := progress.running running
          obtain ⟨settles, more⟩ := ih (e.withRun run) world' wf follows.consistent going
            (by rw [graph_withRun, run_withRun]; omega)
          exact ⟨settles, grows.trans more⟩
      · next run world' hmove =>
          rw [hmove] at progress grows
          refine ⟨⟨fun status h => ?_, fun error h => ?_, halted_of_move progress hmove⟩, grows⟩
          · cases h
            rfl
          · cases h
      · next run error world' hmove =>
          rw [hmove] at progress grows
          cases progress with
          | failed _ _ =>
              refine ⟨⟨fun status h => ?_, fun _ _ => ⟨_, rfl⟩, .inl rfl⟩, grows⟩
              cases h

/-- The engine once it is running. -/
def begun (e : Engine) : Engine := e.withRun { e.run with status := .running }

theorem begun_of_running {e : Engine} (h : e.run.status = .running) : e.begun = e := by
  rw [begun, withStatus_self h]
  rfl

theorem advance_of_open {e : Engine} (h : e.run.IsOpen) (c : Collaborators World) (world : World) :
    e.advance c world = moveOn c e.maxMoves e.begun world := by
  rw [advance]
  rcases h with h | h <;> rw [h] <;> rfl

/-- Only an open run is advanced. -/
theorem advance_of_not_open {e : Engine} (h : ¬ e.run.IsOpen) (c : Collaborators World)
    (world : World) : e.advance c world = ⟨.error (e.run.refusal "advance"), e, world⟩ := by
  unfold advance
  split
  · next pending => exact absurd (.inl pending) h
  · next running => exact absurd (.inr running) h
  · rfl

/-- An advance of an open run ends with the end of the run or with a suspension. -/
theorem advance_settles {entry : String} (c : Collaborators World) (e : Engine) (world : World)
    (wf : e.graph.WellFormed e.schemas entry) (hc : e.run.Consistent e.schemas e.graph entry)
    (h : e.run.IsOpen) :
    (e.advance c world).Settles c ∧ Follows entry e (e.advance c world).engine ∧
      e.run.trail <+: (e.advance c world).engine.run.trail := by
  have first : Follows entry e e.begun := begin_follows hc h
  obtain ⟨settles, grows⟩ :=
    moveOn_settles c e.maxMoves e.begun world wf first.consistent rfl e.begun.movesLeft_le_maxMoves
  obtain ⟨rest, _⟩ := moveOn_follows c e.maxMoves e.begun world wf first.consistent rfl
  rw [advance_of_open h]
  exact ⟨settles, first.trans (by simp [begun]) rest, grows⟩

theorem forecastBegun_reachable : Reachable forecast forecastSchemas forecastBegun :=
  .start (start_of_isAccepted "run" "today" forecast_isAccepted rfl)

/-- The weather service when it waits for its tool. -/
def forecastAsked : Engine := (forecastBegun.advance unattended ()).engine

theorem forecastAsked_reachable : Reachable forecast forecastSchemas forecastAsked :=
  forecastBegun_reachable.operate (.advance unattended) () List.mem_cons_self

end Engine

end Workflow
