import Workflow.Proofs.Run.Advance
import Workflow.Proofs.Run.Drive

/-!
# How a drive ends

A runner drives each open run to a halt, whatever the reasoner, the selector and the tools answer:
the run has ended, or it waits for a choice that nobody but the caller can make. The calls that a
drive may make do not run out, since each of them completes a step. A run that is suspended already
is handed back as it is: a drive begins with an advance, which a suspended run refuses.

Main statements: `driveWithin_halts`, from one call to all of them, and `run_halts_of_open`.
-/

namespace Workflow

variable {World : Type}

namespace Engine

/-- An engine that is restored from the record of a run is the one that recorded it. -/
theorem Reachable.restore_eq {graph : Graph} {schemas : Schemas} {e : Engine}
    (h : Reachable graph schemas e) : restore graph schemas e.run = .ok e := by
  obtain ⟨rfl, rfl, entry, _, wf, hc⟩ := h.consistent
  have found : missingStep? e.graph e.run.cursor = none := by
    unfold missingStep?
    cases hcursor : e.run.cursor with
    | enter id => simp [Cursor.step?, (hc.entering id hcursor).contains_last]
    | leave id => simp [Cursor.step?, (hc.leaving id hcursor).1.contains_last]
    | idle => rfl
  simp [restore, e.accepted, found]

end Engine

namespace Runner

open Engine

variable {entry : String} {r : Runner World} {e : Engine}

/-- A tool that is called completes its step, unless the run fails with it. -/
theorem resume_cases (wf : e.graph.WellFormed e.schemas entry)
    (hc : e.run.Consistent e.schemas e.graph entry) {invocation : Invocation}
    (h : e.run.status = .awaitingTool invocation) (outputs : Fields) :
    (∃ error, (e.resume outputs).1 = .error error ∧
        (e.resume outputs).2.run.status.isTerminal = true) ∨
      (e.resume outputs).1 = .ok () ∧ (e.resume outputs).2.run.status = .running ∧
        Follows entry e (e.resume outputs).2 ∧
        (e.resume outputs).2.run.trail = e.run.trail ++ [invocation.step] := by
  have follows := (resume_sound wf hc outputs).follows _ (List.mem_cons_self ..)
  unfold resume at follows ⊢
  rw [h] at follows ⊢
  dsimp only at follows ⊢
  split
  · next missing =>
      rw [missing] at follows
      exact .inr ⟨rfl, rfl, follows, rfl⟩
  · exact .inl ⟨_, rfl, rfl⟩

theorem failTool_isTerminal {invocation : Invocation} (h : e.run.status = .awaitingTool invocation)
    (message : String) : (e.failTool message).2.run.status.isTerminal = true := by
  simp only [failTool, h]
  rfl

/-- The run has ended, or waits for a choice that is left to the caller. -/
def Halts (r : Runner World) (run : Run) : Prop :=
  run.status.isTerminal = true ∨
    ∃ id labels, run.status = .awaitingBranch id labels ∧ r.collaborators.selector = none

/-- An advance that hands out no call is all of the drive. -/
theorem driveWithin_of_settled {world : World}
    (h : ∀ invocation, (e.advance r.collaborators world).result ≠ .ok (.awaitingTool invocation))
    (calls : Nat) : r.driveWithin calls e world =
      ((e.advance r.collaborators world).engine, (e.advance r.collaborators world).world) := by
  rw [driveWithin_eq_takeUp, takeUp]
  split
  · next invocation result => exact absurd result (h invocation)
  · rfl

/-- The advance with which a drive begins hands out the call of a tool, or is all of the drive. -/
theorem called_or_halts (wf : e.graph.WellFormed e.schemas entry)
    (hc : e.run.Consistent e.schemas e.graph entry) (hopen : e.run.IsOpen) (world : World) :
    (∃ invocation, (e.advance r.collaborators world).result = .ok (.awaitingTool invocation) ∧
        (e.advance r.collaborators world).engine.run.status = .awaitingTool invocation) ∨
      ∀ calls, r.Halts (r.driveWithin calls e world).1.run := by
  obtain ⟨settles, _, _⟩ := advance_settles r.collaborators e world wf hc hopen
  by_cases called : ∃ invocation,
      (e.advance r.collaborators world).result = .ok (.awaitingTool invocation)
  · obtain ⟨invocation, called⟩ := called
    exact .inl ⟨invocation, called, settles.status_eq _ called⟩
  · right
    intro calls
    rw [driveWithin_of_settled (not_exists.1 called)]
    rcases settles.halted with ended | ⟨invocation, waiting⟩ | undecided
    · exact .inl ended
    · cases hresult : (e.advance r.collaborators world).result with
      | ok status =>
          rw [settles.status_eq status hresult] at waiting
          rw [waiting] at hresult
          exact absurd ⟨invocation, hresult⟩ called
      | error error =>
          obtain ⟨failure, failed⟩ := settles.failed error hresult
          cases failed.symm.trans waiting
    · exact .inr undecided

/-- A drive with a call for each step that is left goes on to a halt. -/
theorem driveWithin_halts (calls : Nat) (e : Engine) (world : World)
    (wf : e.graph.WellFormed e.schemas entry) (hc : e.run.Consistent e.schemas e.graph entry)
    (hopen : e.run.IsOpen) (enough : e.graph.steps.size ≤ e.run.trail.length + calls) :
    r.Halts (r.driveWithin calls e world).1.run := by
  induction calls generalizing e world with
  | zero =>
      rcases called_or_halts (r := r) wf hc hopen world with ⟨invocation, _, waiting⟩ | halts
      · -- All steps are completed, so none is left that could wait for its tool.
        obtain ⟨_, follows, grows⟩ := advance_settles r.collaborators e world wf hc hopen
        have bound := follows.consistent.length_trail_lt wf
          (follows.consistent.awaits_tool invocation waiting).1
        have := grows.length_le
        omega
      · exact halts 0
  | succ calls ih =>
      rcases called_or_halts (r := r) wf hc hopen world with ⟨invocation, called, waiting⟩ | halts
      · obtain ⟨_, follows, grows⟩ := advance_settles r.collaborators e world wf hc hopen
        rw [driveWithin_eq_takeUp, takeUp, called]
        dsimp only
        split
        · next outputs world' _ =>
            rcases
              resume_cases (follows.wellFormed wf) follows.consistent_there waiting outputs with
              ⟨error, refused, ended⟩ | ⟨resumed, running, after, trail_eq⟩
            · split
              · next taken => rw [taken] at refused; cases refused
              · next failed => rw [failed] at ended; exact .inl ended
            · split
              · next e' taken =>
                  rw [taken] at running after trail_eq
                  have later : Follows entry e e' := follows.trans (by simp [waiting]) after
                  apply ih e' world' (later.wellFormed wf) later.consistent_there (.inr running)
                  have := grows.length_le
                  rw [later.graph_eq, trail_eq, List.length_append, List.length_singleton]
                  omega
              · next failed => rw [failed] at resumed; cases resumed
        · exact .inl (failTool_isTerminal waiting _)
      · exact halts (calls + 1)

/-- A run that is not open is handed back as it is. -/
theorem run_of_not_open (h : ¬ e.run.IsOpen) (world : World) : (r.run e world).1 = e.run := by
  rw [run, drive, driveWithin_eq_takeUp, advance_of_not_open h]
  rfl

/-- A runner drives an open run until it has ended, or waits for a choice that is left to the
caller. A run that is handed over suspended or ended it hands back as it is. This holds of restored
runs as well: restoring gives back the engine. -/
theorem run_halts_of_open {graph : Graph} {schemas : Schemas} (h : Reachable graph schemas e)
    (r : Runner World) (world : World) :
    restore graph schemas e.run = .ok e ∧ (e.run.IsOpen → r.Halts (r.run e world).1) ∧
      (¬ e.run.IsOpen → (r.run e world).1 = e.run) := by
  refine ⟨h.restore_eq, ?_, fun closed => run_of_not_open closed world⟩
  intro hopen
  obtain ⟨rfl, rfl, entry, _, wf, hc⟩ := h.consistent
  exact driveWithin_halts e.graph.steps.size e world wf hc hopen (Nat.le_add_left _ _)

/-! ## A runner that can answer everything -/

/-- It has an answer to each prompt, a temperature for each call, and chooses by conditions. -/
def herald : Runner Unit where
  collaborators :=
    { reasoner := some fun _ world => (.ok "Stay in the shade.", world)
      selector := some (selectByCondition none) }
  dispatch _ world := (.ok (Dict.empty.insert "temperature" (.int 31)), world)
  newId world := ("branch", world)
  save _ world := world

theorem forecast_halts :
    forecastBegun.run.IsOpen ∧ herald.Halts (herald.run forecastBegun ()).1 ∧
      (herald.run forecastAsked ()).1 = forecastAsked.run := by
  have closed : ¬ forecastAsked.run.IsOpen := by
    unfold Run.IsOpen
    decide +kernel
  exact ⟨.inl rfl, (run_halts_of_open forecastBegun_reachable herald ()).2.1 (.inl rfl),
    (run_halts_of_open forecastAsked_reachable herald ()).2.2 closed⟩

/-- Handed over while it waits for its tool, or for a choice, the weather service is not driven on,
although the runner could call the tool and choose. -/
theorem suspended_forecast_stays :
    Reachable forecast forecastSchemas forecastAsked ∧
      (herald.run forecastAsked ()).1.status.name = "awaiting_tool" ∧
      Reachable forecast forecastSchemas forecastAnswered ∧
      (herald.run forecastAnswered ()).1.status.name = "awaiting_branch" ∧
      herald.collaborators.selector.isSome = true := by
  refine ⟨forecastAsked_reachable, ?_, forecast_reachable, ?_, rfl⟩
  · decide +kernel
  · decide +kernel

end Runner

end Workflow
