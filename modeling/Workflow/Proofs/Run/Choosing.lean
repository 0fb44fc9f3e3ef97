import Workflow.Proofs.Run.Advance

/-!
# Choosing inside and outside an advance

A run can be led past its branch points in two ways. A selector answers while the run advances; or
the run advances without a selector, is suspended at each branch point, and goes on when the caller
has chosen. `Chooses` describes the second way by what happens from one suspension to the next.

Main statement: `advance_eq_iff_chooses`, if both choose by the same function, both ways end with
the same answer and the same record, whatever the reasoner does.
-/

namespace Workflow

variable {World : Type}

/-- The selector that chooses by a function of the step and the state, and asks nobody. -/
def Selector.ofFunction (pick : String → State → String) : Selector World :=
  fun step state world => (.ok (pick step.id state), world)

namespace Engine

/-- The caller takes up the outcome of an advance without selector: each time a branch has to be
chosen, the caller chooses by `pick` and advances the run again, until the run waits for no choice
or an operation fails. -/
inductive Chooses (reasoner : Option (Reasoner World)) (pick : String → State → String) :
    Outcome World RunStatus → Outcome World RunStatus → Prop where
  | settled {o : Outcome World RunStatus} :
      (∀ id labels, o.result ≠ .ok (.awaitingBranch id labels)) → Chooses reasoner pick o o
  | refused {o : Outcome World RunStatus} {id : String} {labels : List String} {error : RunError}
      {e : Engine} : o.result = .ok (.awaitingBranch id labels) →
      o.engine.chooseBranch (pick id o.engine.run.state) = (.error error, e) →
      Chooses reasoner pick o ⟨.error error, e, o.world⟩
  | chosen {o last : Outcome World RunStatus} {id : String} {labels : List String} {e : Engine} :
      o.result = .ok (.awaitingBranch id labels) →
      o.engine.chooseBranch (pick id o.engine.run.state) = (.ok (), e) →
      Chooses reasoner pick (e.advance ⟨reasoner, none⟩ o.world) last → Chooses reasoner pick o last

variable {reasoner : Option (Reasoner World)} {pick : String → State → String}

/-- The caller comes to one end only. -/
theorem Chooses.unique {o first second : Outcome World RunStatus}
    (h : Chooses reasoner pick o first) (k : Chooses reasoner pick o second) : first = second := by
  induction h with
  | settled settled =>
      cases k with
      | settled _ => rfl
      | refused waiting _ => exact absurd waiting (settled _ _)
      | chosen waiting _ _ => exact absurd waiting (settled _ _)
  | refused waiting refused =>
      cases k with
      | settled settled => exact absurd waiting (settled _ _)
      | refused waiting' refused' =>
          cases waiting.symm.trans waiting'
          cases refused.symm.trans refused'
          rfl
      | chosen waiting' chosen _ =>
          cases waiting.symm.trans waiting'
          cases refused.symm.trans chosen
  | chosen waiting chosen _ ih =>
      cases k with
      | settled settled => exact absurd waiting (settled _ _)
      | refused waiting' refused =>
          cases waiting.symm.trans waiting'
          cases refused.symm.trans chosen
      | chosen waiting' chosen' later =>
          cases waiting.symm.trans waiting'
          cases chosen.symm.trans chosen'
          exact ih later

/-! ## One move -/

/-- What taking the transition with a label makes of a run. -/
def Move.along (run : Run) (step : Step) (label : String) : Move :=
  match follow run step label with
  | .ok run => .goesOn run
  | .error error => .failed run error

/-- A selector makes a difference only at a step that has not just one transition. There leaving
follows the label that is picked with the selector, and waits for it without. -/
theorem leave_ofFunction (run : Run) (step : Step) (world : World) :
    leave ⟨reasoner, some (.ofFunction pick)⟩ run step world =
      leave ⟨reasoner, none⟩ run step world ∨
      leave ⟨reasoner, none⟩ run step world =
          (.stops { run with status := .awaitingBranch step.id step.labels }, world) ∧
        leave ⟨reasoner, some (.ofFunction pick)⟩ run step world =
          (.along run step (pick step.id run.state), world) := by
  by_cases single : ∃ only, step.transitions = [only]
  · obtain ⟨only, honly⟩ := single
    left
    simp only [leave, honly]
  · right
    constructor
    · unfold leave
      split
      · next only honly => exact absurd ⟨only, honly⟩ single
      · rfl
    · unfold leave
      split
      · next only honly => exact absurd ⟨only, honly⟩ single
      · simp only [Selector.ofFunction, Move.along]
        cases follow run step (pick step.id run.state) <;> rfl

theorem id_of_step_eq_ok {e : Engine} {id : String} {step : Step} (h : e.step id = .ok step) :
    step.id = id := by
  unfold Engine.step at h
  split at h
  · next found =>
      cases h
      exact Graph.id_of_step? found
  · cases h

/-- So the moves are the same with and without selector, except where a branch has to be chosen. -/
theorem move_ofFunction (reasoner : Option (Reasoner World)) (pick : String → State → String)
    (e : Engine) (world : World) :
    e.move ⟨reasoner, some (.ofFunction pick)⟩ world = e.move ⟨reasoner, none⟩ world ∨
      ∃ step, e.step step.id = .ok step ∧
        e.move ⟨reasoner, none⟩ world =
          (.stops { e.run with status := .awaitingBranch step.id step.labels }, world) ∧
        e.move ⟨reasoner, some (.ofFunction pick)⟩ world =
          (.along e.run step (pick step.id e.run.state), world) := by
  cases hcursor : e.run.cursor with
  | idle => exact .inl (by simp only [move, hcursor])
  | enter id => exact .inl (by simp only [move, hcursor]; rfl)
  | leave id =>
      cases hstep : e.step id with
      | error error => exact .inl (by simp only [move, hcursor, hstep])
      | ok step =>
          have at_step (c : Collaborators World) : e.move c world = leave c e.run step world := by
            simp only [move, hcursor, hstep]
          rw [at_step, at_step]
          obtain rfl := id_of_step_eq_ok hstep
          exact (leave_ofFunction e.run step world).imp_right fun apart => ⟨step, hstep, apart⟩

/-- Choosing for a suspended run takes the same transition as choosing on the way. -/
theorem chooseBranch_eq {e : Engine} {step : Step} (hstep : e.step step.id = .ok step)
    (label : String) :
    (e.withRun { e.run with status := .awaitingBranch step.id step.labels }).chooseBranch label =
      match follow e.run step label with
      | .ok run => (.ok (), e.withRun run)
      | .error error => e.failWith error := by
  have found :
      (e.withRun { e.run with status := .awaitingBranch step.id step.labels }).step step.id =
        .ok step := hstep
  simp only [chooseBranch, run_withRun, found]
  unfold follow
  cases step.transitionFor? label <;> rfl

/-! ## All moves -/

/-- With enough moves for both, what a selector does on the way is what the caller
does afterwards. -/
theorem moveOn_chooses {entry : String} (moves inner : Nat) (e : Engine) (world : World)
    (wf : e.graph.WellFormed e.schemas entry) (hc : e.run.Consistent e.schemas e.graph entry)
    (running : e.run.status = .running) (enough : e.graph.movesLeft e.run ≤ moves)
    (enough_inner : e.graph.movesLeft e.run ≤ inner) :
    Chooses reasoner pick (moveOn ⟨reasoner, none⟩ inner e world)
      (moveOn ⟨reasoner, some (.ofFunction pick)⟩ moves e world) := by
  have pos := hc.movesLeft_pos wf (hc.not_idle_of_running running)
  induction moves generalizing e world inner with
  | zero => omega
  | succ moves ih =>
      obtain ⟨inner, rfl⟩ : ∃ n, inner = n + 1 := ⟨inner - 1, by omega⟩
      have progress := move_progress ⟨reasoner, some (.ofFunction pick)⟩ e world wf hc running
      have follows := progress.follows wf hc running
      have goes_on (run : Run) (world' : World) (left : Nat)
          (hmove : e.move ⟨reasoner, some (.ofFunction pick)⟩ world = (.goesOn run, world'))
          (enough_left : e.graph.movesLeft run ≤ left) :
          Chooses reasoner pick (moveOn ⟨reasoner, none⟩ left (e.withRun run) world')
            (moveOn ⟨reasoner, some (.ofFunction pick)⟩ moves (e.withRun run) world') := by
        rw [hmove] at progress follows
        have fewer := progress.movesLeft_succ wf hc
        have going := progress.running running
        exact ih left (e.withRun run) world' wf follows.consistent going
          (by rw [graph_withRun, run_withRun]; omega) enough_left
          (follows.consistent.movesLeft_pos wf (follows.consistent.not_idle_of_running going))
      rcases move_ofFunction reasoner pick e world with same | ⟨step, hstep, waits, takes⟩
      · -- Both make the same move. If it stops, it does not stop for a choice.
        rw [moveOn, moveOn, ← same]
        cases hmove : e.move ⟨reasoner, some (.ofFunction pick)⟩ world with
        | mk m world' =>
            cases m with
            | goesOn run =>
                rw [hmove] at progress
                have fewer := progress.movesLeft_succ wf hc
                exact goes_on run world' inner hmove (by omega)
            | stops run =>
                rw [hmove] at progress
                refine .settled fun id labels waiting => ?_
                rcases halted_of_move progress hmove with
                  ended | ⟨invocation, called⟩ | ⟨_, _, _, none⟩
                · rw [Except.ok.inj waiting] at ended
                  cases ended
                · cases called.symm.trans (Except.ok.inj waiting)
                · cases none
            | fails run error => exact .settled fun id labels waiting => by cases waiting
      · have chosen := chooseBranch_eq hstep (pick step.id e.run.state)
        rw [moveOn, moveOn, waits, takes]
        unfold Move.along at takes ⊢
        cases hfollow : follow e.run step (pick step.id e.run.state) with
        | error error =>
            rw [hfollow] at chosen
            exact .refused rfl chosen
        | ok run =>
            rw [hfollow] at chosen takes
            rw [takes] at progress
            have going := progress.running running
            refine .chosen rfl chosen ?_
            rw [advance_of_open (.inr going), begun_of_running going]
            exact goes_on run world _ takes (e.withRun run).movesLeft_le_maxMoves

/-- Advancing with a selector that chooses by a function ends just as advancing without selector
does if the caller chooses by that function at every suspension. -/
theorem advance_eq_iff_chooses {graph : Graph} {schemas : Schemas} {e : Engine}
    (h : Reachable graph schemas e) (hopen : e.run.IsOpen)
    (reasoner : Option (Reasoner World)) (pick : String → State → String) (world : World)
    (last : Outcome World RunStatus) :
    Chooses reasoner pick (e.advance ⟨reasoner, none⟩ world) last ↔
      last = e.advance ⟨reasoner, some (.ofFunction pick)⟩ world := by
  obtain ⟨rfl, rfl, entry, _, wf, hc⟩ := h.consistent
  have first : Follows entry e e.begun := begin_follows hc hopen
  have enough := e.begun.movesLeft_le_maxMoves
  have chooses : Chooses reasoner pick (e.advance ⟨reasoner, none⟩ world)
      (e.advance ⟨reasoner, some (.ofFunction pick)⟩ world) := by
    rw [advance_of_open hopen, advance_of_open hopen]
    exact moveOn_chooses e.maxMoves e.maxMoves e.begun world wf first.consistent rfl enough enough
  constructor
  · intro other
    exact other.unique chooses
  · rintro rfl
    exact chooses

/-- The weather service when the tool has given a temperature, before it goes on. -/
def forecastTold : Engine := (forecastAsked.resume (Dict.empty.insert "temperature" (.int 31))).2

theorem forecastTold_reachable : Reachable forecast forecastSchemas forecastTold :=
  forecastAsked_reachable.operate (.resume (Dict.empty.insert "temperature" (.int 31))) ()
    List.mem_cons_self

/-- Whoever chooses for the weather service, it goes the quiet way. -/
theorem forecastTold_goes_quietly :
    ∃ last, Chooses none (fun _ _ => "otherwise") (forecastTold.advance unattended ()) last ∧
      last.engine.run.trail = ["ask", "quiet"] ∧
      last = forecastTold.advance ⟨none, some (.ofFunction fun _ _ => "otherwise")⟩ () := by
  have running : forecastTold.run.status = .running := by decide +kernel
  have same := advance_eq_iff_chooses forecastTold_reachable (.inr running) none
    (fun _ _ => "otherwise") ()
  refine ⟨_, (same _).2 rfl, ?_, rfl⟩
  decide +kernel

end Engine

end Workflow
