import Workflow.Proofs.Run.Choosing
import Workflow.Proofs.Run.Move

/-!
# Operations that fail

An operation that fails leaves nothing half done. A refused one changes nothing; a tool, a choice or
a result that fails ends the run and leaves all that was recorded as it is; and an advance that
fails after some steps has recorded just these, each with its whole output.

Main statement: `Reachable.fails_atomically`, from `moveStages_gains`, what the moves of an advance
add to the record.
-/

namespace Workflow

variable {World : Type}

/-- The run, which stood at the step, has failed there. Nothing but its status and its cursor has
changed. -/
structure Run.FailedAt (step : String) (run run' : Run) : Prop where
  stood : run.cursor.step? = some step
  failed : ∃ kind message, run'.status = .failed ⟨some step, kind, message⟩
  idle : run'.cursor = .idle
  rest : run' = { run with status := run'.status, cursor := run'.cursor }

/-- What has been added to the record of a run when the steps in `completed` were executed: none of
them had an entry, and each has now the whole answer that it was given. The other entries are as
they were. -/
structure Run.Gains (reasoner : Option (Reasoner World)) (g : Graph) (completed : List String)
    (run run' : Run) : Prop where
  trail_eq : run'.trail = run.trail ++ completed
  finished_eq : run'.finished = run.finished
  fresh : ∀ id ∈ completed, run.state.get? id = none
  entries : ∀ id ∈ completed, ∃ step state outputs, g.step? id = some step ∧
    run.state.Within state ∧ state.Within run'.state ∧ step.AnsweredBy reasoner state outputs ∧
    run'.state.get? id = some outputs
  others : ∀ id, id ∉ completed → run'.state.get? id = run.state.get? id

/-- The step that was being executed when a value or an answer for it was missing. -/
def RunError.interrupted? : RunError → Option String
  | .invalidReference step .. | .reasonerFailed step _ => some step
  | _ => none

theorem Run.failedAt_fail {run : Run} {step : String} {error : RunError}
    (stood : run.cursor.step? = some step) (h : error.step? = some step) :
    run.FailedAt step (run.fail error) where
  stood := stood
  failed := ⟨error.kind, error.message, by rw [Run.fail, Failure.ofError, h]⟩
  idle := rfl
  rest := rfl

namespace Run.Gains

variable {reasoner : Option (Reasoner World)} {g : Graph} {run run' run'' : Run}
  {completed more : List String}

/-- A run in which no step was executed. -/
theorem of_state_eq (trail_eq : run'.trail = run.trail) (finished_eq : run'.finished = run.finished)
    (state_eq : run'.state = run.state) : Gains reasoner g [] run run' where
  trail_eq := by rw [trail_eq, List.append_nil]
  finished_eq := finished_eq
  fresh := by simp
  entries := by simp
  others _ _ := by rw [state_eq]

/-- A step that has no entry gets one. -/
theorem complete {step : Step} {outputs : Fields} (hstep : g.step? step.id = some step)
    (fresh : run.state.get? step.id = none)
    (answered : step.AnsweredBy reasoner run.state outputs) :
    Gains reasoner g [step.id] run (run.complete step.id outputs) where
  trail_eq := rfl
  finished_eq := rfl
  fresh := by simpa using fresh
  entries id hid := by
    obtain rfl := List.mem_singleton.1 hid
    refine ⟨step, run.state, outputs, hstep, fun _ _ h => h, fun id recorded h => ?_, answered, ?_⟩
    · have foreign : id ≠ step.id := by
        rintro rfl
        cases fresh.symm.trans h
      rw [Run.complete, State.get?_commit, if_neg foreign]
      exact h
    · rw [Run.complete, State.get?_commit, if_pos rfl]
  others id hid := by
    rw [Run.complete, State.get?_commit, if_neg (List.mem_singleton.not.1 hid)]

/-- What was recorded is recorded unchanged. -/
theorem within (h : Gains reasoner g completed run run') : run.state.Within run'.state := by
  intro id outputs recorded
  have old : id ∉ completed := fun new => by cases (h.fresh id new).symm.trans recorded
  rw [h.others id old]
  exact recorded

theorem trans (h : Gains reasoner g completed run run') (k : Gains reasoner g more run' run'') :
    Gains reasoner g (completed ++ more) run run'' where
  trail_eq := by rw [k.trail_eq, h.trail_eq, List.append_assoc]
  finished_eq := k.finished_eq.trans h.finished_eq
  fresh id hid := by
    rcases List.mem_append.1 hid with hid | hid
    · exact h.fresh id hid
    · by_contra recorded
      obtain ⟨outputs, recorded⟩ := Option.ne_none_iff_exists'.1 recorded
      cases (k.fresh id hid).symm.trans (h.within id outputs recorded)
  entries id hid := by
    rcases List.mem_append.1 hid with hid | hid
    · obtain ⟨step, state, outputs, hstep, before, after, answered, recorded⟩ := h.entries id hid
      exact ⟨step, state, outputs, hstep, before,
        fun id outputs h => k.within id outputs (after id outputs h), answered,
        k.within id outputs recorded⟩
    · obtain ⟨step, state, outputs, hstep, before, after, answered, recorded⟩ := k.entries id hid
      exact ⟨step, state, outputs, hstep,
        fun id outputs r => before id outputs (h.within id outputs r), after, answered, recorded⟩
  others id hid := by
    have old := mt (List.mem_append.2) hid
    rw [k.others id fun new => old (.inr new), h.others id fun new => old (.inl new)]

end Run.Gains

namespace Engine

variable {entry : String} {e : Engine} {c : Collaborators World}

/-! ## What moves add to the record -/

theorem Moved.gains {run' : Run} (wf : e.graph.WellFormed e.schemas entry)
    (hc : e.run.Consistent e.schemas e.graph entry) (m : Moved c e.graph e.run (.goesOn run')) :
    ∃ completed, e.run.Gains c.reasoner e.graph completed run' := by
  cases m with
  | answered hstep h answered =>
      exact ⟨_, .complete hstep (hc.get?_eq_none wf h) answered⟩
  | passed _ _ _ => exact ⟨[], .of_state_eq rfl rfl rfl⟩
  | chosen _ _ _ => exact ⟨[], .of_state_eq rfl rfl rfl⟩

theorem Moved.running {g : Graph} {run run' : Run} (m : Moved c g run (.goesOn run'))
    (running : run.status = .running) : run'.status = .running := by
  cases m with
  | answered _ _ _ => exact running
  | passed _ _ _ => exact running
  | chosen _ _ _ => rfl

/-- Only an abort aborts. -/
theorem Moved.not_aborted {g : Graph} {run : Run} {m : Move} (h : Moved c g run m)
    (running : run.status = .running) : m.run.status ≠ .aborted := by
  cases h with
  | answered _ _ _ | passed _ _ _ | lost _ _ | refused _ =>
      simp [Move.run, Run.complete, running]
  | _ => simp [Move.run, Move.failed, Run.fail, Run.finish, Run.goTo]

theorem moveOn_not_aborted (c : Collaborators World) (moves : Nat) (e : Engine) (world : World)
    (running : e.run.status = .running) :
    (moveOn c moves e world).engine.run.status ≠ .aborted := by
  induction moves generalizing e world with
  | zero => simp [moveOn, running]
  | succ moves ih =>
      have made := moved c e world
      have going := made.not_aborted running
      rw [moveOn]
      split
      · next run world' hmove =>
          rw [hmove] at made
          exact ih (e.withRun run) world' (made.running running)
      · next hmove =>
          rw [hmove] at going
          exact going
      · next hmove =>
          rw [hmove] at going
          exact going

/-- Up to each of its moves, an advance has added the steps that it has executed. -/
theorem moveStages_gains (c : Collaborators World) (moves : Nat) (e : Engine) (world : World)
    (wf : e.graph.WellFormed e.schemas entry) (hc : e.run.Consistent e.schemas e.graph entry)
    (running : e.run.status = .running) :
    ∀ stage ∈ moveStages c moves e world,
      ∃ completed, e.run.Gains c.reasoner e.graph completed stage.run := by
  induction moves generalizing e world with
  | zero =>
      intro stage hstage
      cases hstage
  | succ moves ih =>
      have progress := move_progress c e world wf hc running
      have follows := progress.follows wf hc running
      have made := moved c e world
      intro stage hstage
      rcases List.mem_cons.1 hstage with rfl | hstage
      · exact ⟨[], .of_state_eq rfl rfl rfl⟩
      · split at hstage
        · next run world' hmove =>
            rw [hmove] at progress follows made
            obtain ⟨completed, gains⟩ := made.gains wf hc
            obtain ⟨more, later⟩ := ih (e.withRun run) world' wf follows.consistent
              (progress.running running) stage hstage
            exact ⟨completed ++ more, gains.trans later⟩
        · cases hstage

/-! ## How operations fail -/

/-- A move that fails ends the run. What was being executed has no entry. -/
theorem Moved.fails {run' : Run} {error : RunError} (wf : e.graph.WellFormed e.schemas entry)
    (hc : e.run.Consistent e.schemas e.graph entry) (running : e.run.status = .running)
    (m : Moved c e.graph e.run (.fails run' error)) (found : error.isMissing = false) :
    run' = e.run.fail error ∧ (∀ status operation, error ≠ .invalidTransition status operation) ∧
      ∀ step, error.interrupted? = some step → e.run.state.get? step = none := by
  cases m with
  | @unresolved _ error _ _ => cases error <;> cases found
  | unanswered _ h =>
      refine ⟨rfl, by simp, fun step interrupted => ?_⟩
      obtain rfl := Option.some.inj interrupted
      exact hc.get?_eq_none wf h
  | @unchosen _ error _ _ =>
      cases error <;> exact ⟨rfl, by simp [selectionError], fun _ h => by cases h⟩
  | unmatched _ _ => exact ⟨rfl, by simp, fun _ h => by cases h⟩
  | lost _ _ => cases found
  | refused h => exact absurd h (hc.not_idle_of_running running)

/-- An advance of an open run that fails ends the run, and has added the steps that it executed
before. -/
theorem advance_fails (wf : e.graph.WellFormed e.schemas entry)
    (hc : e.run.Consistent e.schemas e.graph entry) (hopen : e.run.IsOpen) (c : Collaborators World)
    (world : World) {error : RunError} (h : (e.advance c world).result = .error error) :
    (∀ status operation, error ≠ .invalidTransition status operation) ∧
      (∃ completed, e.run.Gains c.reasoner e.graph completed (e.advance c world).engine.run) ∧
      ∀ step, error.interrupted? = some step →
        (e.advance c world).engine.run.state.get? step = none := by
  have first : Follows entry e e.begun := begin_follows hc hopen
  obtain ⟨last, world', hlast, heq⟩ :=
    moveOn_eq_moveOn_last c (2 * e.graph.steps.size) e.begun world
  have hstage := List.mem_of_getLast? hlast
  obtain ⟨follows, running⟩ :=
    moveStages_follows c _ e.begun world wf first.consistent rfl last hstage
  obtain ⟨completed, later_gains⟩ :=
    moveStages_gains c _ e.begun world wf first.consistent rfl last hstage
  have begins : e.run.Gains c.reasoner e.graph [] e.begun.run := .of_state_eq rfl rfl rfl
  have gains := begins.trans later_gains
  have later := follows.consistent_there
  have wf' := follows.wellFormed wf
  have found := (move_progress c last world' wf' later running).not_missing
  have made := moved c last world'
  have only : e.advance c world = moveOn c 1 last world' :=
    (advance_of_open hopen c world).trans heq
  rw [only] at h ⊢
  rw [moveOn] at h ⊢
  split at h
  · cases h
  · cases h
  · next run error' world'' hmove =>
      obtain rfl := Except.error.inj h
      rw [hmove] at made found
      obtain ⟨rfl, accepted, interrupted⟩ := made.fails wf' later running (found _ rfl)
      exact ⟨accepted, ⟨_, gains.trans (.of_state_eq rfl rfl rfl)⟩, interrupted⟩

section

variable {e' : Engine} {error : RunError}

theorem failTool_error {message : String} (h : e.failTool message = (.error error, e')) :
    e' = e := by
  unfold failTool at h
  split at h <;> cases h
  rfl

theorem abort_error (h : e.abort = (.error error, e')) : e' = e := by
  unfold abort at h
  split at h <;> cases h
  rfl

variable (hc : e.run.Consistent e.schemas e.graph entry)

include hc

theorem resume_error {outputs : Fields} (h : e.resume outputs = (.error error, e')) :
    (error = e.run.refusal "resume" ∧ e' = e) ∨
      ∃ step missing, error = .incompleteToolResult step missing ∧ e.run.FailedAt step e'.run := by
  unfold resume at h
  split at h
  · next invocation waiting =>
      have stood : e.run.cursor.step? = some invocation.step := by
        rw [(hc.awaits_tool invocation waiting).1, Cursor.step?]
      split at h
      · cases h
      · cases h
        exact .inr ⟨_, _, rfl, Run.failedAt_fail stood rfl⟩
  · cases h
    exact .inl ⟨rfl, rfl⟩

theorem failTool_ok {message : String} (h : e.failTool message = (.ok error, e')) :
    ∃ step, error.step? = some step ∧ e.run.FailedAt step e'.run := by
  unfold failTool at h
  split at h
  · next invocation waiting =>
      have stood : e.run.cursor.step? = some invocation.step := by
        rw [(hc.awaits_tool invocation waiting).1, Cursor.step?]
      cases h
      exact ⟨_, rfl, Run.failedAt_fail stood rfl⟩
  · cases h

theorem chooseBranch_error {label : String} (h : e.chooseBranch label = (.error error, e')) :
    (error = e.run.refusal "choose a branch" ∧ e' = e) ∨
      ∃ step, error = .noMatchingBranch step label ∧ e.run.FailedAt step e'.run := by
  unfold chooseBranch at h
  split at h
  · next id labels waiting =>
      obtain ⟨hcursor, step, hstep, _⟩ := hc.awaits_branch id labels waiting
      obtain rfl := Graph.id_of_step? hstep
      have stood : e.run.cursor.step? = some step.id := by rw [hcursor, Cursor.step?]
      simp only [Engine.step, hstep] at h
      split at h
      · cases h
      · next hfollow =>
          obtain rfl := follow_eq_error hfollow
          cases h
          exact .inr ⟨_, rfl, Run.failedAt_fail stood rfl⟩
  · cases h
    exact .inl ⟨rfl, rfl⟩

end

section

variable (wf : e.graph.WellFormed e.schemas entry)
  (hc : e.run.Consistent e.schemas e.graph entry)

include wf hc

/-- A refused operation leaves the engine as it is. -/
theorem Operation.engines_of_refused (op : Operation World) (world : World)
    {status operation : String}
    (h : (op.perform e world).error = some (.invalidTransition status operation)) :
    (op.perform e world).engines = [e] := by
  cases op with
  | advance c =>
      by_cases hopen : e.run.IsOpen
      · have failed := errorOf?_eq_some_iff.1 h
        exact absurd rfl ((advance_fails wf hc hopen c world failed).1 status operation)
      · simp only [perform, advance_of_not_open hopen, Effect.engines]
  | resume outputs =>
      rcases resume_error hc (Prod.ext (errorOf?_eq_some_iff.1 h) rfl) with
        ⟨_, same⟩ | ⟨_, _, other, _⟩
      · exact congrArg ([·]) same
      · cases other
  | failTool message =>
      exact congrArg ([·]) (failTool_error (Prod.ext (errorOf?_eq_some_iff.1 h) rfl))
  | chooseBranch label =>
      rcases chooseBranch_error hc (Prod.ext (errorOf?_eq_some_iff.1 h) rfl) with
        ⟨_, same⟩ | ⟨_, other, _⟩
      · exact congrArg ([·]) same
      · cases other
  | abort => exact congrArg ([·]) (abort_error (Prod.ext (errorOf?_eq_some_iff.1 h) rfl))
  | fork newId =>
      unfold perform at h ⊢
      dsimp only at h ⊢
      split at h
      · cases h
      · rfl

omit wf hc in
/-- After a fork there are the run that was forked and those that go on along its transitions. -/
theorem forked_cases (newId : World → String × World) (world : World) {e' : Engine}
    (h : e' ∈ ((Operation.fork newId).perform e world).engines) :
    e' = e ∨ ∃ id target, e' = e.withRun (forkedRun e.run id target) := by
  unfold Operation.perform at h
  dsimp only at h
  split at h
  · next children hfork =>
      rcases List.mem_cons.1 h with rfl | child
      · exact .inl rfl
      · unfold fork at hfork
        split at hfork
        · split at hfork
          · cases hfork
            obtain ⟨id, target, _, rfl⟩ := exists_of_mem_forkAlong _ _ _ child
            exact .inr ⟨id, target, rfl⟩
          · cases hfork
        · cases hfork
  · exact .inl (List.mem_singleton.1 h)

omit wf hc in
/-- Only an abort leaves an aborted run that was not aborted before. -/
theorem Operation.not_aborted (op : Operation World) (world : World) (h : op ≠ .abort) :
    ∀ e' ∈ (op.perform e world).engines, e' = e ∨ e'.run.status ≠ .aborted := by
  have single {error? : Option RunError} {left : Engine}
      (h : left = e ∨ left.run.status ≠ .aborted) :
      ∀ e' ∈ (⟨error?, left, []⟩ : Effect).engines, e' = e ∨ e'.run.status ≠ .aborted := by
    intro e' he'
    obtain rfl := List.mem_singleton.1 he'
    exact h
  cases op with
  | advance c =>
      apply single
      by_cases hopen : e.run.IsOpen
      · rw [advance_of_open hopen]
        exact .inr (moveOn_not_aborted c _ e.begun world rfl)
      · rw [advance_of_not_open hopen]
        exact .inl rfl
  | resume outputs =>
      apply single
      unfold Engine.resume
      split
      · split
        · exact .inr (by simp)
        · exact .inr (by simp [failWith, Run.fail])
      · exact .inl rfl
  | failTool message =>
      apply single
      unfold Engine.failTool
      split
      · exact .inr (by simp [Run.fail])
      · exact .inl rfl
  | chooseBranch label =>
      apply single
      unfold Engine.chooseBranch
      split
      · split
        · exact .inl rfl
        · split
          · next hfollow =>
              obtain ⟨t, _, _, rfl⟩ := follow_eq_ok hfollow
              exact .inr (by simp [Run.goTo])
          · exact .inr (by simp [failWith, Run.fail])
      · exact .inl rfl
  | abort => exact absurd rfl h
  | fork newId =>
      intro e' he'
      rcases forked_cases newId world he' with rfl | ⟨_, _, rfl⟩
      · exact .inl rfl
      · exact .inr (by simp [forkedRun, Run.goTo])

/-- No other operation than an abort removes or alters an entry. -/
theorem Operation.keeps (op : Operation World) (world : World) (h : op ≠ .abort) :
    ∀ e' ∈ (op.perform e world).engines, e.run.state.Within e'.run.state := by
  intro e' he'
  rcases op.not_aborted world h e' he' with rfl | going
  · exact fun _ _ recorded => recorded
  · exact ((op.perform_sound wf hc world).follows e' he').kept going

end

/-! ## Every run -/

/-- How operations fail on an engine. -/
structure FailsAtomically (e : Engine) : Prop where
  refused : ∀ {World : Type} (op : Operation World) (world : World) (status operation : String),
    (op.perform e world).error = some (.invalidTransition status operation) →
      (op.perform e world).engines = [e]
  resume : ∀ outputs step missing e',
    e.resume outputs = (.error (.incompleteToolResult step missing), e') →
      e.run.FailedAt step e'.run
  chooseBranch : ∀ label step missed e',
    e.chooseBranch label = (.error (.noMatchingBranch step missed), e') → e.run.FailedAt step e'.run
  failTool : ∀ message error e', e.failTool message = (.ok error, e') →
    ∃ step, error.step? = some step ∧ e.run.FailedAt step e'.run
  advance : ∀ {World : Type} (c : Collaborators World) (world : World) (error : RunError),
    (e.advance c world).result = .error error →
      (∃ completed, e.run.Gains c.reasoner e.graph completed (e.advance c world).engine.run) ∧
        ∀ step, error.interrupted? = some step →
          (e.advance c world).engine.run.state.get? step = none
  kept : ∀ {World : Type} (op : Operation World) (world : World), op ≠ .abort →
    ∀ e' ∈ (op.perform e world).engines, e.run.state.Within e'.run.state

/-- Whatever fails, nothing is left half done, and only an abort takes away what was recorded. -/
theorem Reachable.fails_atomically {graph : Graph} {schemas : Schemas}
    (h : Reachable graph schemas e) : e.FailsAtomically := by
  obtain ⟨rfl, rfl, entry, _, wf, hc⟩ := h.consistent
  refine ⟨fun op world _ _ => op.engines_of_refused wf hc world, ?_, ?_, ?_, ?_,
    fun op world => op.keeps wf hc world⟩
  · intro outputs step missing e' failed
    rcases resume_error hc failed with ⟨other, _⟩ | ⟨_, _, same, at_step⟩
    · cases other
    · cases same
      exact at_step
  · intro label step missed e' failed
    rcases chooseBranch_error hc failed with ⟨other, _⟩ | ⟨_, same, at_step⟩
    · cases other
    · cases same
      exact at_step
  · exact fun message error e' => failTool_ok hc
  · intro World c world error failed
    by_cases hopen : e.run.IsOpen
    · exact (advance_fails wf hc hopen c world failed).2
    · rw [advance_of_not_open hopen] at failed ⊢
      cases failed
      exact ⟨⟨[], .of_state_eq rfl rfl rfl⟩, fun _ other => by cases other⟩

/-- Someone leads the weather service to the warning, and nobody words it. -/
def unworded : Collaborators Unit := ⟨none, some (.ofFunction fun _ _ => "ask.temperature > 25")⟩

theorem forecast_fails_whole :
    forecastAsked.run.FailedAt "ask" (forecastAsked.resume .empty).2.run ∧
      (forecastTold.advance unworded ()).result =
        .error (.reasonerFailed "warn" "no reasoner configured") ∧
      (forecastTold.advance unworded ()).engine.run.state.get? "warn" = none ∧
      ∃ completed, forecastTold.run.Gains unworded.reasoner forecastTold.graph completed
        (forecastTold.advance unworded ()).engine.run := by
  have incomplete : (forecastAsked.resume .empty).1 =
      .error (.incompleteToolResult "ask" ["temperature"]) :=
    errorOf?_eq_some_iff.1 (by decide +kernel)
  have failed : (forecastTold.advance unworded ()).result =
      .error (.reasonerFailed "warn" "no reasoner configured") :=
    errorOf?_eq_some_iff.1 (by decide +kernel)
  obtain ⟨gains, unrecorded⟩ := forecastTold_reachable.fails_atomically.advance unworded () _ failed
  exact ⟨forecastAsked_reachable.fails_atomically.resume _ _ _ _ (Prod.ext incomplete rfl), failed,
    unrecorded "warn" rfl, gains⟩

end Engine

end Workflow
