import Workflow.Proofs.Run.Progress

/-!
# Runs of accepted graphs

Each operation on a consistent run of a well-formed graph leaves consistent runs, and fails for
nothing that is missing. So validation keeps its promise in every run of an accepted graph, whatever
the reasoner, the selector, the tools and the caller answer.

Main statements: `Operation.perform_sound`, one operation, and from it `Reachable.consistent`, all
of them; then, for every run, that nothing is ever missing and that its record fits together.
-/

namespace Workflow.Engine

variable {World : Type} {entry : String}

/-! ## Advancing -/

/-- Each engine that moving goes through is running and consistent. -/
theorem moveStages_follows (c : Collaborators World) (moves : Nat) (e : Engine) (world : World)
    (wf : e.graph.WellFormed e.schemas entry) (hc : e.run.Consistent e.schemas e.graph entry)
    (running : e.run.status = .running) :
    ∀ stage ∈ moveStages c moves e world, Follows entry e stage ∧ stage.run.status = .running := by
  induction moves generalizing e world with
  | zero =>
      intro stage hstage
      cases hstage
  | succ moves ih =>
      have progress := move_progress c e world wf hc running
      have follows := progress.follows wf hc running
      intro stage hstage
      rcases List.mem_cons.1 hstage with rfl | hstage
      · exact ⟨.refl hc, running⟩
      · split at hstage
        · next run world' hmove =>
            rw [hmove] at progress follows
            have running' := progress.running running
            obtain ⟨rest, running_stage⟩ :=
              ih (e.withRun run) world' wf follows.consistent running' stage hstage
            have going : (e.withRun run).run.status ≠ .aborted := by simp [running']
            exact ⟨follows.trans going rest, running_stage⟩
        · cases hstage

/-- Moving on keeps the run consistent and fails for nothing that is missing. -/
theorem moveOn_follows (c : Collaborators World) (moves : Nat) (e : Engine) (world : World)
    (wf : e.graph.WellFormed e.schemas entry) (hc : e.run.Consistent e.schemas e.graph entry)
    (running : e.run.status = .running) :
    Follows entry e (moveOn c moves e world).engine ∧
      ∀ error, errorOf? (moveOn c moves e world).result = some error →
        error.isMissing = false := by
  cases moves with
  | zero =>
      refine ⟨.refl hc, fun error herror => ?_⟩
      cases herror
  | succ moves =>
      -- Only the last move matters: what comes before it are stages.
      obtain ⟨last, world', hlast, heq⟩ := moveOn_eq_moveOn_last c moves e world
      obtain ⟨follows, running'⟩ :=
        moveStages_follows c (moves + 1) e world wf hc running last (List.mem_of_getLast? hlast)
      have progress :=
        move_progress c last world' (follows.wellFormed wf) follows.consistent_there running'
      have going : last.run.status ≠ .aborted := by simp [running']
      have later := follows.trans going
        (progress.follows (follows.wellFormed wf) follows.consistent_there running')
      have found := progress.not_missing
      rw [heq, moveOn]
      split
      · next run _ hmove =>
          rw [hmove] at later
          refine ⟨later, fun error herror => ?_⟩
          cases herror
      · next run _ hmove =>
          rw [hmove] at later
          refine ⟨later, fun error herror => ?_⟩
          cases herror
      · next run error _ hmove =>
          rw [hmove] at later found
          exact ⟨later, found⟩

/-- A run that may advance is consistent as a running one. -/
theorem begin_follows {e : Engine} (hc : e.run.Consistent e.schemas e.graph entry)
    (h : e.run.status = .pending ∨ e.run.status = .running) :
    Follows entry e (e.withRun { e.run with status := .running }) := by
  have working : e.run.cursor ≠ .idle := by
    rw [Ne, hc.idle_iff]
    rcases h with h | h <;> simp [h, RunStatus.isTerminal]
  exact .of_state_eq (hc.withStatus working rfl (by simp) (by simp)) rfl

/-! ## Operations -/

/-- What an operation may leave: engines that follow the one on which it was performed, and an error
only if nothing was missing. -/
structure Effect.Sound (entry : String) (e : Engine) (effect : Effect) : Prop where
  follows : ∀ e' ∈ effect.engines, Follows entry e e'
  not_missing : ∀ error, effect.error = some error → error.isMissing = false

/-- An operation that changes one record is sound if the record is. -/
theorem Effect.sound_of_follows {e e' : Engine} (h : Follows entry e e') {error? : Option RunError}
    (found : ∀ error, error? = some error → error.isMissing = false) :
    Effect.Sound entry e ⟨error?, e', []⟩ where
  follows := by
    intro other hother
    obtain rfl := List.mem_singleton.1 hother
    exact h
  not_missing := found

theorem Effect.sound_of_ok {e e' : Engine} (h : Follows entry e e') :
    Effect.Sound entry e ⟨none, e', []⟩ :=
  Effect.sound_of_follows h fun _ herror => by cases herror

theorem Effect.sound_of_error {e e' : Engine} {error : RunError} (h : Follows entry e e')
    (found : error.isMissing = false) : Effect.Sound entry e ⟨some error, e', []⟩ := by
  refine Effect.sound_of_follows h fun other hother => ?_
  obtain rfl := Option.some.inj hother
  exact found

/-- A refused operation changes nothing. -/
theorem Effect.sound_of_refused {e : Engine} (hc : e.run.Consistent e.schemas e.graph entry)
    (operation : String) : Effect.Sound entry e ⟨some (e.run.refusal operation), e, []⟩ :=
  Effect.sound_of_error (.refl hc) rfl

section

variable {e : Engine} (wf : e.graph.WellFormed e.schemas entry)
  (hc : e.run.Consistent e.schemas e.graph entry)

include wf hc

theorem advance_sound (c : Collaborators World) (world : World) :
    Effect.Sound entry e
      ⟨errorOf? (e.advance c world).result, (e.advance c world).engine, []⟩ := by
  have going (h : e.run.status = .pending ∨ e.run.status = .running) :
      let begun := e.withRun { e.run with status := .running }
      Effect.Sound entry e ⟨errorOf? (moveOn c begun.maxMoves begun world).result,
        (moveOn c begun.maxMoves begun world).engine, []⟩ := by
    intro begun
    have first := begin_follows hc h
    obtain ⟨rest, found⟩ := moveOn_follows c begun.maxMoves begun world wf first.consistent rfl
    exact Effect.sound_of_follows (first.trans (by simp) rest) found
  unfold advance
  split
  · next h => exact going (.inl h)
  · next h => exact going (.inr h)
  · exact Effect.sound_of_refused hc "advance"

/-- The result of a tool is recorded only if it has all outputs that the tool declares. -/
theorem resume_sound (outputs : Fields) :
    Effect.Sound entry e ⟨errorOf? (e.resume outputs).1, (e.resume outputs).2, []⟩ := by
  unfold resume
  split
  · next invocation h =>
      obtain ⟨hcursor, step, parameters, hstep, hact⟩ := hc.awaits_tool invocation h
      have hid := Graph.id_of_step? hstep
      rw [← hid] at hcursor hstep ⊢
      split
      · next complete =>
          obtain ⟨schema, hschema, _⟩ :=
            wf.tools_known step (Graph.mem_stepList_of_step? hstep) invocation.tool parameters hact
          rw [hschema] at complete
          -- Nothing of what the tool declares is missing, and its schema is known.
          have left : step.LeftBy e.schemas outputs := by
            simp only [Step.LeftBy, hact]
            refine ⟨schema, hschema, fun field hfield => ?_⟩
            have := List.filter_eq_nil_iff.1 complete field hfield
            simpa using this
          exact Effect.sound_of_ok (.complete wf hc hstep hcursor left)
      · next missing _ =>
          have working : e.run.cursor ≠ .idle := by simp [hcursor]
          exact Effect.sound_of_error (.of_state_eq (hc.fail working _) rfl) rfl
  · exact Effect.sound_of_refused hc "resume"

omit wf in
theorem failTool_sound (message : String) :
    Effect.Sound entry e ⟨errorOf? (e.failTool message).1, (e.failTool message).2, []⟩ := by
  unfold failTool
  split
  · next invocation h =>
      have working : e.run.cursor ≠ .idle := by simp [(hc.awaits_tool invocation h).1]
      exact Effect.sound_of_ok (.of_state_eq (hc.fail working _) rfl)
  · exact Effect.sound_of_refused hc "fail a tool"

theorem chooseBranch_sound (label : String) :
    Effect.Sound entry e ⟨errorOf? (e.chooseBranch label).1, (e.chooseBranch label).2, []⟩ := by
  unfold chooseBranch
  split
  · next id labels h =>
      obtain ⟨hcursor, step, hstep, _⟩ := hc.awaits_branch id labels h
      simp only [Engine.step, hstep]
      split
      · next run hfollow =>
          obtain ⟨t, ht, _, rfl⟩ := follow_eq_ok hfollow
          have htarget : t.target ∈ e.graph.successors id := by
            rw [Graph.successors_of_step? hstep]
            exact List.mem_map_of_mem ht
          exact Effect.sound_of_ok (.of_state_eq (hc.goTo wf hcursor htarget) rfl)
      · next error hfollow =>
          have working : e.run.cursor ≠ .idle := by simp [hcursor]
          obtain rfl := follow_eq_error hfollow
          exact Effect.sound_of_error (.of_state_eq (hc.fail working _) rfl) rfl
  · exact Effect.sound_of_refused hc "choose a branch"

omit wf in
theorem abort_sound : Effect.Sound entry e ⟨errorOf? e.abort.1, e.abort.2, []⟩ := by
  unfold abort
  split
  · exact Effect.sound_of_refused hc "abort"
  · next h =>
      have working : e.run.cursor ≠ .idle := mt hc.idle_iff.1 h
      have aborted : Follows entry e
          (e.withRun { e.run with state := .empty, cursor := .idle, status := .aborted }) :=
        ⟨rfl, rfl, hc.abort working, fun not_aborted => absurd rfl not_aborted⟩
      exact Effect.sound_of_ok aborted

omit wf hc in
/-- The runs that are forked go on along one of the transitions each. -/
theorem exists_of_mem_forkAlong (newId : World → String × World) (targets : List String)
    (world : World) {child : Engine} (h : child ∈ (forkAlong newId e targets world).1) :
    ∃ id, ∃ target ∈ targets, child = e.withRun (forkedRun e.run id target) := by
  induction targets generalizing world with
  | nil => cases h
  | cons target rest ih =>
      rcases List.mem_cons.1 h with rfl | h
      · exact ⟨_, target, List.mem_cons_self, rfl⟩
      · obtain ⟨id, other, hmem, heq⟩ := ih _ h
        exact ⟨id, other, List.mem_cons_of_mem _ hmem, heq⟩

theorem fork_sound (newId : World → String × World) (world : World) :
    Effect.Sound entry e ((Operation.fork newId).perform e world) := by
  unfold Operation.perform fork
  cases hstatus : e.run.status with
  | awaitingBranch id labels =>
      obtain ⟨hcursor, step, hstep, _⟩ := hc.awaits_branch id labels hstatus
      simp only [Engine.step, hstep]
      refine ⟨fun e' he' => ?_, fun error herror => ?_⟩
      · rcases List.mem_cons.1 he' with rfl | he'
        · exact .refl hc
        · obtain ⟨newId, target, htarget, rfl⟩ := exists_of_mem_forkAlong _ _ _ he'
          rw [← Graph.successors_of_step? hstep] at htarget
          exact .of_state_eq ((hc.goTo wf hcursor htarget).withId _ _) rfl
      · cases herror
  | _ => simpa only [hstatus, RunStatus.name, Run.refusal] using Effect.sound_of_refused hc "fork"

/-- Whatever is done with a consistent run, no operation fails for something missing, and all runs
that there are afterwards are consistent. -/
theorem Operation.perform_sound (op : Operation World) (world : World) :
    Effect.Sound entry e (op.perform e world) := by
  cases op with
  | advance c => exact advance_sound wf hc c world
  | resume outputs => exact resume_sound wf hc outputs
  | failTool message => exact failTool_sound hc message
  | chooseBranch label => exact chooseBranch_sound wf hc label
  | abort => exact abort_sound hc
  | fork newId => exact fork_sound wf hc newId world

/-- So are the runs that an operation goes through. -/
theorem Operation.stages_follow (op : Operation World) (world : World) :
    ∀ stage ∈ op.stages e world, Follows entry e stage := by
  have from_running (h : e.run.status = .pending ∨ e.run.status = .running)
      (c : Collaborators World) :
      let begun := e.withRun { e.run with status := .running }
      ∀ stage ∈ moveStages c e.maxMoves begun world, Follows entry e stage := by
    intro begun stage hstage
    have first := begin_follows hc h
    have rest := moveStages_follows c e.maxMoves begun world wf first.consistent rfl
    exact first.trans (by simp) (rest stage hstage).1
  intro stage hstage
  cases op with
  | advance c =>
      simp only [Operation.stages] at hstage
      split at hstage
      · next h => exact from_running (.inl h) c stage hstage
      · next h => exact from_running (.inr h) c stage hstage
      · cases hstage
  | chooseBranch _ | fork _ =>
      obtain rfl := List.mem_singleton.1 hstage
      exact .refl hc
  | resume _ | failTool _ | abort => cases hstage

end

/-! ## Every run -/

variable {graph : Graph} {schemas : Schemas} {e : Engine}

/-- The invariant of all runs: each engine that is reached runs the graph that was accepted, and its
record is consistent. -/
theorem Reachable.consistent (h : Reachable graph schemas e) :
    e.graph = graph ∧ e.schemas = schemas ∧
      ∃ entry, graph.entry = some entry ∧ graph.WellFormed schemas entry ∧
        e.run.Consistent schemas graph entry := by
  induction h with
  | @start id startedAt e hstart =>
      obtain ⟨rfl, rfl, entry, hentry, hrun⟩ := start_eq_ok hstart
      obtain ⟨first, hfirst, wf⟩ := Graph.wellFormed_of_isAccepted e.accepted
      obtain rfl := Option.some.inj (hentry.symm.trans hfirst)
      refine ⟨rfl, rfl, entry, hentry, wf, ?_⟩
      rw [hrun]
      exact .start wf.contains_entry id startedAt
  | @operate _ e e' op world _ he' ih =>
      obtain ⟨rfl, rfl, entry, hentry, wf, hc⟩ := ih
      have follows := (op.perform_sound wf hc world).follows e' he'
      exact ⟨follows.graph_eq, follows.schemas_eq, entry, hentry, wf, follows.consistent⟩

/-- What the conditions on the labels of the step that is left read is recorded. -/
def ReadsRecorded (e : Engine) : Prop :=
  ∀ id step, e.run.cursor = .leave id → e.graph.step? id = some step →
    ∀ label ∈ step.labels, isCatchAll label = false →
      ∀ condition, Condition.parse? label = some condition →
        ∀ path ∈ condition.paths, (e.run.state.field? path.step path.field).isSome = true

theorem readsRecorded_of_consistent (wf : e.graph.WellFormed e.schemas entry)
    (hc : e.run.Consistent e.schemas e.graph entry) : e.ReadsRecorded := by
  intro id step hcursor hstep label hlabel choice condition hparse path hpath
  obtain rfl := Graph.id_of_step? hstep
  have reads : LabelReads label (.output path.step path.field) :=
    ⟨choice, .inr ⟨condition, hparse, path, hpath, rfl⟩⟩
  exact hc.label_recorded wf hstep hcursor hlabel reads

/-- A run of an accepted graph can be started, and whatever is done with it, no operation fails for
a value or a step that is missing. Whenever a step is left, all that its conditions read
is there. -/
theorem nothing_missing_of_isAccepted (accepted : (graph.validate schemas).isAccepted = true) :
    (∀ id startedAt, ∃ e, Engine.start graph schemas id startedAt = .ok e) ∧
      ∀ e, Reachable graph schemas e → ∀ {World : Type} (op : Operation World) (world : World),
        (∀ error, (op.perform e world).error = some error → error.isMissing = false) ∧
          ∀ stage ∈ op.stages e world, stage.graph = graph ∧ stage.ReadsRecorded := by
  constructor
  · intro id startedAt
    obtain ⟨entry, hentry, _⟩ := Graph.wellFormed_of_isAccepted accepted
    exact ⟨_, start_of_isAccepted id startedAt accepted hentry⟩
  · intro e he World op world
    obtain ⟨rfl, rfl, entry, _, wf, hc⟩ := he.consistent
    refine ⟨(op.perform_sound wf hc world).not_missing, fun stage hstage => ?_⟩
    have follows := op.stages_follow wf hc world stage hstage
    exact ⟨follows.graph_eq,
      readsRecorded_of_consistent (follows.wellFormed wf) follows.consistent_there⟩

/-- The weather service on its own, without reasoner and selector. -/
def unattended : Collaborators Unit := ⟨none, none⟩

/-- The weather service, called for a city. -/
def forecastBegun : Engine :=
  ⟨forecast, forecastSchemas, .start "run" "today" "ask", forecast_isAccepted⟩

/-- The weather service after the tool gave a temperature: a branch has to be chosen. -/
def forecastAnswered : Engine :=
  let asked := (forecastBegun.advance unattended ()).engine
  ((asked.resume (Dict.empty.insert "temperature" (.int 31))).2.advance unattended ()).engine

theorem forecast_reachable : Reachable forecast forecastSchemas forecastAnswered := by
  have begun : Reachable forecast forecastSchemas forecastBegun :=
    .start (start_of_isAccepted "run" "today" forecast_isAccepted rfl)
  have asked := begun.operate (.advance unattended) () List.mem_cons_self
  have told :=
    asked.operate (.resume (Dict.empty.insert "temperature" (.int 31))) () List.mem_cons_self
  exact told.operate (.advance unattended) () List.mem_cons_self

theorem forecast_misses_nothing :
    (∃ e, Engine.start forecast forecastSchemas "run" "today" = .ok e) ∧
      forecastAnswered.run.status.name = "awaiting_branch" ∧
      (∀ error,
        ((Operation.chooseBranch "otherwise").perform forecastAnswered ()).error = some error →
        error.isMissing = false) ∧
      forecastAnswered.ReadsRecorded := by
  obtain ⟨starts, misses⟩ := nothing_missing_of_isAccepted forecast_isAccepted
  obtain ⟨found, stages⟩ :=
    misses forecastAnswered forecast_reachable (.chooseBranch "otherwise") ()
  exact ⟨starts "run" "today", by decide +kernel, found, (stages _ List.mem_cons_self).2⟩

/-! ## The record of a run -/

/-- What the record of a run says, and goes on to say whatever is done next. -/
structure RecordFits (entry : String) (e : Engine) : Prop where
  ended_iff :
    (e.run.status = .completed ∨ (∃ failure, e.run.status = .failed failure) ∨
      e.run.status = .aborted) ↔ e.run.cursor = .idle
  awaits_tool : ∀ invocation, e.run.status = .awaitingTool invocation →
    e.run.cursor = .enter invocation.step ∧ e.run.state.get? invocation.step = none ∧
      ∃ step parameters, e.graph.step? invocation.step = some step ∧
        step.action = .tool invocation.tool parameters
  awaits_branch : ∀ id labels, e.run.status = .awaitingBranch id labels →
    e.run.cursor = .leave id ∧
      ∃ step, e.graph.step? id = some step ∧ 2 ≤ step.transitions.length ∧ labels = step.labels
  /-- The trail is a path from the entry, or empty. -/
  trail_walk : e.run.trail = [] ∨ ∃ last, e.graph.Walk entry last e.run.trail
  trail_nodup : e.run.trail.Nodup
  forgotten : e.run.status = .aborted → e.run.state = .empty
  recorded_iff : e.run.status ≠ .aborted → ∀ id, (e.run.state.get? id).isSome = true ↔
    id ∈ e.run.trail ∧ ∃ step, e.graph.step? id = some step ∧ step.action ≠ .final
  of_tool : ∀ id step outputs name parameters, e.graph.step? id = some step →
    e.run.state.get? id = some outputs → step.action = .tool name parameters →
      ∃ schema, e.schemas name = some schema ∧
        ∀ field ∈ schema.outputs, outputs.contains field = true
  of_reasoning : ∀ id step outputs prompt, e.graph.step? id = some step →
    e.run.state.get? id = some outputs → step.action = .reasoning prompt →
      ∃ answer, outputs.entries = [("response", .text answer)]
  /-- A step that is executed has no outputs yet. -/
  writes_once : ∀ {World : Type} (op : Operation World) (world : World),
    ∀ stage ∈ op.stages e world, ∀ id, stage.run.cursor = .enter id →
      stage.run.state.get? id = none
  keeps_outputs : ∀ {World : Type} (op : Operation World) (world : World),
    ∀ e' ∈ (op.perform e world).engines, e'.run.status ≠ .aborted →
      ∀ id outputs, e.run.state.get? id = some outputs → e'.run.state.get? id = some outputs
  completed : e.run.status = .completed →
    e.run.finished = [e.run.trail] ∧
      ∃ last step, e.run.trail.getLast? = some last ∧ e.graph.step? last = some step ∧
        step.action = .final
  unfinished : e.run.status ≠ .completed → e.run.finished = []

theorem isTerminal_iff (status : RunStatus) :
    status.isTerminal = true ↔
      status = .completed ∨ (∃ failure, status = .failed failure) ∨ status = .aborted := by
  cases status <;> simp [RunStatus.isTerminal]

theorem recordFits_of_consistent (wf : e.graph.WellFormed e.schemas entry)
    (hc : e.run.Consistent e.schemas e.graph entry) : e.RecordFits entry where
  ended_iff := by rw [hc.idle_iff, isTerminal_iff]
  awaits_tool invocation h := by
    obtain ⟨hcursor, tool_step⟩ := hc.awaits_tool invocation h
    exact ⟨hcursor, hc.get?_eq_none wf hcursor, tool_step⟩
  awaits_branch := hc.awaits_branch
  trail_walk := hc.trail_walk
  trail_nodup := by
    rcases hc.trail_walk with h | ⟨last, w⟩
    · simp [h]
    · exact w.nodup wf.acyclic
  forgotten := hc.aborted
  recorded_iff := hc.recorded
  of_tool id step outputs name parameters hstep hrecorded hact := by
    have left := hc.left_by id step outputs hstep hrecorded
    simpa only [Step.LeftBy, hact] using left
  of_reasoning id step outputs prompt hstep hrecorded hact := by
    have left := hc.left_by id step outputs hstep hrecorded
    simp only [Step.LeftBy, hact] at left
    obtain ⟨answer, rfl⟩ := left
    exact ⟨answer, rfl⟩
  writes_once op world stage hstage id hcursor := by
    have follows := op.stages_follow wf hc world stage hstage
    exact follows.consistent.get?_eq_none wf hcursor
  keeps_outputs op world e' he' := ((op.perform_sound wf hc world).follows e' he').kept
  completed := hc.completed
  unfinished := hc.unfinished

/-- In every run, status, cursor, trail, state and completed paths fit together. -/
theorem record_fits_together (h : Reachable graph schemas e) :
    e.graph = graph ∧ e.schemas = schemas ∧
      ∃ entry, graph.entry = some entry ∧ e.RecordFits entry := by
  obtain ⟨rfl, rfl, entry, hentry, wf, hc⟩ := h.consistent
  exact ⟨rfl, rfl, entry, hentry, recordFits_of_consistent wf hc⟩

theorem forecast_fits_together :
    forecastAnswered.graph = forecast ∧ forecastAnswered.run.trail = ["ask"] ∧
      ∃ entry, forecast.entry = some entry ∧ forecastAnswered.RecordFits entry := by
  obtain ⟨graph_eq, _, fits⟩ := record_fits_together forecast_reachable
  exact ⟨graph_eq, by decide +kernel, fits⟩

end Workflow.Engine
