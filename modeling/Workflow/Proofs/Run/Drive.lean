import Workflow.Proofs.Run.Answered
import Workflow.Proofs.Validation.Tree

/-!
# How far a run is driven

A run that enters a step is driven along a course: through each working step to the one behind it,
up to a final step or a branch that is left to the caller. Neither the moves of an advance nor the
calls of a drive run out before that, since a course passes each step of the graph at most once.

Main statement: `Runner.drive_course`.
-/

namespace Workflow

variable {World : Type}

/-! ## Courses -/

/-- However a run stands, the step is left along a transition to `target`, and no call is made. -/
def Engine.Takes (c : Collaborators World) (after : World → List Call → World → Prop) (step : Step)
    (target : String) : Prop :=
  ∀ run world, run.status = .running → ∃ world',
    leave c run step world = (.goesOn (run.goTo target), world') ∧ after world [] world'

/-- The steps through which a run comes that enters the step `id`. -/
inductive Engine.Course (g : Graph) (c : Collaborators World)
    (after : World → List Call → World → Prop) : String → List String → Prop where
  | ends {step : Step} : g.step? step.id = some step → step.action = .final →
      Course g c after step.id [step.id]
  | waits {step : Step} : g.step? step.id = some step → step.action ≠ .final →
      2 ≤ step.transitions.length → c.selector = none → Course g c after step.id [step.id]
  | goesOn {step : Step} {target : String} {rest : List String} : g.step? step.id = some step →
      step.action ≠ .final → target ∈ step.targets → Takes c after step target →
      Course g c after target rest → Course g c after step.id (step.id :: rest)

/-- The steps that a run may still come to, each as often as there are ways to it. -/
def Graph.ahead (g : Graph) : Cursor → List String
  | .enter id => g.reachable id
  | .leave id => (g.successors id).flatMap g.reachable
  | .idle => []

/-- Whether the step with this id is final. -/
def Graph.isFinalAt (g : Graph) (id : String) : Bool := (g.step? id).any Step.isFinal

/-- The working steps among the visited ones made one call each, and at the final ones a run has
ended. A call is the one that its step makes when a run first comes there. -/
structure Graph.Accounts (schemas : Schemas) (g : Graph) (entry : String) (replies : Replies)
    (visited : List String) (made : List (String × Call)) (ended : List Run) : Prop where
  made_ids : (made.map (·.1)).Perm (visited.filter fun id => !g.isFinalAt id)
  made_calls : ∀ m ∈ made, ∃ trail, g.Walk entry m.1 (trail ++ [m.1]) ∧
    g.call? (g.recordAlong replies trail) m.1 = some m.2
  endings : (ended.map (·.trail.getLast?)).Perm ((visited.filter g.isFinalAt).map some)
  ended_tracks : ∀ run ∈ ended, run.status = .completed ∧ run.Tracks schemas g entry replies

namespace Graph.Accounts

variable {schemas : Schemas} {g : Graph} {entry : String} {replies : Replies}
  {visited visited' : List String} {made made' : List (String × Call)} {ended ended' : List Run}

theorem nil : g.Accounts schemas entry replies [] [] [] :=
  ⟨.refl _, by simp, .refl _, by simp⟩

theorem append (h : g.Accounts schemas entry replies visited made ended)
    (k : g.Accounts schemas entry replies visited' made' ended') :
    g.Accounts schemas entry replies (visited ++ visited') (made ++ made') (ended ++ ended') where
  made_ids := by
    rw [List.map_append, List.filter_append]
    exact h.made_ids.append k.made_ids
  made_calls m hm := (List.mem_append.1 hm).elim (h.made_calls m) (k.made_calls m)
  endings := by
    rw [List.map_append, List.filter_append, List.map_append]
    exact h.endings.append k.endings
  ended_tracks run hrun := (List.mem_append.1 hrun).elim (h.ended_tracks run) (k.ended_tracks run)

/-- A working step that was executed. -/
theorem executed {step : Step} {trail : List String} {call : Call}
    (hstep : g.step? step.id = some step) (works : step.action ≠ .final)
    (w : g.Walk entry step.id (trail ++ [step.id]))
    (hcall : g.call? (g.recordAlong replies trail) step.id = some call) :
    g.Accounts schemas entry replies [step.id] [(step.id, call)] [] := by
  have not_final : g.isFinalAt step.id = false := by
    rw [isFinalAt, hstep, Option.any_some, ← Bool.not_eq_true, Step.isFinal_iff]
    exact works
  refine ⟨by simp [not_final], fun m hm => ?_, by simp [not_final], by simp⟩
  obtain rfl := List.mem_singleton.1 hm
  exact ⟨trail, w, hcall⟩

/-- A run that has ended at a final step. -/
theorem finished {step : Step} {run : Run} (hstep : g.step? step.id = some step)
    (final : step.action = .final) (hlast : run.trail.getLast? = some step.id)
    (completed : run.status = .completed) (tracks : run.Tracks schemas g entry replies) :
    g.Accounts schemas entry replies [step.id] [] [run] := by
  have is_final : g.isFinalAt step.id = true := by
    rw [isFinalAt, hstep, Option.any_some, Step.isFinal_iff]
    exact final
  refine ⟨by simp [is_final], by simp, by simp [is_final, hlast], fun other hother => ?_⟩
  obtain rfl := List.mem_singleton.1 hother
  exact ⟨completed, tracks⟩

end Graph.Accounts

/-- With different labels a transition is found by its label. -/
theorem Step.transitionFor?_label {step : Step} {t : Transition} (nodup : step.labels.Nodup)
    (ht : t ∈ step.transitions) : step.transitionFor? t.label = some t := by
  rw [Step.transitionFor?]
  cases hfind : step.transitions.find? (·.label = t.label) with
  | none => simpa using List.find?_eq_none.1 hfind t ht
  | some other =>
      have same : other.label = t.label := of_decide_eq_true (List.find?_some hfind :)
      exact congrArg some
        (List.inj_on_of_nodup_map nodup (List.mem_of_find?_eq_some hfind) ht same)

namespace Engine

section Moves

variable {r : Runner World} {replies : Replies} {after : World → List Call → World → Prop}
  {g : Graph} {e : Engine} {entry : String} {run : Run} {step : Step} {world : World}

/-- The only transition of a step is taken without asking anyone. -/
theorem takes_of_single {c : Collaborators World} (quiet : ∀ world, after world [] world)
    {only : Transition} (h : step.transitions = [only]) : Takes c after step only.target := by
  intro run world running
  exact ⟨world, leave_of_single c world running h, quiet world⟩

/-- A call that a step makes is either answered in the same move or waited for. -/
theorem enter_of_call? (serves : r.Serves replies after) (world : World) {call : Call}
    (h : step.call? run.state = some call) :
    (∃ invocation, call = .dispatched invocation ∧ invocation.step = step.id ∧
        (∃ parameters, step.action = .tool invocation.tool parameters) ∧
        enter r.collaborators run step world =
          (.stops { run with status := .awaitingTool invocation }, world)) ∨
      ∃ world', enter r.collaborators run step world =
          (.goesOn (run.complete step.id (replies.outputs call)), world') ∧
        after world [call] world' := by
  unfold Step.call? at h
  unfold enter
  cases hact : step.action with
  | final =>
      rw [hact] at h
      cases h
  | tool name parameters =>
      simp only [hact] at h
      obtain ⟨resolved, hresolved, rfl⟩ := Option.map_eq_some_iff.1 h
      refine .inl ⟨_, rfl, rfl, ⟨parameters, rfl⟩, ?_⟩
      simp only [enterTool, toOption_eq_some_iff.1 hresolved]
  | reasoning prompt =>
      simp only [hact] at h
      obtain ⟨resolved, hresolved, rfl⟩ := Option.map_eq_some_iff.1 h
      obtain ⟨ask, hask, answers⟩ := serves.asks
      obtain ⟨world', hanswer, made⟩ := answers resolved world
      refine .inr ⟨world', ?_, made⟩
      simp only [enterReasoning, toOption_eq_some_iff.1 hresolved, hask, hanswer, Replies.outputs]

theorem move_of_enter (c : Collaborators World) (hstep : e.graph.step? step.id = some step)
    (h : run.cursor = .enter step.id) (world : World) :
    (e.withRun run).move c world = enter c run step world := by
  simp only [move, run_withRun, h, Engine.step, graph_withRun, hstep]

theorem move_of_leave (c : Collaborators World) (hstep : e.graph.step? step.id = some step)
    (h : run.cursor = .leave step.id) (world : World) :
    (e.withRun run).move c world = leave c run step world := by
  simp only [move, run_withRun, h, Engine.step, graph_withRun, hstep]

/-- A branch is left to the caller if there is no selector. -/
theorem leave_of_unattended {c : Collaborators World} (unattended : c.selector = none)
    (several : 2 ≤ step.transitions.length) (run : Run) (world : World) :
    leave c run step world =
      (.stops { run with status := .awaitingBranch step.id step.labels }, world) := by
  unfold leave
  split
  · next only honly =>
      rw [honly] at several
      exact absurd several (by simp)
  · rw [unattended]

/-- A branch is left along the transition whose label is chosen. -/
theorem leave_of_selected {c : Collaborators World} {select : Selector World}
    (selects : c.selector = some select) (several : 2 ≤ step.transitions.length)
    (nodup : step.labels.Nodup) {t : Transition} (ht : t ∈ step.transitions) {run : Run}
    {world world' : World} (selected : select step run.state world = (.ok t.label, world')) :
    leave c run step world = (.goesOn (run.goTo t.target), world') := by
  unfold leave
  split
  · next only honly =>
      rw [honly] at several
      exact absurd several (by simp)
  · simp only [selects, selected, follow, Step.transitionFor?_label nodup ht]

end Moves

end Engine

/-! ## Driving in the middle of an advance -/

namespace Runner

open Engine

/-- What driving does with the outcome of an advance. -/
def takeUp (r : Runner World) (calls : Nat) (o : Outcome World RunStatus) : Engine × World :=
  match o.result with
  | .ok (.awaitingTool invocation) =>
      match calls with
      | 0 => (o.engine, o.world)
      | calls + 1 =>
          match r.dispatch invocation o.world with
          | (.ok outputs, world) =>
              match o.engine.resume outputs with
              | (.ok _, e) => r.driveWithin calls e world
              | (.error _, e) => (e, world)
          | (.error message, world) => ((o.engine.failTool message).2, world)
  | _ => (o.engine, o.world)

theorem driveWithin_eq_takeUp (r : Runner World) (calls : Nat) (e : Engine) (world : World) :
    r.driveWithin calls e world = r.takeUp calls (e.advance r.collaborators world) := by
  cases calls <;> rw [driveWithin] <;> rfl

section Course

variable {r : Runner World} {replies : Replies} {after : World → List Call → World → Prop}
  {e : Engine} {entry : String} {run : Run} {step : Step} {world : World} {calls moves : Nat}

theorem driveWithin_of_open (h : e.run.status = .pending ∨ e.run.status = .running)
    (calls : Nat) (world : World) :
    r.driveWithin calls e world =
      r.takeUp calls (moveOn r.collaborators e.maxMoves
        (e.withRun { e.run with status := .running }) world) := by
  rw [driveWithin_eq_takeUp, advance]
  rcases h with h | h <;> rw [h] <;> rfl

/-- A tool whose call is handed out is called, and its result is handed in. -/
theorem takeUp_awaitingTool (serves : r.Serves replies after)
    (all : replies.AreComplete e.schemas) (wf : e.graph.WellFormed e.schemas entry)
    (hstep : e.graph.step? step.id = some step) {invocation : Invocation} {parameters : Fields}
    (hact : step.action = .tool invocation.tool parameters) (run : Run)
    (status : run.status = .awaitingTool invocation) (calls : Nat) (world : World) :
    ∃ world', after world [.dispatched invocation] world' ∧
      r.takeUp (calls + 1) ⟨.ok run.status, e.withRun run, world⟩ =
        r.takeUp calls (moveOn r.collaborators e.maxMoves (e.withRun
          { run.complete invocation.step (replies.respond invocation) with status := .running })
          world') := by
  obtain ⟨world', hanswer, made⟩ := serves.dispatches invocation world
  obtain ⟨schema, hschema, _⟩ :=
    wf.tools_known step (Graph.mem_stepList_of_step? hstep) _ parameters hact
  have nothing_missing : schema.missingOutputs (replies.respond invocation) = [] := by
    refine List.filter_eq_nil_iff.2 fun field hfield => ?_
    simp [all invocation schema hschema field hfield]
  have resumed : (e.withRun run).resume (replies.respond invocation) =
      (.ok (), e.withRun { run.complete invocation.step (replies.respond invocation) with
        status := .running }) := by
    simp only [resume, run_withRun, schemas_withRun, status, hschema, Option.map_some,
      Option.getD_some, nothing_missing, withRun_withRun]
  refine ⟨world', made, ?_⟩
  simp only [takeUp, status, hanswer, resumed]
  exact driveWithin_of_open (.inr rfl) calls world'

/-- A working step that is entered is executed and recorded. It takes one move, or one call, after
which the moves are counted anew. -/
theorem takeUp_executes (serves : r.Serves replies after) (all : replies.AreComplete e.schemas)
    (wf : e.graph.WellFormed e.schemas entry)
    (tracks : run.Tracks e.schemas e.graph entry replies)
    (hstep : e.graph.step? step.id = some step) (hcursor : run.cursor = .enter step.id)
    (running : run.status = .running) (works : step.action ≠ .final) (left : Nat)
    (hmoves : 2 * (left + 1) ≤ moves) (hcalls : left + 1 ≤ calls)
    (hsize : left + 1 ≤ e.graph.steps.size) (world : World) :
    ∃ call moves' calls' world',
      step.call? run.state = some call ∧ after world [call] world' ∧
      2 * left + 1 ≤ moves' ∧ left ≤ calls' ∧
      r.takeUp calls (moveOn r.collaborators moves (e.withRun run) world) =
        r.takeUp calls' (moveOn r.collaborators moves' (e.withRun
          { run.complete step.id (replies.outputs call) with status := .running }) world') := by
  obtain ⟨call, hcall⟩ := tracks.consistent.exists_call wf hstep hcursor works
  obtain ⟨moves, rfl⟩ : ∃ m, moves = m + 1 := ⟨moves - 1, by omega⟩
  obtain ⟨calls, rfl⟩ : ∃ n, calls = n + 1 := ⟨calls - 1, by omega⟩
  rw [moveOn, move_of_enter _ hstep hcursor]
  rcases enter_of_call? serves world hcall with
    ⟨invocation, rfl, hid, ⟨parameters, hact⟩, henter⟩ | ⟨world', henter, made⟩
  · rw [henter]
    obtain ⟨world', made, taken⟩ := takeUp_awaitingTool serves all wf hstep hact
      { run with status := .awaitingTool invocation } rfl calls world
    refine ⟨_, e.maxMoves, calls, world', hcall, made, ?_, by omega, ?_⟩
    · rw [maxMoves]
      omega
    · rw [← hid]
      exact taken
  · rw [henter]
    refine ⟨call, moves, calls + 1, world', hcall, made, by omega, by omega, ?_⟩
    dsimp only
    have same : ({ run.complete step.id (replies.outputs call) with status := .running } : Run) =
        run.complete step.id (replies.outputs call) := withStatus_self running
    rw [withRun_withRun, same]

/-- What has become of a run that was driven through the steps of `walk`: it has ended at the last
of them, or stands there before a choice. -/
structure Driven (schemas : Schemas) (g : Graph) (entry : String) (replies : Replies)
    (walk : List String) (run run' : Run) : Prop where
  tracks : run'.Tracks schemas g entry replies
  trail_eq : run'.trail = run.trail ++ walk
  settled : run'.status = .completed ∨ ∃ id labels, run'.status = .awaitingBranch id labels
  ahead_eq : ∃ last, walk.getLast? = some last ∧
    g.ahead run'.cursor = (g.successors last).flatMap g.reachable
  accounts : g.Accounts schemas entry replies walk (g.callsAlong replies run.trail walk)
    ([run'].filter fun run => run.status = .completed)

namespace Driven

variable {schemas : Schemas} {g : Graph} {call : Call}

theorem finish (wf : g.WellFormed schemas entry) (tracks : run.Tracks schemas g entry replies)
    (hstep : g.step? step.id = some step)
    (hcursor : run.cursor = .enter step.id) (final : step.action = .final) :
    Driven schemas g entry replies [step.id] run (run.finish step.id) := by
  have nowhere : g.successors step.id = [] := by
    rw [Graph.successors_of_step? hstep, Step.targets,
      (wf.ends_iff_final step (Graph.mem_stepList_of_step? hstep)).2 final]
    rfl
  have silent := (tracks.call?_eq hstep).trans (Step.call?_eq_none_of_final final _)
  have finished := tracks.finish hstep hcursor final
  refine ⟨finished, rfl, .inl rfl, ⟨step.id, rfl, ?_⟩, ?_⟩
  · rw [nowhere]
    rfl
  · rw [Graph.callsAlong_of_none silent]
    exact .finished hstep final (by simp [Run.finish]) rfl finished

/-- A working step is executed, and then the run waits at the branch that it leads to. -/
theorem wait (wf : g.WellFormed schemas entry) (all : replies.AreComplete schemas)
    (tracks : run.Tracks schemas g entry replies)
    (hstep : g.step? step.id = some step) (hcursor : run.cursor = .enter step.id)
    (works : step.action ≠ .final) (several : 2 ≤ step.transitions.length)
    (hcall : step.call? run.state = some call) :
    Driven schemas g entry replies [step.id] run
      { run.complete step.id (replies.outputs call) with
        status := .awaitingBranch step.id step.labels } := by
  have done := tracks.complete wf all hstep hcursor hcall
  refine ⟨⟨?_, done.state_eq⟩, rfl, .inr ⟨_, _, rfl⟩, ⟨step.id, rfl, rfl⟩, ?_⟩
  · refine done.consistent.withStatus (by simp [Run.complete]) rfl (by simp) ?_
    rintro id labels heq
    obtain ⟨rfl, rfl⟩ := RunStatus.awaitingBranch.inj heq
    exact ⟨rfl, step, hstep, several, rfl⟩
  · have called := (tracks.call?_eq hstep).trans hcall
    rw [Graph.callsAlong_of_some called]
    exact .executed hstep works (tracks.consistent.entering _ hcursor) called

/-- A working step is executed, and then the run is driven on from the step behind it. -/
theorem cons {target : String} {rest : List String} {run' : Run}
    (tracks : run.Tracks schemas g entry replies)
    (hstep : g.step? step.id = some step) (hcursor : run.cursor = .enter step.id)
    (works : step.action ≠ .final) (hcall : step.call? run.state = some call)
    (driven : Driven schemas g entry replies rest
      ({ run.complete step.id (replies.outputs call) with status := .running }.goTo target) run') :
    Driven schemas g entry replies (step.id :: rest) run run' := by
  obtain ⟨tracks', trail_eq, settled, ⟨stop, hstop, ahead_eq⟩, accounts⟩ := driven
  refine ⟨tracks', ?_, settled, ⟨stop, ?_, ahead_eq⟩, ?_⟩
  · rw [trail_eq]
    simp [Run.goTo, Run.complete]
  · rw [List.getLast?_cons, hstop]
    rfl
  · have called := (tracks.call?_eq hstep).trans hcall
    rw [Graph.callsAlong_of_some called]
    exact (Graph.Accounts.executed hstep works (tracks.consistent.entering _ hcursor)
      called).append accounts

end Driven

/-- A run that enters the first step of a course is driven along it. -/
theorem takeUp_course (serves : r.Serves replies after) (all : replies.AreComplete e.schemas)
    (wf : e.graph.WellFormed e.schemas entry) {id : String} {walk : List String}
    (course : Course e.graph r.collaborators after id walk)
    (tracks : run.Tracks e.schemas e.graph entry replies) (hcursor : run.cursor = .enter id)
    (running : run.status = .running) (hmoves : 2 * walk.length ≤ moves)
    (hcalls : walk.length ≤ calls) (hsize : walk.length ≤ e.graph.steps.size) (world : World) :
    ∃ run' world',
      r.takeUp calls (moveOn r.collaborators moves (e.withRun run) world) =
        (e.withRun run', world') ∧
      Driven e.schemas e.graph entry replies walk run run' ∧
      after world ((e.graph.callsAlong replies run.trail walk).map (·.2)) world' := by
  induction course generalizing run moves calls world with
  | @ends step hstep final =>
      obtain ⟨moves, rfl⟩ : ∃ m, moves = m + 1 := ⟨moves - 1, by simp at hmoves; omega⟩
      have finished : enter r.collaborators run step world =
          (.stops (run.finish step.id), world) := by
        rw [enter, final]
      have silent := (tracks.call?_eq hstep).trans (Step.call?_eq_none_of_final final _)
      rw [moveOn, move_of_enter _ hstep hcursor, finished, Graph.callsAlong_of_none silent]
      exact ⟨run.finish step.id, world, rfl, .finish wf tracks hstep hcursor final,
        serves.refl world⟩
  | @waits step hstep works several unattended =>
      obtain ⟨call, moves', calls', world', hcall, made, hmoves', _, executed⟩ :=
        takeUp_executes serves all wf tracks hstep hcursor running works 0 hmoves hcalls hsize world
      obtain ⟨moves', rfl⟩ : ∃ m, moves' = m + 1 := ⟨moves' - 1, by omega⟩
      have called := (tracks.call?_eq hstep).trans hcall
      rw [executed, moveOn, move_of_leave _ hstep rfl, leave_of_unattended unattended several,
        Graph.callsAlong_of_some called]
      exact ⟨_, world', rfl, .wait wf all tracks hstep hcursor works several hcall, made⟩
  | @goesOn step target rest hstep works htarget takes course ih =>
      obtain ⟨call, moves', calls', world', hcall, made, hmoves', hcalls', executed⟩ :=
        takeUp_executes serves all wf tracks hstep hcursor running works rest.length hmoves hcalls
          hsize world
      obtain ⟨moves', rfl⟩ : ∃ m, moves' = m + 1 := ⟨moves' - 1, by omega⟩
      have done := tracks.complete wf all hstep hcursor hcall
      have hnext : target ∈ e.graph.successors step.id := by
        rw [Graph.successors_of_step? hstep]
        exact htarget
      obtain ⟨world'', left, quiet⟩ := takes
        { run.complete step.id (replies.outputs call) with status := .running } world' rfl
      have called := (tracks.call?_eq hstep).trans hcall
      have enough : 2 * rest.length ≤ moves' := by omega
      rw [executed, moveOn, move_of_leave _ hstep rfl, left, Graph.callsAlong_of_some called]
      obtain ⟨run', world', reached, driven, made'⟩ :=
        ih (done.goTo wf rfl hnext) rfl rfl enough hcalls' (Nat.le_of_succ_le hsize) world''
      exact ⟨run', world', reached, driven.cons tracks hstep hcursor works hcall,
        serves.trans made (serves.trans quiet made')⟩

/-- A course is a walk. -/
theorem exists_walk_of_course {g : Graph} {c : Collaborators World} {id : String}
    {walk : List String} (course : Course g c after id walk) : ∃ last, g.Walk id last walk := by
  induction course with
  | @ends step hstep _ => exact ⟨step.id, .start ((Graph.contains_iff _ _).2 ⟨step, hstep⟩)⟩
  | @waits step hstep _ _ _ => exact ⟨step.id, .start ((Graph.contains_iff _ _).2 ⟨step, hstep⟩)⟩
  | @goesOn step target rest hstep _ htarget _ _ ih =>
      obtain ⟨last, w⟩ := ih
      have hnext : target ∈ g.successors step.id := by
        rw [Graph.successors_of_step? hstep]
        exact htarget
      exact ⟨last, w.cons hnext⟩

/-- A run that enters a step is driven to the end of its course, and makes the calls of the steps on
it. -/
theorem drive_course (serves : r.Serves replies after) (all : replies.AreComplete e.schemas)
    (wf : e.graph.WellFormed e.schemas entry)
    (tracks : e.run.Tracks e.schemas e.graph entry replies)
    (hopen : e.run.status = .pending ∨ e.run.status = .running) {id : String}
    (hcursor : e.run.cursor = .enter id) {walk : List String}
    (course : Course e.graph r.collaborators after id walk) (world : World) :
    ∃ run' world', r.drive e world = (e.withRun run', world') ∧
      Driven e.schemas e.graph entry replies walk e.run run' ∧
      after world ((e.graph.callsAlong replies e.run.trail walk).map (·.2)) world' := by
  obtain ⟨last, w⟩ := exists_walk_of_course course
  have hsize := w.length_le wf.acyclic
  have begun : ({ e.run with status := .running } : Run).Tracks e.schemas e.graph entry replies :=
    ⟨tracks.consistent.withStatus (by simp [hcursor]) rfl (by simp) (by simp), tracks.state_eq⟩
  have enough : 2 * walk.length ≤ e.maxMoves := by
    rw [maxMoves]
    omega
  obtain ⟨run', world', heq, driven, made⟩ :=
    takeUp_course serves all wf course begun hcursor rfl enough hsize hsize world
  refine ⟨run', world', ?_,
    ⟨driven.tracks, driven.trail_eq, driven.settled, driven.ahead_eq, driven.accounts⟩, made⟩
  rw [drive, driveWithin_of_open hopen]
  exact heq

/-! ## The course of an unattended run -/

/-- Without a selector there is a course from each step, and behind its end lies all that it does
not pass itself. -/
theorem exists_course {g : Graph} {schemas : Schemas} (serves : r.Serves replies after)
    (wf : g.WellFormed schemas entry) (unattended : r.collaborators.selector = none) {id : String}
    (h : g.contains id = true) :
    ∃ walk last, Course g r.collaborators after id walk ∧ walk.getLast? = some last ∧
      (g.reachable id).Perm (walk ++ (g.successors last).flatMap g.reachable) := by
  induction hn : (g.reachable id).length using Nat.strong_induction_on generalizing id with
  | _ n ih =>
      obtain ⟨step, hstep⟩ := (Graph.contains_iff g id).1 h
      obtain rfl := Graph.id_of_step? hstep
      have below := wf.reachable_perm h
      by_cases final : step.action = .final
      · exact ⟨_, step.id, .ends hstep final, rfl, below⟩
      · have ways := mt (wf.ends_iff_final step (Graph.mem_stepList_of_step? hstep)).1 final
        rcases htransitions : step.transitions with _ | ⟨only, _ | ⟨second, others⟩⟩
        · exact absurd htransitions ways
        · have single : g.successors step.id = [only.target] := by
            rw [Graph.successors_of_step? hstep, Step.targets, htransitions]
            rfl
          have hnext : only.target ∈ g.successors step.id := by
            rw [single]
            exact List.mem_singleton_self _
          rw [single, List.flatMap_singleton] at below
          have fewer : (g.reachable only.target).length < n := by
            rw [← hn, below.length_eq]
            exact Nat.lt_succ_self _
          obtain ⟨walk, last, course, hlast, rest⟩ := ih _ fewer (wf.contains_target hnext) rfl
          rw [Graph.successors_of_step? hstep] at hnext
          refine ⟨step.id :: walk, last,
            .goesOn hstep final hnext (takes_of_single serves.refl htransitions) course, ?_, ?_⟩
          · rw [List.getLast?_cons, hlast]
            rfl
          · exact below.trans (rest.cons step.id)
        · have several : 2 ≤ step.transitions.length := by simp [htransitions]
          exact ⟨_, step.id, .waits hstep final several unattended, rfl, below⟩

/-! ## The course of a steered run -/

/-- At every branch of the walk the selector of the runner picks the transition that the
walk takes. -/
def Steers (r : Runner World) (g : Graph) (walk : List String) : Prop :=
  ∃ select, r.collaborators.selector = some select ∧
    ∀ before id next rest step, walk = before ++ id :: next :: rest → g.step? id = some step →
      2 ≤ step.transitions.length → ∀ state world, ∃ t ∈ step.transitions, t.target = next ∧
        (select step state world).1 = .ok t.label

/-- A steered run takes the walk to a final step. -/
theorem course_of_steers {g : Graph} {schemas : Schemas} (wf : g.WellFormed schemas entry)
    {id last : String} {walk : List String} (w : g.Walk id last walk)
    (hlast : g.step? last = some step) (final : step.action = .final) (steers : r.Steers g walk) :
    Course g r.collaborators (fun _ _ _ => True) id walk := by
  induction walk generalizing id with
  | nil => exact absurd rfl w.ne_nil
  | cons head tail ih =>
      rcases w.cases_head with ⟨rfl, hwalk⟩ | ⟨next, rest, hnext, v, hwalk⟩
      · obtain ⟨rfl, rfl⟩ := List.cons.inj hwalk
        obtain rfl := Graph.id_of_step? hlast
        exact .ends hlast final
      · obtain ⟨rfl, rfl⟩ := List.cons.inj hwalk
        obtain ⟨select, hselect, picks⟩ := steers
        obtain ⟨here, hhere, htarget⟩ := (Graph.mem_successors_iff g head next).1 hnext
        obtain rfl := Graph.id_of_step? hhere
        have hmem := Graph.mem_stepList_of_step? hhere
        have works : here.action ≠ .final := by
          intro hfinal
          rw [Step.targets, (wf.ends_iff_final here hmem).2 hfinal] at htarget
          cases htarget
        have further : r.Steers g tail :=
          ⟨select, hselect, fun before id next' rest' step heq =>
            picks (here.id :: before) id next' rest' step (by rw [heq]; rfl)⟩
        refine .goesOn hhere works htarget ?_ (ih v further)
        -- The walk goes on with `next`, which is what the selector picks.
        obtain ⟨rest, rfl⟩ : ∃ rest, tail = next :: rest := by
          rcases v.cases_head with ⟨_, htail⟩ | ⟨_, rest, _, _, htail⟩
          · exact ⟨[], htail⟩
          · exact ⟨rest, htail⟩
        by_cases several : 2 ≤ here.transitions.length
        · intro run world running
          obtain ⟨t, ht, rfl, hpick⟩ :=
            picks [] here.id next rest here rfl hhere several run.state world
          obtain ⟨world', hselected⟩ :
              ∃ world', select here run.state world = (.ok t.label, world') :=
            ⟨_, Prod.ext hpick rfl⟩
          have nodup := wf.labels_nodup here hmem
          exact ⟨world', leave_of_selected hselect several nodup ht hselected, trivial⟩
        · obtain ⟨only, honly⟩ : ∃ only, here.transitions = [only] := by
            rcases htransitions : here.transitions with _ | ⟨only, _ | ⟨second, others⟩⟩
            · rw [Step.targets, htransitions] at htarget
              cases htarget
            · exact ⟨only, rfl⟩
            · simp [htransitions] at several
          obtain rfl : next = only.target := by simpa [Step.targets, honly] using htarget
          exact takes_of_single (fun _ => trivial) honly

end Course

end Runner

end Workflow
