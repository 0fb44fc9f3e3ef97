import Workflow.Proofs.Run.Consistency
import Workflow.Proofs.Run.Operation

/-!
# What a move does

A move of a consistent run of a well-formed graph finds the step under the cursor and the values of
all that the step refers to. So it does one of six things, each of which keeps the run consistent
and what is recorded in it.

Main statements: `move_progress`, the six cases, and `move_follows`, what they have in common.
-/

namespace Workflow

variable {World : Type}

/-! ## Following an engine -/

/-- All that is recorded stays as it is. -/
def State.Within (state later : State) : Prop :=
  ∀ id outputs, state.get? id = some outputs → later.get? id = some outputs

/-- An engine that comes from another one by changing the record of the run: the record is
consistent, and unless the run was aborted nothing recorded was lost or overwritten. -/
structure Engine.Follows (entry : String) (e e' : Engine) : Prop where
  graph_eq : e'.graph = e.graph
  schemas_eq : e'.schemas = e.schemas
  consistent : e'.run.Consistent e.schemas e.graph entry
  kept : e'.run.status ≠ .aborted → e.run.state.Within e'.run.state

namespace Engine.Follows

variable {entry : String} {e e' e'' : Engine}

theorem refl (hc : e.run.Consistent e.schemas e.graph entry) : Follows entry e e :=
  ⟨rfl, rfl, hc, fun _ _ _ recorded => recorded⟩

/-- A record that holds the same outputs loses none. -/
theorem of_state_eq {run : Run} (hc : run.Consistent e.schemas e.graph entry)
    (h : run.state = e.run.state) : Follows entry e (e.withRun run) := by
  refine ⟨rfl, rfl, hc, fun _ id outputs recorded => ?_⟩
  rw [run_withRun, h]
  exact recorded

/-- The graph of the later engine is as good as that of the first one. -/
theorem wellFormed (h : Follows entry e e') (wf : e.graph.WellFormed e.schemas entry) :
    e'.graph.WellFormed e'.schemas entry := by
  rw [h.graph_eq, h.schemas_eq]
  exact wf

/-- The record is consistent in the later engine itself. -/
theorem consistent_there (h : Follows entry e e') :
    e'.run.Consistent e'.schemas e'.graph entry := by
  rw [h.graph_eq, h.schemas_eq]
  exact h.consistent

theorem trans (h : Follows entry e e') (open_run : e'.run.status ≠ .aborted)
    (k : Follows entry e' e'') : Follows entry e e'' where
  graph_eq := k.graph_eq.trans h.graph_eq
  schemas_eq := k.schemas_eq.trans h.schemas_eq
  consistent := by
    have later := k.consistent
    rw [h.graph_eq, h.schemas_eq] at later
    exact later
  kept open_last id outputs recorded := by
    have recorded' := h.kept open_run id outputs recorded
    exact k.kept open_last id outputs recorded'

/-- A step that completes overwrites nothing. -/
theorem complete (wf : e.graph.WellFormed e.schemas entry)
    (hc : e.run.Consistent e.schemas e.graph entry) {step : Step} {outputs : Fields}
    (hstep : e.graph.step? step.id = some step) (h : e.run.cursor = .enter step.id)
    (left : step.LeftBy e.schemas outputs) :
    Follows entry e (e.withRun { e.run.complete step.id outputs with status := .running }) := by
  refine ⟨rfl, rfl, hc.complete hstep h left, fun _ id recorded hrecorded => ?_⟩
  -- What is recorded belongs to another step, as this one was not completed before.
  have foreign : id ≠ step.id := by
    rintro rfl
    rw [hc.get?_eq_none wf h] at hrecorded
    cases hrecorded
  show (e.run.state.commit step.id outputs).get? id = some recorded
  rw [State.get?_commit, if_neg foreign]
  exact hrecorded

end Engine.Follows

/-! ## The cases of a move -/

namespace Engine

/-- The record that a move leaves. -/
def Move.run : Move → Run
  | .goesOn run | .stops run | .fails run _ => run

/-- The error of a move that fails. -/
def Move.error? : Move → Option RunError
  | .fails _ error => some error
  | _ => none

/-- What a move makes of a run in which nothing is missing. -/
inductive Progress (g : Graph) (run : Run) : Move → Prop where
  | finished {step : Step} : g.step? step.id = some step → run.cursor = .enter step.id →
      step.action = .final → Progress g run (.stops (run.finish step.id))
  | called {step : Step} {tool : String} {parameters resolved : Fields} :
      g.step? step.id = some step → run.cursor = .enter step.id →
      step.action = .tool tool parameters →
      resolveParameters step.id parameters run.state = .ok resolved →
      Progress g run (.stops { run with status := .awaitingTool ⟨step.id, tool, resolved⟩ })
  | answered {step : Step} {prompt answer : String} :
      g.step? step.id = some step → run.cursor = .enter step.id →
      step.action = .reasoning prompt →
      Progress g run
        (.goesOn (run.complete step.id (Dict.empty.insert "response" (.text answer))))
  | left {step : Step} {t : Transition} : g.step? step.id = some step →
      run.cursor = .leave step.id → t ∈ step.transitions →
      Progress g run (.goesOn (run.goTo t.target))
  | undecided {step : Step} : g.step? step.id = some step → run.cursor = .leave step.id →
      2 ≤ step.transitions.length →
      Progress g run (.stops { run with status := .awaitingBranch step.id step.labels })
  | failed {error : RunError} : run.cursor ≠ .idle → error.isMissing = false →
      Progress g run (.failed run error)

/-- The run with the status that it has. -/
theorem withStatus_self {run : Run} {status : RunStatus} (h : run.status = status) :
    { run with status } = run := by
  cases run
  cases h
  rfl

variable {g : Graph} {run : Run} {step : Step}

/-- A step whose action refers to nothing but recorded values is executed. -/
theorem enter_progress (c : Collaborators World) (world : World)
    (hstep : g.step? step.id = some step) (h : run.cursor = .enter step.id)
    (recorded : ∀ reference ∈ step.actionReferences, run.state.Records reference) :
    Progress g run (enter c run step world).1 := by
  have resolvable := (firstError?_eq_none_iff step.id run.state step.actionReferences).2 recorded
  have working : run.cursor ≠ .idle := by simp [h]
  unfold enter
  cases hact : step.action with
  | final => exact .finished hstep h hact
  | tool tool parameters =>
      have found : errorOf? (resolveParameters step.id parameters run.state) = none := by
        rw [errorOf?_resolveParameters step.id run.state tool parameters, ← hact]
        exact resolvable
      obtain ⟨resolved, hresolved⟩ := (errorOf?_eq_none_iff _).1 found
      simp only [enterTool, hresolved]
      exact .called hstep h hact hresolved
  | reasoning prompt =>
      have found : errorOf? (resolvePrompt step.id prompt run.state) = none := by
        have same : step.actionReferences = referencesInText prompt := by
          rw [Step.actionReferences, hact]
          rfl
        rw [errorOf?_resolvePrompt, ← same]
        exact resolvable
      obtain ⟨resolved, hresolved⟩ := (errorOf?_eq_none_iff _).1 found
      simp only [enterReasoning, hresolved]
      split
      · exact .failed working rfl
      · split
        · exact .answered hstep h hact
        · exact .failed working rfl

/-- A label that is followed is the label of the transition that is taken. -/
theorem follow_eq_ok {label : String} {run' : Run} (h : follow run step label = .ok run') :
    ∃ t ∈ step.transitions, t.label = label ∧ run' = run.goTo t.target := by
  unfold follow at h
  split at h
  · next t hfind =>
      cases h
      exact ⟨t, List.mem_of_find?_eq_some hfind, of_decide_eq_true (List.find?_some hfind :), rfl⟩
  · cases h

theorem follow_eq_error {label : String} {error : RunError}
    (h : follow run step label = .error error) : error = .noMatchingBranch step.id label := by
  unfold follow at h
  split at h
  · cases h
  · cases h
    rfl

/-- A running step with one transition takes it. -/
theorem leave_of_single (c : Collaborators World) (world : World) (running : run.status = .running)
    {only : Transition} (h : step.transitions = [only]) :
    leave c run step world = (.goesOn (run.goTo only.target), world) := by
  -- The status is kept on the only way, and set on a way that is chosen: they agree here.
  have same : { run with cursor := .enter only.target } = run.goTo only.target := by
    rw [Run.goTo, ← running]
  rw [leave, h]
  dsimp only
  rw [same]

/-- A step with transitions is left. -/
theorem leave_progress (c : Collaborators World) (world : World)
    (hstep : g.step? step.id = some step) (h : run.cursor = .leave step.id)
    (running : run.status = .running) (ways : step.transitions ≠ []) :
    Progress g run (leave c run step world).1 := by
  have working : run.cursor ≠ .idle := by simp [h]
  rcases htr : step.transitions with _ | ⟨only, _ | ⟨second, rest⟩⟩
  · exact absurd htr ways
  · rw [leave_of_single c world running htr]
    exact .left hstep h (by simp [htr])
  · unfold leave
    rw [htr]
    dsimp only
    split
    · exact .undecided hstep h (by simp [htr])
    · split
      · next error _ _ =>
          refine .failed working ?_
          cases error <;> rfl
      · next label _ _ =>
          split
          · next run' hfollow =>
              obtain ⟨t, ht, _, rfl⟩ := follow_eq_ok hfollow
              exact .left hstep h ht
          · next error hfollow =>
              rw [follow_eq_error hfollow]
              exact .failed working rfl

/-! ## Moves -/

variable {entry : String}

/-- A move of a run that is running does one of the six things. -/
theorem move_progress (c : Collaborators World) (e : Engine) (world : World)
    (wf : e.graph.WellFormed e.schemas entry) (hc : e.run.Consistent e.schemas e.graph entry)
    (running : e.run.status = .running) : Progress e.graph e.run (e.move c world).1 := by
  unfold move
  cases hcursor : e.run.cursor with
  | enter id =>
      obtain ⟨step, hstep⟩ :=
        (Graph.contains_iff e.graph id).1 (hc.entering id hcursor).contains_last
      obtain rfl := Graph.id_of_step? hstep
      simp only [Engine.step, hstep]
      exact enter_progress c world hstep hcursor (hc.action_recorded wf hstep hcursor)
  | leave id =>
      obtain ⟨_, step, hstep, works⟩ := hc.leaving id hcursor
      obtain rfl := Graph.id_of_step? hstep
      simp only [Engine.step, hstep]
      refine leave_progress c world hstep hcursor running ?_
      exact mt (wf.ends_iff_final step (Graph.mem_stepList_of_step? hstep)).1 works
  | idle =>
      -- Only a run that has ended stands nowhere.
      have ended := hc.idle_iff.1 hcursor
      rw [running] at ended
      cases ended

/-- Whatever a move does, it fails for nothing that is missing and leaves a consistent record that
keeps what was recorded. -/
theorem Progress.follows {e : Engine} {m : Move} (p : Progress e.graph e.run m)
    (wf : e.graph.WellFormed e.schemas entry) (hc : e.run.Consistent e.schemas e.graph entry)
    (running : e.run.status = .running) : Follows entry e (e.withRun m.run) := by
  cases p with
  | finished hstep h final => exact .of_state_eq (hc.finish hstep h final) rfl
  | called hstep h hact _ =>
      have working : e.run.cursor ≠ .idle := by simp [h]
      refine .of_state_eq (hc.withStatus working rfl ?_ (by simp)) rfl
      rintro invocation heq
      obtain rfl := RunStatus.awaitingTool.inj heq
      exact ⟨h, _, _, hstep, hact⟩
  | @answered step prompt answer hstep h hact =>
      have left : step.LeftBy e.schemas (Dict.empty.insert "response" (.text answer)) := by
        simp only [Step.LeftBy, hact]
        exact ⟨answer, rfl⟩
      have completes := Follows.complete wf hc hstep h left
      rwa [withStatus_self (by exact running)] at completes
  | left hstep h ht =>
      refine .of_state_eq (hc.goTo wf h ?_) rfl
      rw [Graph.successors_of_step? hstep]
      exact List.mem_map_of_mem ht
  | undecided hstep h several =>
      have working : e.run.cursor ≠ .idle := by simp [h]
      refine .of_state_eq (hc.withStatus working rfl (by simp) ?_) rfl
      rintro id labels heq
      obtain ⟨rfl, rfl⟩ := RunStatus.awaitingBranch.inj heq
      exact ⟨h, _, hstep, several, rfl⟩
  | failed working _ => exact .of_state_eq (hc.fail working _) rfl

theorem Progress.not_missing {m : Move} (p : Progress g run m) :
    ∀ error, m.error? = some error → error.isMissing = false := by
  intro error herror
  cases p with
  | failed _ found =>
      obtain rfl := Option.some.inj herror
      exact found
  | _ => cases herror

/-- A run that goes on is running. -/
theorem Progress.running {run' : Run} (p : Progress g run (.goesOn run'))
    (running : run.status = .running) : run'.status = .running := by
  cases p with
  | answered _ _ _ => exact running
  | left _ _ _ => rfl

end Engine

end Workflow
