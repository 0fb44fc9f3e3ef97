import Workflow.Proofs.Run.Operation
import Workflow.Proofs.Validation.Accepted

/-!
# Consistent runs

What the record of a run says about itself: status and cursor fit together, the trail is a path from
the entry that the cursor continues, and the state holds the outputs of just the steps on the trail
that write any. Each change that an operation can make to a record keeps this.

Main statements: one lemma for each change, from `Consistent.complete` to `Consistent.abort`, and
`action_recorded` and `label_recorded`, what is referred to is recorded when a step is reached.
-/

namespace Workflow

/-- The outputs are what a completed step leaves: all declared outputs of a tool, or the answer of a
reasoner and nothing else. -/
def Step.LeftBy (schemas : Schemas) (step : Step) (outputs : Fields) : Prop :=
  match step.action with
  | .tool name _ =>
      ∃ schema, schemas name = some schema ∧
        ∀ field ∈ schema.outputs, outputs.contains field = true
  | .reasoning _ => ∃ answer, outputs = Dict.empty.insert "response" (.text answer)
  | .final => False

/-- What a step writes is among the outputs that it leaves. -/
theorem Step.LeftBy.get?_isSome {schemas : Schemas} {step : Step} {outputs : Fields}
    {field : String} (left : step.LeftBy schemas outputs) (writes : step.Writes schemas field) :
    (outputs.get? field).isSome = true := by
  unfold Step.LeftBy at left
  unfold Step.Writes at writes
  cases hact : step.action with
  | final => simp [hact] at writes
  | reasoning prompt =>
      simp only [hact] at left writes
      obtain ⟨answer, rfl⟩ := left
      simp [writes]
  | tool name parameters =>
      simp only [hact] at left writes
      obtain ⟨schema, hschema, all⟩ := left
      obtain ⟨schema', hschema', hfield⟩ := writes
      obtain rfl := Option.some.inj (hschema.symm.trans hschema')
      exact all field hfield

theorem Step.LeftBy.not_final {schemas : Schemas} {step : Step} {outputs : Fields}
    (left : step.LeftBy schemas outputs) : step.action ≠ .final := by
  intro final
  simp [Step.LeftBy, final] at left

/-- The step with this id leaves outputs when it completes. -/
def Graph.Works (g : Graph) (id : String) : Prop :=
  ∃ step, g.step? id = some step ∧ step.action ≠ .final

/-- The record of a run of the graph from the entry fits together. -/
structure Run.Consistent (schemas : Schemas) (g : Graph) (entry : String) (run : Run) : Prop where
  idle_iff : run.cursor = .idle ↔ run.status.isTerminal = true
  entering : ∀ id, run.cursor = .enter id → g.Walk entry id (run.trail ++ [id])
  leaving : ∀ id, run.cursor = .leave id → g.Walk entry id run.trail ∧ g.Works id
  trail_walk : run.trail = [] ∨ ∃ last, g.Walk entry last run.trail
  recorded : run.status ≠ .aborted →
    ∀ id, (run.state.get? id).isSome = true ↔ id ∈ run.trail ∧ g.Works id
  left_by : ∀ id step outputs, g.step? id = some step → run.state.get? id = some outputs →
    step.LeftBy schemas outputs
  aborted : run.status = .aborted → run.state = .empty
  awaits_tool : ∀ invocation, run.status = .awaitingTool invocation →
    run.cursor = .enter invocation.step ∧
      ∃ step parameters, g.step? invocation.step = some step ∧
        step.action = .tool invocation.tool parameters
  awaits_branch : ∀ id labels, run.status = .awaitingBranch id labels →
    run.cursor = .leave id ∧
      ∃ step, g.step? id = some step ∧ 2 ≤ step.transitions.length ∧ labels = step.labels
  unfinished : run.status ≠ .completed → run.finished = []
  completed : run.status = .completed →
    run.finished = [run.trail] ∧
      ∃ last step, run.trail.getLast? = some last ∧ g.step? last = some step ∧
        step.action = .final

namespace Run.Consistent

variable {schemas : Schemas} {g : Graph} {entry id : String} {run : Run}

/-! ## What is recorded -/

theorem not_terminal (hc : run.Consistent schemas g entry) (h : run.cursor ≠ .idle) :
    run.status.isTerminal = false := by
  rw [← Bool.not_eq_true, ← hc.idle_iff]
  exact h

theorem not_aborted (hc : run.Consistent schemas g entry) (h : run.cursor ≠ .idle) :
    run.status ≠ .aborted := by
  intro heq
  have := hc.not_terminal h
  rw [heq] at this
  cases this

theorem not_completed (hc : run.Consistent schemas g entry) (h : run.cursor ≠ .idle) :
    run.status ≠ .completed := by
  intro heq
  have := hc.not_terminal h
  rw [heq] at this
  cases this

/-- The step that is reached next has not been completed before. -/
theorem not_mem_trail (wf : g.WellFormed schemas entry) (hc : run.Consistent schemas g entry)
    (h : run.cursor = .enter id) : id ∉ run.trail := by
  have nodup := (hc.entering id h).nodup wf.acyclic
  exact fun hmem => (List.disjoint_of_nodup_append nodup) hmem (List.mem_singleton_self id)

theorem get?_eq_none (wf : g.WellFormed schemas entry) (hc : run.Consistent schemas g entry)
    (h : run.cursor = .enter id) : run.state.get? id = none := by
  have working : run.cursor ≠ .idle := by simp [h]
  have := mt (fun some => ((hc.recorded (hc.not_aborted working) id).1 some).1)
    (hc.not_mem_trail wf h)
  simpa using this

/-- What a completed step writes is recorded. -/
theorem records_of_mem_trail (hc : run.Consistent schemas g entry) (h : run.status ≠ .aborted)
    {source field : String} (hmem : source ∈ run.trail)
    (writes : ∃ producer, g.step? source = some producer ∧ producer.Writes schemas field) :
    run.state.Records (.output source field) := by
  obtain ⟨producer, hp, hw⟩ := writes
  have some_outputs := (hc.recorded h source).2 ⟨hmem, producer, hp, hw.not_final⟩
  obtain ⟨outputs, houtputs⟩ := Option.isSome_iff_exists.1 some_outputs
  simpa [State.Records, State.field?, houtputs] using
    (hc.left_by source producer outputs hp houtputs).get?_isSome hw

/-- A step that is reached finds recorded what its action refers to. -/
theorem action_recorded (wf : g.WellFormed schemas entry) (hc : run.Consistent schemas g entry)
    {step : Step} (hstep : g.step? step.id = some step) (h : run.cursor = .enter step.id) :
    ∀ reference ∈ step.actionReferences, run.state.Records reference := by
  have hmem := Graph.mem_stepList_of_step? hstep
  intro reference href
  cases reference with
  | artifact name => exact absurd href (wf.no_artifact step hmem name).1
  | output source field =>
      obtain ⟨foreign, supplied⟩ := wf.action_supplied step hmem source field href
      have passed := supplied.passed _ (hc.entering step.id h)
      -- The path to the step is the trail and the step itself, which is not meant.
      have before : source ∈ run.trail :=
        (List.mem_append.1 passed).resolve_right fun own => foreign (List.mem_singleton.1 own)
      exact hc.records_of_mem_trail (hc.not_aborted (by simp [h])) before supplied.writes

/-- A step that is left finds recorded what its labels read, its own outputs among it. -/
theorem label_recorded (wf : g.WellFormed schemas entry) (hc : run.Consistent schemas g entry)
    {step : Step} (hstep : g.step? step.id = some step) (h : run.cursor = .leave step.id)
    {label : String} (hlabel : label ∈ step.labels) {source field : String}
    (reads : LabelReads label (.output source field)) :
    run.state.Records (.output source field) := by
  have supplied :=
    wf.label_supplied step (Graph.mem_stepList_of_step? hstep) label hlabel source field reads
  have passed := supplied.passed _ (hc.leaving step.id h).1
  exact hc.records_of_mem_trail (hc.not_aborted (by simp [h])) passed supplied.writes

/-! ## Changes of the record -/

/-- A run begins consistent. -/
theorem start (contains : g.contains entry = true) (id startedAt : String) :
    (Run.start id startedAt entry).Consistent schemas g entry where
  idle_iff := by simp [Run.start, RunStatus.isTerminal]
  entering := by
    intro id h
    obtain rfl := Cursor.enter.inj h
    exact .start contains
  leaving := by simp [Run.start]
  trail_walk := .inl rfl
  recorded := by simp [Run.start]
  left_by := by simp [Run.start]
  aborted := by simp [Run.start]
  awaits_tool := by simp [Run.start]
  awaits_branch := by simp [Run.start]
  unfinished := by simp [Run.start]
  completed := by simp [Run.start]

/-- A step that is reached completes with its outputs, and is left next. -/
theorem complete (hc : run.Consistent schemas g entry) {step : Step} {outputs : Fields}
    (hstep : g.step? step.id = some step) (h : run.cursor = .enter step.id)
    (left : step.LeftBy schemas outputs) :
    ({ run.complete step.id outputs with status := .running }).Consistent schemas g entry where
  idle_iff := by simp [Run.complete, RunStatus.isTerminal]
  entering := by simp [Run.complete]
  leaving := by
    intro id hid
    obtain rfl := Cursor.leave.inj hid
    exact ⟨hc.entering step.id h, step, hstep, left.not_final⟩
  trail_walk := .inr ⟨step.id, hc.entering step.id h⟩
  recorded := by
    intro _ id
    have before := hc.recorded (hc.not_aborted (by simp [h])) id
    simp only [Run.complete, State.get?_commit, List.mem_append, List.mem_singleton]
    -- State and trail grow by the same step.
    by_cases hid : id = step.id
    · subst hid
      simpa using ⟨step, hstep, left.not_final⟩
    · simpa [hid] using before
  left_by := by
    intro id other recorded hother hrecorded
    simp only [Run.complete, State.get?_commit] at hrecorded
    split at hrecorded
    · next hid =>
        obtain rfl := Option.some.inj hrecorded
        rw [hid, hstep] at hother
        obtain rfl := Option.some.inj hother
        exact left
    · exact hc.left_by id other recorded hother hrecorded
  aborted := by simp
  awaits_tool := by simp
  awaits_branch := by simp
  unfinished _ := hc.unfinished (hc.not_completed (by simp [h]))
  completed := by simp

/-- A final step that is reached ends the run. -/
theorem finish (hc : run.Consistent schemas g entry) {step : Step}
    (hstep : g.step? step.id = some step) (h : run.cursor = .enter step.id)
    (final : step.action = .final) : (run.finish step.id).Consistent schemas g entry where
  idle_iff := by simp [Run.finish, RunStatus.isTerminal]
  entering := by simp [Run.finish]
  leaving := by simp [Run.finish]
  trail_walk := .inr ⟨step.id, hc.entering step.id h⟩
  recorded := by
    intro _ id
    -- The trail grows by a step that leaves no outputs, and the state stays.
    have idle : ¬ g.Works step.id := by
      rintro ⟨other, hother, not_final⟩
      obtain rfl := Option.some.inj (hstep.symm.trans hother)
      exact not_final final
    rw [show (run.finish step.id).state = run.state from rfl,
      show (run.finish step.id).trail = run.trail ++ [step.id] from rfl,
      hc.recorded (hc.not_aborted (by simp [h])) id, List.mem_append, List.mem_singleton]
    constructor
    · rintro ⟨hmem, works⟩
      exact ⟨.inl hmem, works⟩
    · rintro ⟨hmem | rfl, works⟩
      · exact ⟨hmem, works⟩
      · exact absurd works idle
  left_by := hc.left_by
  aborted := by simp [Run.finish]
  awaits_tool := by simp [Run.finish]
  awaits_branch := by simp [Run.finish]
  unfinished := by simp [Run.finish]
  completed _ := by
    refine ⟨?_, step.id, step, by simp [Run.finish], hstep, final⟩
    simp [Run.finish, hc.unfinished (hc.not_completed (by simp [h]))]

/-- A step is left along one of its transitions. -/
theorem goTo (wf : g.WellFormed schemas entry) (hc : run.Consistent schemas g entry)
    {target : String} (h : run.cursor = .leave id) (htarget : target ∈ g.successors id) :
    (run.goTo target).Consistent schemas g entry where
  idle_iff := by simp [Run.goTo, RunStatus.isTerminal]
  entering := by
    intro id' hid
    obtain rfl := Cursor.enter.inj hid
    exact wf.walk_step (hc.leaving id h).1 htarget
  leaving := by simp [Run.goTo]
  trail_walk := hc.trail_walk
  recorded _ := hc.recorded (hc.not_aborted (by simp [h]))
  left_by := hc.left_by
  aborted := by simp [Run.goTo]
  awaits_tool := by simp [Run.goTo]
  awaits_branch := by simp [Run.goTo]
  unfinished _ := hc.unfinished (hc.not_completed (by simp [h]))
  completed := by simp [Run.goTo]

/-- A run that has not ended may change between the statuses in which it goes on, if it stands where
the new status says. -/
theorem withStatus (hc : run.Consistent schemas g entry) (h : run.cursor ≠ .idle)
    {status : RunStatus} (open_status : status.isTerminal = false)
    (tool : ∀ invocation, status = .awaitingTool invocation →
      run.cursor = .enter invocation.step ∧
        ∃ step parameters, g.step? invocation.step = some step ∧
          step.action = .tool invocation.tool parameters)
    (branch : ∀ id labels, status = .awaitingBranch id labels →
      run.cursor = .leave id ∧
        ∃ step, g.step? id = some step ∧ 2 ≤ step.transitions.length ∧ labels = step.labels) :
    ({ run with status }).Consistent schemas g entry where
  idle_iff := by simp [open_status, h]
  entering := hc.entering
  leaving := hc.leaving
  trail_walk := hc.trail_walk
  recorded _ := hc.recorded (hc.not_aborted h)
  left_by := hc.left_by
  aborted heq := by
    obtain rfl : status = .aborted := heq
    cases open_status
  awaits_tool := tool
  awaits_branch := branch
  unfinished _ := hc.unfinished (hc.not_completed h)
  completed heq := by
    obtain rfl : status = .completed := heq
    cases open_status

/-- A run that has not ended may fail. -/
theorem fail (hc : run.Consistent schemas g entry) (h : run.cursor ≠ .idle) (error : RunError) :
    (run.fail error).Consistent schemas g entry where
  idle_iff := by simp [Run.fail, RunStatus.isTerminal]
  entering := by simp [Run.fail]
  leaving := by simp [Run.fail]
  trail_walk := hc.trail_walk
  recorded _ := hc.recorded (hc.not_aborted h)
  left_by := hc.left_by
  aborted := by simp [Run.fail]
  awaits_tool := by simp [Run.fail]
  awaits_branch := by simp [Run.fail]
  unfinished _ := hc.unfinished (hc.not_completed h)
  completed := by simp [Run.fail]

/-- A run that has not ended may be aborted, and forgets what was recorded. -/
theorem abort (hc : run.Consistent schemas g entry) (h : run.cursor ≠ .idle) :
    ({ run with state := .empty, cursor := .idle, status := .aborted }).Consistent schemas g entry
    where
  idle_iff := by simp [RunStatus.isTerminal]
  entering := by simp
  leaving := by simp
  trail_walk := hc.trail_walk
  recorded := by simp
  left_by := by simp
  aborted := by simp
  awaits_tool := by simp
  awaits_branch := by simp
  unfinished _ := hc.unfinished (hc.not_completed h)
  completed := by simp

/-- Who a run is, and which run it was forked from, does not matter. -/
theorem withId (hc : run.Consistent schemas g entry) (id : String) (parent : Option String) :
    ({ run with id, parent }).Consistent schemas g entry :=
  { hc with }

end Run.Consistent

end Workflow
