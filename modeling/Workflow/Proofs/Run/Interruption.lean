import Workflow.Proofs.Run.Halting
import Workflow.Proofs.Run.Saved

/-!
# Interrupted runs

A run that is saved, loaded and restored between operations goes on as if nothing had happened,
wherever its record is loaded as it was saved. The values in the record stay canonical: what a tool
is called with is put together from the parameters of its step and from recorded values.

Main statements: `effectsAcross_eq`, interruptions do not show in what the operations do, and
`Operation.perform_isCanonical`, an operation leaves canonical records.
-/

namespace Workflow

/-! ## Canonical values in runs -/

section Resolving

variable {state : State} {step : String}

theorem State.IsCanonical.resolve (canonical : state.IsCanonical) {reference : Reference}
    {value : Json} (h : state.resolve step reference = .ok value) : value.IsCanonical := by
  cases reference with
  | artifact name => cases h
  | output source field =>
      simp only [State.resolve, State.field?] at h
      cases hstep : state.get? source with
      | none => simp [hstep] at h
      | some outputs =>
          cases hfield : outputs.get? field with
          | none => simp [hstep, hfield] at h
          | some recorded =>
              simp only [hstep, Option.bind_some, hfield] at h
              cases h
              have within := canonical _ ((Dict.get?_eq_some_iff _ _ _).1 hstep)
              exact within _ ((Dict.get?_eq_some_iff _ _ _).1 hfield)

theorem State.IsCanonical.resolveString (canonical : state.IsCanonical) {text : String}
    {value : Json} (h : Workflow.resolveString step text state = .ok value) :
    value.IsCanonical := by
  unfold Workflow.resolveString at h
  split at h
  · exact canonical.resolve h
  · obtain ⟨chars, _, rfl⟩ := Except.exists_of_map_eq_ok h
    trivial

mutual

/-- Resolving a canonical value in a canonical state gives a canonical value. -/
theorem isCanonical_of_resolveValue (canonical : state.IsCanonical) : ∀ value value' : Json,
    value.IsCanonical → resolveValue step state value = .ok value' → value'.IsCanonical
  | .null, _, _, h | .bool _, _, _, h | .int _, _, _, h => by
      cases h
      trivial
  | .float _, _, c, h => by
      cases h
      exact c
  | .text _, _, _, h => canonical.resolveString h
  | .array items, _, c, h => by
      obtain ⟨items', hitems, rfl⟩ := Except.exists_of_map_eq_ok h
      exact itemsCanonical_of_resolveItems canonical items items' c hitems
  | .object fields, _, c, h => by
      obtain ⟨fields', hfields, rfl⟩ := Except.exists_of_map_eq_ok h
      obtain ⟨keys, values⟩ := fieldsCanonical_of_resolveFields canonical fields fields' c.2 hfields
      refine ⟨?_, values⟩
      rw [← List.pairwise_map (R := (· < ·)), keys, List.pairwise_map]
      exact c.1

theorem itemsCanonical_of_resolveItems (canonical : state.IsCanonical) : ∀ items items' : List Json,
    Json.ItemsCanonical items → resolveItems step state items = .ok items' →
      Json.ItemsCanonical items'
  | [], _, _, h => by
      cases h
      trivial
  | item :: rest, _, c, h => by
      obtain ⟨value, hvalue, h⟩ := Except.exists_of_bind_eq_ok h
      obtain ⟨values, hvalues, h⟩ := Except.exists_of_bind_eq_ok h
      cases h
      exact ⟨isCanonical_of_resolveValue canonical item value c.1 hvalue,
        itemsCanonical_of_resolveItems canonical rest values c.2 hvalues⟩

/-- Resolving keeps the keys of fields. -/
theorem fieldsCanonical_of_resolveFields (canonical : state.IsCanonical) :
    ∀ fields fields' : List (String × Json), Json.FieldsCanonical fields →
      resolveFields step state fields = .ok fields' →
        fields'.map (·.1) = fields.map (·.1) ∧ Json.FieldsCanonical fields'
  | [], _, _, h => by
      cases h
      exact ⟨rfl, trivial⟩
  | (key, item) :: rest, _, c, h => by
      obtain ⟨value, hvalue, h⟩ := Except.exists_of_bind_eq_ok h
      obtain ⟨fields, hfields, h⟩ := Except.exists_of_bind_eq_ok h
      cases h
      obtain ⟨keys, values⟩ := fieldsCanonical_of_resolveFields canonical rest fields c.2 hfields
      exact ⟨congrArg (key :: ·) keys,
        isCanonical_of_resolveValue canonical item value c.1 hvalue, values⟩

end

theorem allCanonical_of_resolveParameters (canonical : state.IsCanonical)
    {parameters resolved : Fields} (c : parameters.AllCanonical)
    (h : resolveParameters step parameters state = .ok resolved) :
    resolved.AllCanonical := by
  obtain ⟨fields, hfields, rfl⟩ := Except.exists_of_map_eq_ok h
  have values := (fieldsCanonical_of_resolveFields canonical _ _
    ((Json.fieldsCanonical_iff _).2 c) hfields).2
  intro p hp
  exact (Json.fieldsCanonical_iff _).1 values p (Dict.mem_of_mem_ofList hp)

end Resolving

/-! ## Canonical records -/

variable {World : Type}

namespace Run.IsCanonical

variable {run run' : Run}

/-- What is called counts only while a tool is waited for. -/
theorem of_state (recorded : run.state.IsCanonical)
    (waits : ∀ invocation, run.status ≠ .awaitingTool invocation) : run.IsCanonical where
  recorded := recorded
  called invocation waiting := absurd waiting (waits invocation)

theorem commit (canonical : run.IsCanonical) (step : String) {outputs : Fields}
    (h : outputs.AllCanonical) : (run.state.commit step outputs).IsCanonical := by
  intro p hp
  rcases Dict.mem_of_mem_insert hp with rfl | old
  · exact h
  · exact canonical.recorded p old

end Run.IsCanonical

namespace Engine

/-- The result of a tool is handed in with canonical values. -/
def Operation.IsCanonical : Operation World → Prop
  | .resume outputs => outputs.AllCanonical
  | _ => True

theorem Progress.isCanonical {g : Graph} {run : Run} {m : Move} (p : Progress g run m)
    (steps : ∀ step ∈ g.stepList, step.IsCanonical) (canonical : run.IsCanonical)
    (running : run.status = .running) : m.run.IsCanonical := by
  cases p with
  | finished _ _ _ => exact .of_state canonical.recorded (by simp [Move.run, Run.finish])
  | called hstep _ hact resolved =>
      refine ⟨canonical.recorded, ?_⟩
      rintro invocation heq
      obtain rfl := RunStatus.awaitingTool.inj heq
      have given := steps _ (Graph.mem_stepList_of_step? hstep) _ _ hact
      exact allCanonical_of_resolveParameters canonical.recorded given resolved
  | @answered step _ answer _ _ _ =>
      have response : (Dict.empty.insert "response" (Json.text answer)).AllCanonical := by
        intro p hp
        obtain rfl := List.mem_singleton.1 hp
        trivial
      refine .of_state (canonical.commit step.id response) ?_
      simp [Move.run, Run.complete, running]
  | left _ _ _ => exact .of_state canonical.recorded (by simp [Move.run, Run.goTo])
  | undecided _ _ _ => exact .of_state canonical.recorded (by simp [Move.run])
  | failed _ _ => exact .of_state canonical.recorded (by simp [Move.run, Move.failed, Run.fail])

variable {entry : String} {e : Engine}

theorem moveOn_isCanonical (c : Collaborators World) (moves : Nat) (e : Engine) (world : World)
    (wf : e.graph.WellFormed e.schemas entry) (hc : e.run.Consistent e.schemas e.graph entry)
    (running : e.run.status = .running) (steps : ∀ step ∈ e.graph.stepList, step.IsCanonical)
    (canonical : e.run.IsCanonical) : (moveOn c moves e world).engine.run.IsCanonical := by
  induction moves generalizing e world with
  | zero => exact canonical
  | succ moves ih =>
      have progress := move_progress c e world wf hc running
      have follows := progress.follows wf hc running
      have after := progress.isCanonical steps canonical running
      rw [moveOn]
      split
      · next run world' hmove =>
          rw [hmove] at progress follows after
          exact ih (e.withRun run) world' wf follows.consistent (progress.running running)
            steps after
      · next run world' hmove =>
          rw [hmove] at after
          exact after
      · next run error world' hmove =>
          rw [hmove] at after
          exact after

section

variable (canonical : e.run.IsCanonical)

include canonical

theorem advance_isCanonical (c : Collaborators World) (world : World)
    (wf : e.graph.WellFormed e.schemas entry) (hc : e.run.Consistent e.schemas e.graph entry)
    (steps : ∀ step ∈ e.graph.stepList, step.IsCanonical) :
    (e.advance c world).engine.run.IsCanonical := by
  by_cases h : e.run.IsOpen
  · have first : Follows entry e e.begun := begin_follows hc h
    rw [advance_of_open h]
    refine moveOn_isCanonical c _ e.begun world wf first.consistent rfl steps ?_
    exact .of_state canonical.recorded (by simp [begun])
  · rw [advance_of_not_open h]
    exact canonical

theorem resume_isCanonical {outputs : Fields} (given : outputs.AllCanonical) :
    (e.resume outputs).2.run.IsCanonical := by
  unfold resume
  split
  · next invocation _ =>
      split
      · exact .of_state (canonical.commit invocation.step given) (by simp)
      · exact .of_state canonical.recorded (by simp [failWith, Run.fail])
  · exact canonical

theorem failTool_isCanonical (message : String) : (e.failTool message).2.run.IsCanonical := by
  unfold failTool
  split
  · exact .of_state canonical.recorded (by simp [Run.fail])
  · exact canonical

theorem chooseBranch_isCanonical (label : String) : (e.chooseBranch label).2.run.IsCanonical := by
  unfold chooseBranch
  split
  · split
    · exact canonical
    · split
      · next hfollow =>
          obtain ⟨t, _, _, rfl⟩ := follow_eq_ok hfollow
          exact .of_state canonical.recorded (by simp [Run.goTo])
      · exact .of_state canonical.recorded (by simp [failWith, Run.fail])
  · exact canonical

theorem abort_isCanonical : e.abort.2.run.IsCanonical := by
  unfold abort
  split
  · exact canonical
  · refine .of_state ?_ (by simp)
    intro p hp
    cases hp

theorem fork_isCanonical (newId : World → String × World) (world : World) :
    ∀ e' ∈ ((Operation.fork newId).perform e world).engines, e'.run.IsCanonical := by
  have alone (error : RunError) : ∀ e' ∈ (⟨some error, e, []⟩ : Effect).engines,
      e'.run.IsCanonical := by
    intro e' he'
    obtain rfl := List.mem_singleton.1 he'
    exact canonical
  unfold Operation.perform fork
  cases e.run.status with
  | awaitingBranch id labels =>
      dsimp only
      cases e.step id with
      | error error => exact alone error
      | ok step =>
          intro e' he'
          rcases List.mem_cons.1 he' with rfl | child
          · exact canonical
          · obtain ⟨_, _, _, rfl⟩ := exists_of_mem_forkAlong _ _ _ child
            exact .of_state canonical.recorded (by simp [forkedRun, Run.goTo])
  | _ => exact alone _

/-- An operation leaves canonical records, forked ones included, if what is handed in
is canonical. -/
theorem Operation.perform_isCanonical (op : Operation World) (world : World)
    (wf : e.graph.WellFormed e.schemas entry) (hc : e.run.Consistent e.schemas e.graph entry)
    (steps : ∀ step ∈ e.graph.stepList, step.IsCanonical) (given : op.IsCanonical) :
    ∀ e' ∈ (op.perform e world).engines, e'.run.IsCanonical := by
  have single {error? : Option RunError} {left : Engine} (h : left.run.IsCanonical) :
      ∀ e' ∈ (⟨error?, left, []⟩ : Effect).engines, e'.run.IsCanonical := by
    intro e' he'
    obtain rfl := List.mem_singleton.1 he'
    exact h
  cases op with
  | advance c => exact single (advance_isCanonical canonical c world wf hc steps)
  | resume outputs => exact single (resume_isCanonical canonical given)
  | failTool message => exact single (failTool_isCanonical canonical message)
  | chooseBranch label => exact single (chooseBranch_isCanonical canonical label)
  | abort => exact single (abort_isCanonical canonical)
  | fork newId => exact fork_isCanonical canonical newId world

end

/-! ## Interruptions -/

/-- An operation that is to be performed next, before which the run may be interrupted. -/
structure Turn (World : Type) where
  operation : Operation World
  world : World
  interrupted : Bool

/-- What operations do one after the other, each on the engine that the one before has left. -/
def effects (e : Engine) : List (Turn World) → List Effect
  | [] => []
  | turn :: rest =>
      let effect := turn.operation.perform e turn.world
      effect :: effects effect.engine rest

/-- The records at which the run is interrupted. -/
def interruptions (e : Engine) : List (Turn World) → List Run
  | [] => []
  | turn :: rest =>
      let others := interruptions (turn.operation.perform e turn.world).engine rest
      if turn.interrupted then e.run :: others else others

/-- The engine on which an operation is performed: at an interruption the record is saved, and an
engine is restored from what is loaded. -/
def Turn.engine? (load : Run → Option Run) (turn : Turn World) (e : Engine) : Option Engine :=
  if turn.interrupted then
    (load e.run).bind fun run => (restore e.graph e.schemas run).toOption
  else some e

/-- What operations do across interruptions; nothing if a record cannot be loaded or restored. -/
def effectsAcross (load : Run → Option Run) (e : Engine) : List (Turn World) → Option (List Effect)
  | [] => some []
  | turn :: rest => do
      let restored ← turn.engine? load e
      let effect := turn.operation.perform restored turn.world
      let others ← effectsAcross load effect.engine rest
      return effect :: others

variable {graph : Graph} {schemas : Schemas}

theorem Turn.engine?_of_loaded {load : Run → Option Run} (h : Reachable graph schemas e)
    {turn : Turn World} (loaded : turn.interrupted = true → load e.run = some e.run) :
    turn.engine? load e = some e := by
  unfold Turn.engine?
  split
  · next interrupted =>
      obtain ⟨rfl, rfl, _⟩ := h.consistent
      rw [loaded interrupted, Option.bind_some, h.restore_eq]
      rfl
  · rfl

/-- Interruptions do not show where the record is loaded as it was saved. -/
theorem effectsAcross_eq {load : Run → Option Run} (h : Reachable graph schemas e)
    (turns : List (Turn World)) (kept : ∀ run ∈ e.interruptions turns, load run = some run) :
    effectsAcross load e turns = some (e.effects turns) := by
  induction turns generalizing e with
  | nil => rfl
  | cons turn rest ih =>
      have next : Reachable graph schemas (turn.operation.perform e turn.world).engine :=
        h.operate turn.operation turn.world (List.mem_cons_self ..)
      rw [interruptions] at kept
      have restored : turn.engine? load e = some e := by
        apply Turn.engine?_of_loaded h
        intro interrupted
        apply kept
        simp [interrupted]
      have others := ih next fun run hrun => by
        apply kept
        split
        · exact List.mem_cons_of_mem _ hrun
        · exact hrun
      simp only [effectsAcross, restored, others, effects, Option.bind_eq_bind, Option.bind_some]
      rfl

/-- A record that cannot be loaded ends the run at the interruption. -/
theorem loaded_of_effectsAcross {load : Run → Option Run} (h : Reachable graph schemas e)
    (turns : List (Turn World))
    (faithful : ∀ run ∈ e.interruptions turns, load run = some run ∨ load run = none)
    {effects : List Effect} (done : effectsAcross load e turns = some effects) :
    ∀ run ∈ e.interruptions turns, load run = some run := by
  induction turns generalizing e effects with
  | nil =>
      intro run hrun
      cases hrun
  | cons turn rest ih =>
      have next : Reachable graph schemas (turn.operation.perform e turn.world).engine :=
        h.operate turn.operation turn.world (List.mem_cons_self ..)
      rw [effectsAcross, Option.bind_eq_bind, Option.bind_eq_some_iff] at done
      obtain ⟨restored, hrestored, done⟩ := done
      have here : turn.interrupted = true → load e.run = some e.run := by
        intro interrupted
        refine (faithful e.run (by simp [interruptions, interrupted])).resolve_right ?_
        intro missing
        simp [Turn.engine?, interrupted, missing] at hrestored
      rw [Turn.engine?_of_loaded h here] at hrestored
      cases hrestored
      simp only [Option.bind_eq_bind, Option.bind_eq_some_iff] at done
      obtain ⟨others, hothers, _⟩ := done
      rw [interruptions] at faithful ⊢
      cases interrupted : turn.interrupted with
      | true =>
          rw [interrupted, if_pos rfl] at faithful
          have later := ih next (fun run hrun => faithful run (List.mem_cons_of_mem _ hrun)) hothers
          intro run hrun
          rcases List.mem_cons.1 hrun with rfl | hrun
          · exact here interrupted
          · exact later run hrun
      | false =>
          rw [interrupted, if_neg Bool.false_ne_true] at faithful
          exact ih next faithful hothers

/-- The records at which a run is interrupted are canonical. -/
theorem interruptions_isCanonical (h : Reachable graph schemas e)
    (steps : ∀ step ∈ graph.stepList, step.IsCanonical) (canonical : e.run.IsCanonical)
    (turns : List (Turn World)) (given : ∀ turn ∈ turns, turn.operation.IsCanonical) :
    ∀ run ∈ e.interruptions turns, run.IsCanonical := by
  induction turns generalizing e with
  | nil =>
      intro run hrun
      cases hrun
  | cons turn rest ih =>
      have next : Reachable graph schemas (turn.operation.perform e turn.world).engine :=
        h.operate turn.operation turn.world (List.mem_cons_self ..)
      obtain ⟨rfl, rfl, entry, _, wf, hc⟩ := h.consistent
      have after : (turn.operation.perform e turn.world).engine.run.IsCanonical :=
        turn.operation.perform_isCanonical canonical turn.world wf hc steps
          (given turn (List.mem_cons_self ..)) _ (List.mem_cons_self ..)
      have others := ih next after fun other hother => given other (List.mem_cons_of_mem _ hother)
      intro run hrun
      rw [interruptions] at hrun
      split at hrun
      · rcases List.mem_cons.1 hrun with rfl | later
        · exact canonical
        · exact others run later
      · exact others run hrun

end Engine

end Workflow
