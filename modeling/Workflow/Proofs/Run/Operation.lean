import Workflow.Proofs.Reference.Resolution
import Workflow.Run.Engine

/-!
# Operations on runs

All that can be done with a run is one of six operations. Whoever answers while a run advances is a
part of the operation, with a world of its own each time, so that a run made by operations has met
answers of any kind, failures and answers that depend on earlier ones among them.

`Reachable` holds of the engines that operations make of a new run, forked ones included.
-/

namespace Workflow

/-- Whether an operation failed because something was missing that validation promises: the value of
a placeholder, or a step. -/
def RunError.isMissing : RunError → Bool
  | .invalidReference .. | .stepNotFound _ => true
  | _ => false

namespace Engine

variable {World : Type}

/-- An operation on a run, with what is handed in or asked while it is performed. -/
inductive Operation (World : Type) where
  | advance (c : Collaborators World)
  | resume (outputs : Fields)
  | failTool (message : String)
  | chooseBranch (label : String)
  | abort
  | fork (newId : World → String × World)

/-- What an operation leaves behind: the error with which it failed, the engine on which it was
performed, and the engines that were forked from it. -/
structure Effect where
  error : Option RunError
  engine : Engine
  children : List Engine

/-- The engines that there are after an operation. -/
def Effect.engines (effect : Effect) : List Engine := effect.engine :: effect.children

/-- Performs an operation. -/
def Operation.perform (op : Operation World) (e : Engine) (world : World) : Effect :=
  match op with
  | .advance c => ⟨errorOf? (e.advance c world).result, (e.advance c world).engine, []⟩
  | .resume outputs => ⟨errorOf? (e.resume outputs).1, (e.resume outputs).2, []⟩
  | .failTool message => ⟨errorOf? (e.failTool message).1, (e.failTool message).2, []⟩
  | .chooseBranch label => ⟨errorOf? (e.chooseBranch label).1, (e.chooseBranch label).2, []⟩
  | .abort => ⟨errorOf? e.abort.1, e.abort.2, []⟩
  | .fork newId =>
      match (e.fork newId world).1 with
      | .ok children => ⟨none, e, children⟩
      | .error error => ⟨some error, e, []⟩

/-! ## Stages -/

/-- The engines that moving goes through, each as it is before a move. -/
def moveStages (c : Collaborators World) : Nat → Engine → World → List Engine
  | 0, _, _ => []
  | moves + 1, e, world =>
      e :: match e.move c world with
        | (.goesOn run, world) => moveStages c moves (e.withRun run) world
        | _ => []

/-- What moving leads to is what comes of a move at the last of these engines. -/
theorem moveOn_eq_moveOn_last (c : Collaborators World) (moves : Nat) (e : Engine) (world : World) :
    ∃ last world', (moveStages c (moves + 1) e world).getLast? = some last ∧
      moveOn c (moves + 1) e world = moveOn c 1 last world' := by
  induction moves generalizing e world with
  | zero =>
      refine ⟨e, world, ?_, rfl⟩
      rw [moveStages, List.getLast?_cons]
      split <;> rfl
  | succ moves ih =>
      rw [moveStages, List.getLast?_cons]
      cases hmove : e.move c world with
      | mk m world' =>
          cases m with
          | goesOn run =>
              obtain ⟨last, world'', hlast, heq⟩ := ih (e.withRun run) world'
              refine ⟨last, world'', ?_, ?_⟩
              · show some ((moveStages c (moves + 1) (e.withRun run) world').getLast?.getD e) = _
                rw [hlast]
                rfl
              · rw [moveOn, hmove]
                exact heq
          | stops run =>
              refine ⟨e, world, rfl, ?_⟩
              rw [moveOn, moveOn, hmove]
          | fails run error =>
              refine ⟨e, world, rfl, ?_⟩
              rw [moveOn, moveOn, hmove]

/-- The engines at which an operation acts on the step under the cursor: those before the moves of
an advance, and the one that is led along a transition by choosing or forking. -/
def Operation.stages (op : Operation World) (e : Engine) (world : World) : List Engine :=
  match op with
  | .advance c =>
      match e.run.status with
      | .pending | .running =>
          moveStages c e.maxMoves (e.withRun { e.run with status := .running }) world
      | _ => []
  | .chooseBranch _ | .fork _ => [e]
  | .resume _ | .failTool _ | .abort => []

/-! ## Reachable engines -/

/-- The engines that operations in any order make of a new run of the graph. -/
inductive Reachable (graph : Graph) (schemas : Schemas) : Engine → Prop where
  | start {id startedAt : String} {e : Engine} :
      Engine.start graph schemas id startedAt = .ok e → Reachable graph schemas e
  | operate {World : Type} {e e' : Engine} (op : Operation World) (world : World) :
      Reachable graph schemas e → e' ∈ (op.perform e world).engines → Reachable graph schemas e'

/-- An accepted graph can be run from its entry. -/
theorem start_of_isAccepted {graph : Graph} {schemas : Schemas} {entry : String}
    (id startedAt : String) (accepted : (graph.validate schemas).isAccepted = true)
    (hentry : graph.entry = some entry) :
    Engine.start graph schemas id startedAt =
      .ok ⟨graph, schemas, .start id startedAt entry, accepted⟩ := by
  simp [Engine.start, accepted, hentry]

/-- A new run stands at the entry of its graph, which is accepted. -/
theorem start_eq_ok {graph : Graph} {schemas : Schemas} {id startedAt : String} {e : Engine}
    (h : Engine.start graph schemas id startedAt = .ok e) :
    e.graph = graph ∧ e.schemas = schemas ∧
      ∃ entry, graph.entry = some entry ∧ e.run = .start id startedAt entry := by
  unfold Engine.start at h
  split at h
  · split at h
    · next entry hentry =>
        cases h
        exact ⟨rfl, rfl, entry, hentry, rfl⟩
    · cases h
  · cases h

end Engine

end Workflow
