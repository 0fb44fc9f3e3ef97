import Workflow.Proofs.Run.Drive
import Workflow.Proofs.Run.Soundness

/-!
# Forking and choosing

A run that waits for a choice can be led along one of its transitions, or split into runs that go
along one each. Choosing looks for the first transition with the label, forking takes the
transitions as they stand; both agree because no label of an accepted graph stands at a step twice.

After a split there are several engines, and operations on them come in any order. Which of them is
meant is said by its place; runs that are forked later get the next places.

Main statement: `Reachable.forks_as_chosen`, from `getElem?_forkAlong` and `getElem?_carryOutAll`.
-/

namespace Workflow

variable {World : Type}

namespace Engine

/-! ## The runs that are forked -/

section

variable (newId : World → String × World) (e : Engine)

theorem length_forkAlong (targets : List String) (world : World) :
    (forkAlong newId e targets world).1.length = targets.length := by
  induction targets generalizing world with
  | nil => rfl
  | cons target rest ih => exact congrArg (· + 1) (ih _)

/-- There is one run for each target, in order. -/
theorem getElem?_forkAlong {targets : List String} (world : World) {place : Nat} {target : String}
    (h : targets[place]? = some target) :
    ∃ id, (forkAlong newId e targets world).1[place]? =
      some (e.withRun (forkedRun e.run id target)) := by
  induction targets generalizing place world with
  | nil => cases h
  | cons first rest ih =>
      cases place with
      | zero =>
          obtain rfl := Option.some.inj h
          exact ⟨_, rfl⟩
      | succ place => exact ih _ h

end

/-! ## Several engines -/

/-- An operation on one of several engines. -/
structure Instruction where
  World : Type
  place : Nat
  operation : Operation World
  world : World

/-- What an instruction makes of the engine that is meant. -/
def Instruction.effect (instruction : Instruction) (e : Engine) : Effect :=
  instruction.operation.perform e instruction.world

/-- Carries out an instruction. Runs that are forked by it come last. -/
def carryOut (engines : List Engine) (instruction : Instruction) : List Engine :=
  match engines[instruction.place]? with
  | some e =>
      engines.set instruction.place (instruction.effect e).engine ++ (instruction.effect e).children
  | none => engines

/-- Carries out instructions one after the other. -/
def carryOutAll : List Engine → List Instruction → List Engine
  | engines, [] => engines
  | engines, instruction :: rest => carryOutAll (carryOut engines instruction) rest

/-- What instructions make of an engine if all of them mean it. -/
def obey : Engine → List Instruction → Engine
  | e, [] => e
  | e, instruction :: rest => obey (instruction.effect e).engine rest

section

variable {engines : List Engine} {place : Nat} {e : Engine} {instruction : Instruction}

theorem getElem?_carryOut_self (h : engines[place]? = some e) (meant : instruction.place = place) :
    (carryOut engines instruction)[place]? = some (instruction.effect e).engine := by
  obtain ⟨bound, _⟩ := List.getElem?_eq_some_iff.1 h
  subst meant
  rw [carryOut, h]
  dsimp only
  rw [List.getElem?_append_left (by rwa [List.length_set]), List.getElem?_set_self bound]

/-- The others are left as they are. -/
theorem getElem?_carryOut_of_ne (h : engines[place]? = some e) (other : instruction.place ≠ place) :
    (carryOut engines instruction)[place]? = some e := by
  obtain ⟨bound, _⟩ := List.getElem?_eq_some_iff.1 h
  unfold carryOut
  split
  · rw [List.getElem?_append_left (by rwa [List.length_set]), List.getElem?_set_ne other, h]
  · exact h

/-- Whatever is done to the others in between, an engine becomes what the instructions that mean it
make of it. -/
theorem getElem?_carryOutAll (instructions : List Instruction) (h : engines[place]? = some e) :
    (carryOutAll engines instructions)[place]? =
      some (e.obey (instructions.filter fun instruction => instruction.place = place)) := by
  induction instructions generalizing engines e with
  | nil => exact h
  | cons instruction rest ih =>
      rw [carryOutAll]
      by_cases meant : instruction.place = place
      · rw [List.filter_cons_of_pos (by simpa using meant), obey]
        exact ih (getElem?_carryOut_self h meant)
      · rw [List.filter_cons_of_neg (by simpa using meant)]
        exact ih (getElem?_carryOut_of_ne h meant)

end

/-! ## Forking as choosing -/

/-- The engines that were forked from one that waits for one of the labels: one for each label in
order, and each is what choosing the label leaves, but for the id of its run and the run that it
comes from. The parent and the children go on independently. -/
structure ForkedAsChosen (e : Engine) (labels : List String) (children : List Engine) : Prop where
  one_each : children.length = labels.length
  chosen : ∀ (place : Nat) label child, labels[place]? = some label →
    children[place]? = some child →
    ∃ left, e.chooseBranch label = (.ok (), left) ∧
      child = left.withRun { left.run with id := child.run.id, parent := some e.run.id }
  untouched : ∀ instructions (place : Nat) one, (e :: children)[place]? = some one →
    (∀ instruction ∈ instructions, instruction.place ≠ place) →
      (carryOutAll (e :: children) instructions)[place]? = some one
  independent : ∀ instructions (place : Nat) one, (e :: children)[place]? = some one →
    (carryOutAll (e :: children) instructions)[place]? =
      some (one.obey (instructions.filter fun instruction => instruction.place = place))

section

variable {e : Engine} {entry id : String} {labels : List String} {step : Step}

/-- Forking takes all transitions of the step at which the run waits. -/
theorem fork_eq (newId : World → String × World) (world : World)
    (waiting : e.run.status = .awaitingBranch id labels) (hstep : e.graph.step? id = some step) :
    (Operation.fork newId).perform e world =
      ⟨none, e, (forkAlong newId e step.targets world).1⟩ := by
  simp only [Operation.perform, fork, waiting, Engine.step, hstep]

/-- Choosing a label takes the transition with this label, since there is only one. -/
theorem chooseBranch_label (wf : e.graph.WellFormed e.schemas entry)
    (waiting : e.run.status = .awaitingBranch id labels) (hstep : e.graph.step? id = some step)
    {t : Transition} (ht : t ∈ step.transitions) :
    e.chooseBranch t.label = (.ok (), e.withRun (e.run.goTo t.target)) := by
  have found := Step.transitionFor?_label
    (wf.labels_nodup step (Graph.mem_stepList_of_step? hstep)) ht
  simp only [chooseBranch, waiting, Engine.step, hstep, follow, found]

end

/-- Forking a run that waits for a choice leaves it as it is, and gives what choosing each of the
labels would give. -/
theorem Reachable.forks_as_chosen {graph : Graph} {schemas : Schemas} {e : Engine}
    (h : Reachable graph schemas e) {id : String} {labels : List String}
    (waiting : e.run.status = .awaitingBranch id labels) (newId : World → String × World)
    (world : World) :
    ∃ step children, graph.step? id = some step ∧ labels = step.labels ∧
      (Operation.fork newId).perform e world = ⟨none, e, children⟩ ∧
      e.ForkedAsChosen labels children := by
  obtain ⟨rfl, rfl, entry, _, wf, hc⟩ := h.consistent
  obtain ⟨_, step, hstep, _, rfl⟩ := hc.awaits_branch id labels waiting
  refine ⟨step, _, hstep, rfl, fork_eq newId world waiting hstep, ?_, ?_, ?_, ?_⟩
  · rw [length_forkAlong, Step.targets, Step.labels, List.length_map, List.length_map]
  · intro place label child hlabel hchild
    -- Label and target at one place are those of one transition.
    rw [Step.labels, List.getElem?_map] at hlabel
    obtain ⟨t, ht, rfl⟩ := Option.map_eq_some_iff.1 hlabel
    have target : step.targets[place]? = some t.target := by
      rw [Step.targets, List.getElem?_map, ht, Option.map_some]
    obtain ⟨childId, forked⟩ := getElem?_forkAlong newId e world target
    obtain rfl := Option.some.inj (hchild.symm.trans forked)
    exact ⟨_, chooseBranch_label wf waiting hstep (List.mem_of_getElem? ht), rfl⟩
  · intro instructions place one there others
    rw [getElem?_carryOutAll instructions there, List.filter_eq_nil_iff.2 (by simpa using others),
      obey]
  · exact fun instructions place one there => getElem?_carryOutAll instructions there

/-- The weather service splits into the warning and the quiet end. -/
theorem forecast_forks :
    forecastAnswered.run.status =
        .awaitingBranch "ask" ["ask.temperature > 25", "otherwise"] ∧
      ∃ children,
        (Operation.fork fun world => ("run", world)).perform forecastAnswered () =
            ⟨none, forecastAnswered, children⟩ ∧
          forecastAnswered.ForkedAsChosen ["ask.temperature > 25", "otherwise"] children := by
  have waiting : forecastAnswered.run.status =
      .awaitingBranch "ask" ["ask.temperature > 25", "otherwise"] := by
    decide +kernel
  obtain ⟨_, children, _, _, forks, as_chosen⟩ :=
    forecast_reachable.forks_as_chosen waiting (fun world => ("run", world)) ()
  exact ⟨waiting, children, forks, as_chosen⟩

end Engine

end Workflow
