import Workflow.Proofs.Run.Progress

/-!
# All that a move can do

A restored run may say of itself what it likes: it may stand behind a final step, or nowhere
although it is running. This module says what a move makes of any run, with the guards under which
it does so. What holds of consistent runs only, `move_progress`, has half of these cases.

Main statement: `moved`.
-/

namespace Workflow

variable {World : Type}

/-- The outputs are the whole answer that the reasoner gave to the prompt of the step. -/
def Step.AnsweredBy (reasoner : Option (Reasoner World)) (step : Step) (state : State)
    (outputs : Fields) : Prop :=
  ∃ prompt resolved ask answer world world', step.action = .reasoning prompt ∧
    resolvePrompt step.id prompt state = .ok resolved ∧ reasoner = some ask ∧
    ask resolved world = (.ok answer, world') ∧
    outputs = Dict.empty.insert "response" (.text answer)

namespace Engine

/-- What a move makes of a run. -/
inductive Moved (c : Collaborators World) (g : Graph) (run : Run) : Move → Prop where
  | finished {step : Step} : g.step? step.id = some step → run.cursor = .enter step.id →
      step.action = .final → Moved c g run (.stops (run.finish step.id))
  | called {step : Step} {tool : String} {parameters resolved : Fields} :
      g.step? step.id = some step → run.cursor = .enter step.id →
      step.action = .tool tool parameters →
      resolveParameters step.id parameters run.state = .ok resolved →
      Moved c g run (.stops { run with status := .awaitingTool ⟨step.id, tool, resolved⟩ })
  | answered {step : Step} {outputs : Fields} : g.step? step.id = some step →
      run.cursor = .enter step.id → step.AnsweredBy c.reasoner run.state outputs →
      Moved c g run (.goesOn (run.complete step.id outputs))
  | unresolved {step : Step} {error : ResolveError} : g.step? step.id = some step →
      run.cursor = .enter step.id → Moved c g run (.failed run (.ofResolve error))
  | unanswered {step : Step} {message : String} : g.step? step.id = some step →
      run.cursor = .enter step.id → Moved c g run (.failed run (.reasonerFailed step.id message))
  | passed {step : Step} {only : Transition} : g.step? step.id = some step →
      run.cursor = .leave step.id → step.transitions = [only] →
      Moved c g run (.goesOn { run with cursor := .enter only.target })
  | chosen {step : Step} {t : Transition} : g.step? step.id = some step →
      run.cursor = .leave step.id → t ∈ step.transitions →
        Moved c g run (.goesOn (run.goTo t.target))
  | undecided {step : Step} : g.step? step.id = some step → run.cursor = .leave step.id →
      c.selector = none →
      Moved c g run (.stops { run with status := .awaitingBranch step.id step.labels })
  | unchosen {step : Step} {error : SelectError} : g.step? step.id = some step →
      run.cursor = .leave step.id → Moved c g run (.failed run (selectionError step.id error))
  | unmatched {step : Step} {label : String} : g.step? step.id = some step →
      run.cursor = .leave step.id → Moved c g run (.failed run (.noMatchingBranch step.id label))
  | lost {id : String} : run.cursor.step? = some id → g.step? id = none →
      Moved c g run (.fails run (.stepNotFound id))
  | refused : run.cursor = .idle → Moved c g run (.fails run (run.refusal "advance"))

section

variable {c : Collaborators World} {g : Graph} {run : Run} {step : Step}

theorem moved_of_enter (world : World) (hstep : g.step? step.id = some step)
    (h : run.cursor = .enter step.id) : Moved c g run (enter c run step world).1 := by
  unfold enter
  cases hact : step.action with
  | final => exact .finished hstep h hact
  | tool tool parameters =>
      dsimp only
      unfold enterTool
      split
      · next hresolved => exact .called hstep h hact hresolved
      · exact .unresolved hstep h
  | reasoning prompt =>
      dsimp only
      unfold enterReasoning
      split
      · exact .unresolved hstep h
      · next hresolved =>
          split
          · exact .unanswered hstep h
          · next ask hask =>
              split
              · next hanswer =>
                  exact .answered hstep h ⟨_, _, ask, _, _, _, hact, hresolved, hask, hanswer, rfl⟩
              · exact .unanswered hstep h

theorem moved_of_leave (world : World) (hstep : g.step? step.id = some step)
    (h : run.cursor = .leave step.id) : Moved c g run (leave c run step world).1 := by
  unfold leave
  split
  · next only honly => exact .passed hstep h honly
  · split
    · next unattended => exact .undecided hstep h unattended
    · split
      · exact .unchosen hstep h
      · split
        · next hfollow =>
            obtain ⟨t, ht, _, rfl⟩ := follow_eq_ok hfollow
            exact .chosen hstep h ht
        · next hfollow =>
            rw [follow_eq_error hfollow]
            exact .unmatched hstep h

end

/-- Each move is one of these. -/
theorem moved (c : Collaborators World) (e : Engine) (world : World) :
    Moved c e.graph e.run (e.move c world).1 := by
  unfold move
  cases hcursor : e.run.cursor with
  | enter id =>
      cases hstep : e.graph.step? id with
      | none =>
          simp only [Engine.step, hstep]
          exact .lost (by rw [hcursor, Cursor.step?]) hstep
      | some step =>
          obtain rfl := Graph.id_of_step? hstep
          simp only [Engine.step, hstep]
          exact moved_of_enter world hstep hcursor
  | leave id =>
      cases hstep : e.graph.step? id with
      | none =>
          simp only [Engine.step, hstep]
          exact .lost (by rw [hcursor, Cursor.step?]) hstep
      | some step =>
          obtain rfl := Graph.id_of_step? hstep
          simp only [Engine.step, hstep]
          exact moved_of_leave world hstep hcursor
  | idle => exact .refused hcursor

end Engine

end Workflow
