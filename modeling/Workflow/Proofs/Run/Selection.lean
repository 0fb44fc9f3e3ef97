import Mathlib.Data.List.Find
import Workflow.Proofs.Run.Advance

/-!
# Choosing by conditions

What a condition reads of a state is among the references of its label, so that two states that
agree on these decide it alike. A choice by conditions picks the first transition that holds, and
the first catch-all if there is none. Where the catch-alls stand makes no difference to the
conditions, and the label of the transition that is picked leads to its target, whatever else has
the same label.

Main statements: `holds_of_agree` and `selectByCondition_decides`.
-/

namespace Workflow

variable {World : Type}

/-! ## What conditions read -/

/-- The states give the same answer to each output among the references. -/
def State.AgreesOn (references : List Reference) (s t : State) : Prop :=
  ∀ step field, .output step field ∈ references → s.field? step field = t.field? step field

section Agree

variable {label : String} {e : Condition} {s t : State}

/-- What is recorded at a path is decided by the field that the path starts with. -/
theorem State.at?_congr {path : Path}
    (h : s.field? path.step path.field = t.field? path.step path.field) :
    s.at? path = t.at? path := by
  rw [State.at?, State.at?, h]

/-- The label of a condition refers to the start of each of its paths. -/
theorem output_mem_labelReferences (reads : isCatchAll label = false)
    (he : Condition.parse label = .ok e) {path : Path} (hpath : path ∈ e.paths) :
    .output path.step path.field ∈ labelReferences label := by
  rw [mem_labelReferences_iff]
  refine ⟨reads, .inr ⟨e, ?_, path, hpath, rfl⟩⟩
  rw [Condition.parse?, he]
  rfl

theorem at?_eq_of_agree (reads : isCatchAll label = false) (he : Condition.parse label = .ok e)
    (agree : State.AgreesOn (labelReferences label) s t) :
    ∀ path ∈ e.paths, s.at? path = t.at? path := by
  intro path hpath
  apply State.at?_congr
  exact agree _ _ (output_mem_labelReferences reads he hpath)

/-- A condition is as true in one state as in another one that agrees with it on the references of
the label. -/
theorem holds_of_agree (reads : isCatchAll label = false) (he : Condition.parse label = .ok e)
    (agree : State.AgreesOn (labelReferences label) s t) : e.holds s = e.holds t :=
  Condition.holds_congr (at?_eq_of_agree reads he agree)

/-- What another step recorded makes no difference, nor does another field of the same step. -/
theorem condition_reads_its_field :
    ∃ s t : State, s ≠ t ∧ State.AgreesOn (labelReferences "a.days.0 == 'rain'") s t ∧
      Condition.holds s (.compare ⟨"a", "days", ["0"]⟩ .eq (.text "rain")) =
        Condition.holds t (.compare ⟨"a", "days", ["0"]⟩ .eq (.text "rain")) := by
  have he : Condition.parse "a.days.0 == 'rain'" =
      .ok (.compare ⟨"a", "days", ["0"]⟩ .eq (.text "rain")) := by decide +kernel
  have references : labelReferences "a.days.0 == 'rain'" = [.output "a" "days"] := by decide +kernel
  let days := Dict.empty.insert "days" (Json.array [.text "rain", .text "sun"])
  let s := State.empty.commit "a" days
  let t := (State.empty.commit "b" days).commit "a" (days.insert "city" (Json.text "Oslo"))
  have agree : State.AgreesOn (labelReferences "a.days.0 == 'rain'") s t := by
    intro step field href
    rw [references] at href
    obtain ⟨rfl, rfl⟩ := Reference.output.inj (List.mem_singleton.1 href)
    decide +kernel
  exact ⟨s, t, by decide +kernel, agree, holds_of_agree (by decide +kernel) he agree⟩

end Agree

/-! ## The transition that is picked -/

/-- The first item of a list with a property. -/
def IsFirst {α : Type} (p : α → Prop) (l : List α) (a : α) : Prop :=
  ∃ before after, l = before ++ a :: after ∧ p a ∧ ∀ b ∈ before, ¬p b

theorem isFirst_iff_find? {α : Type} {p : α → Bool} {l : List α} {a : α} :
    IsFirst (fun b => p b = true) l a ↔ l.find? p = some a := by
  rw [List.find?_eq_some_iff_append]
  constructor
  · rintro ⟨before, after, written, ha, none⟩
    exact ⟨ha, before, after, written, fun b hb => by simpa using none b hb⟩
  · rintro ⟨ha, before, after, written, none⟩
    exact ⟨before, after, written, ha, fun b hb => by simpa using none b hb⟩

theorem IsFirst.unique {α : Type} {p : α → Bool} {l : List α} {a b : α}
    (ha : IsFirst (fun c => p c = true) l a) (hb : IsFirst (fun c => p c = true) l b) : a = b := by
  have found := isFirst_iff_find?.1 ha
  rw [isFirst_iff_find?.1 hb] at found
  exact (Option.some.inj found).symm

/-- The label of the transition is a condition that holds. -/
def Transition.Holds (state : State) (t : Transition) : Prop :=
  isCatchAll t.label = false ∧ ∃ e, Condition.parse t.label = .ok e ∧ e.holds state = true

namespace Step

/-- The transition by which conditions leave the step in a state. -/
inductive Picks (step : Step) (state : State) (t : Transition) : Prop where
  | condition : IsFirst (·.Holds state) step.transitions t → Picks step state t
  | catchAll : (∀ u ∈ step.transitions, ¬u.Holds state) →
      IsFirst (fun u => isCatchAll u.label = true) step.transitions t → Picks step state t

/-- The transition by which conditions leave the step in a state, searched for. -/
def pick? (step : Step) (state : State) : Option Transition :=
  (step.transitions.find? fun t => labelHolds state t.label).or
    (step.transitions.find? fun t => isCatchAll t.label)

/-- The transitions whose labels are no catch-alls. -/
def conditional (step : Step) : List Transition :=
  step.transitions.filter fun t => !isCatchAll t.label

end Step

section Pick

variable {step : Step} {state : State} {t u : Transition}

theorem labelHolds_iff : labelHolds state t.label = true ↔ t.Holds state := by
  rw [labelHolds, Bool.and_eq_true, Bool.not_eq_true', Transition.Holds, Condition.parse?]
  cases Condition.parse t.label with
  | error error => simp [Except.toOption]
  | ok e => simp [Except.toOption]

theorem isFirst_holds_iff :
    IsFirst (·.Holds state) step.transitions t ↔
      step.transitions.find? (fun t => labelHolds state t.label) = some t := by
  rw [← isFirst_iff_find?]
  simp only [labelHolds_iff]

theorem find?_labelHolds_eq_none_iff :
    step.transitions.find? (fun t => labelHolds state t.label) = none ↔
      ∀ u ∈ step.transitions, ¬u.Holds state := by
  rw [List.find?_eq_none]
  simp only [labelHolds_iff]

/-- The search finds what the conditions pick. -/
theorem pick?_eq_some_iff : step.pick? state = some t ↔ step.Picks state t := by
  rw [Step.pick?, Option.or_eq_some_iff]
  constructor
  · rintro (held | ⟨none_holds, caught⟩)
    · exact .condition (isFirst_holds_iff.2 held)
    · exact .catchAll (find?_labelHolds_eq_none_iff.1 none_holds) (isFirst_iff_find?.2 caught)
  · intro picks
    cases picks with
    | condition first => exact .inl (isFirst_holds_iff.1 first)
    | catchAll none_holds first =>
        exact .inr ⟨find?_labelHolds_eq_none_iff.2 none_holds, isFirst_iff_find?.1 first⟩

theorem pick?_eq_none_iff :
    step.pick? state = none ↔
      ∀ u ∈ step.transitions, ¬u.Holds state ∧ isCatchAll u.label = false := by
  rw [Step.pick?, Option.or_eq_none_iff, find?_labelHolds_eq_none_iff, List.find?_eq_none]
  simp only [Bool.not_eq_true]
  constructor
  · rintro ⟨none_holds, none_caught⟩ u hu
    exact ⟨none_holds u hu, none_caught u hu⟩
  · intro none
    exact ⟨fun u hu => (none u hu).1, fun u hu => (none u hu).2⟩

/-- A condition is picked by what the conditions are, whatever catch-alls stand between them. -/
theorem picks_iff_of_holds (holds : t.Holds state) :
    step.Picks state t ↔ IsFirst (·.Holds state) step.conditional t := by
  have search : step.conditional.find? (fun u => labelHolds state u.label) =
      step.transitions.find? fun u => labelHolds state u.label := by
    rw [Step.conditional, List.find?_filter]
    apply List.find?_congr
    intro u _
    cases hu : isCatchAll u.label <;> simp [labelHolds, hu]
  have same : IsFirst (·.Holds state) step.conditional t ↔
      IsFirst (·.Holds state) step.transitions t := by
    rw [isFirst_holds_iff, ← search, ← isFirst_iff_find?]
    simp only [labelHolds_iff]
  rw [same]
  constructor
  · intro picks
    cases picks with
    | condition first => exact first
    | catchAll none_holds first =>
        obtain ⟨before, after, written, _, _⟩ := first
        exact absurd holds (none_holds t (by simp [written]))
  · exact .condition

/-- What is the first transition by its label is found by its label. -/
theorem IsFirst.transitionFor?_eq {p : String → Prop}
    (first : IsFirst (fun u => p u.label) step.transitions t) :
    step.transitionFor? t.label = some t := by
  obtain ⟨before, after, written, ht, none⟩ := first
  rw [Step.transitionFor?, List.find?_eq_some_iff_append]
  refine ⟨decide_eq_true rfl, before, after, written, fun u hu => ?_⟩
  have other : u.label ≠ t.label := by
    intro same
    apply none u hu
    rw [same]
    exact ht
  simpa using other

theorem Step.Picks.transitionFor?_eq (picks : step.Picks state t) :
    step.transitionFor? t.label = some t := by
  cases picks with
  | condition first =>
      exact first.transitionFor?_eq (p := fun label => isCatchAll label = false ∧
        ∃ e, Condition.parse label = .ok e ∧ e.holds state = true)
  | catchAll none_holds first =>
      exact first.transitionFor?_eq (p := fun label => isCatchAll label = true)

/-- The choice by conditions answers with the label of the transition that is picked. -/
theorem selectByCondition_none_eq (step : Step) (state : State) (world : World) :
    selectByCondition none step state world =
      ((step.pick? state).elim (.error (.noConditionHolds step.id)) fun t => .ok t.label,
        world) := by
  have by_label : ∀ p : String → Bool,
      step.labels.find? p = (step.transitions.find? fun t => p t.label).map (·.label) := by
    intro p
    exact List.find?_map
  rw [selectByCondition, by_label, Step.pick?]
  cases step.transitions.find? fun t => labelHolds state t.label with
  | some t => rfl
  | none =>
      dsimp only [Option.map_none, Option.filter_none]
      rw [by_label]
      cases step.transitions.find? fun t => isCatchAll t.label <;> rfl

end Pick

/-! ## Following the choice -/

namespace Engine

variable {c : Collaborators World} {step : Step}

/-- A step with several transitions is left along the one that is picked. -/
theorem leave_picks (by_condition : c.selector = some (selectByCondition none))
    (several : ∀ only, step.transitions ≠ [only]) (run : Run) (world : World) :
    leave c run step world =
      ((step.pick? run.state).elim (.failed run (.noMatchingBranch step.id ""))
        fun t => .goesOn (run.goTo t.target), world) := by
  unfold leave
  split
  · next only honly => exact absurd honly (several only)
  · rw [by_condition]
    dsimp only
    rw [selectByCondition_none_eq]
    cases hpick : step.pick? run.state with
    | none => rfl
    | some t =>
        have found := (pick?_eq_some_iff.1 hpick).transitionFor?_eq
        simp only [Option.elim_some, follow, found]

/-- A step is left without a transition only if there is none to be picked. -/
theorem unmatched_of_leave (by_condition : c.selector = some (selectByCondition none))
    {run run' : Run} {world : World} {id label : String}
    (h : (leave c run step world).1 = .fails run' (.noMatchingBranch id label)) :
    id = step.id ∧ label = "" ∧ run'.state = run.state ∧ step.pick? run.state = none := by
  by_cases single : ∃ only, step.transitions = [only]
  · obtain ⟨only, honly⟩ := single
    simp only [leave, honly] at h
    cases h
  · rw [leave_picks by_condition fun only honly => single ⟨only, honly⟩] at h
    cases hpick : step.pick? run.state with
    | none =>
        rw [hpick] at h
        cases h
        exact ⟨rfl, rfl, rfl, rfl⟩
    | some t =>
        rw [hpick] at h
        cases h

/-- A step that is entered fails for other reasons. -/
theorem enter_ne_unmatched (run run' : Run) (world : World) (id label : String) :
    (enter c run step world).1 ≠ .fails run' (.noMatchingBranch id label) := by
  have other : ∀ error : ResolveError, RunError.ofResolve error ≠ .noMatchingBranch id label := by
    intro error
    cases error <;> simp [RunError.ofResolve]
  unfold enter
  split
  · simp
  · unfold enterTool
    split
    · simp
    · simp [Move.failed, other]
  · unfold enterReasoning
    split
    · simp [Move.failed, other]
    · split
      · simp [Move.failed]
      · split <;> simp [Move.failed]

theorem step?_of_step_eq_ok {e : Engine} {id : String} (h : e.step id = .ok step) :
    e.graph.step? id = some step := by
  unfold Engine.step at h
  split at h
  · next found =>
      cases h
      exact found
  · cases h

theorem eq_stepNotFound_of_step {e : Engine} {id : String} {error : RunError}
    (h : e.step id = .error error) : error = .stepNotFound id := by
  unfold Engine.step at h
  split at h
  · cases h
  · cases h
    rfl

theorem unmatched_of_move (by_condition : c.selector = some (selectByCondition none)) {e : Engine}
    {run : Run} {world : World} {id label : String}
    (h : (e.move c world).1 = .fails run (.noMatchingBranch id label)) :
    label = "" ∧ run.state = e.run.state ∧
      ∃ step, e.graph.step? id = some step ∧ step.pick? e.run.state = none := by
  unfold move at h
  split at h
  · split at h
    · exact absurd h (enter_ne_unmatched _ _ _ _ _)
    · next missing =>
        rw [eq_stepNotFound_of_step missing] at h
        cases h
  · split at h
    · next step found =>
        have hstep := step?_of_step_eq_ok found
        obtain ⟨rfl, rfl, same, none_picked⟩ := unmatched_of_leave by_condition h
        rw [← Graph.id_of_step? hstep] at hstep
        exact ⟨rfl, same, step, hstep, none_picked⟩
    · next missing =>
        rw [eq_stepNotFound_of_step missing] at h
        cases h
  · cases h

/-- An advance ends without a matching transition only at a step whose conditions pick none. -/
theorem unmatched_of_moveOn (by_condition : c.selector = some (selectByCondition none))
    (moves : Nat) (e : Engine) (world : World) {id label : String}
    (h : (moveOn c moves e world).result = .error (.noMatchingBranch id label)) :
    label = "" ∧ ∃ step, e.graph.step? id = some step ∧
      step.pick? (moveOn c moves e world).engine.run.state = none := by
  induction moves generalizing e world with
  | zero => cases h
  | succ moves ih =>
      rw [moveOn] at h ⊢
      cases hmove : e.move c world with
      | mk m world' =>
          rw [hmove] at h
          cases m with
          | goesOn run => exact ih (e.withRun run) world' h
          | stops run => cases h
          | fails run error =>
              obtain rfl : error = .noMatchingBranch id label := Except.error.inj h
              have failed : (e.move c world).1 = .fails run (.noMatchingBranch id label) := by
                rw [hmove]
              obtain ⟨empty, same, step, hstep, none_picked⟩ :=
                unmatched_of_move by_condition failed
              refine ⟨empty, step, hstep, ?_⟩
              show step.pick? run.state = none
              rw [same]
              exact none_picked

/-- The choice of a selector that goes by conditions, and what becomes of a run that follows it. -/
structure DecidesByCondition (select : Selector World) : Prop where
  chosen_iff : ∀ step state world label, (select step state world).1 = .ok label ↔
    ∃ t, step.Picks state t ∧ t.label = label
  failed_iff : ∀ step state world error, (select step state world).1 = .error error ↔
    error = .noConditionHolds step.id ∧
      ∀ t ∈ step.transitions, ¬t.Holds state ∧ isCatchAll t.label = false
  /-- Nobody is asked. -/
  quiet : ∀ step state world, (select step state world).2 = world
  among_labels : ∀ step state world label, (select step state world).1 = .ok label →
    label ∈ step.labels
  /-- Steps that differ in their catch-alls alone are left by the same condition. -/
  catchAlls_anywhere : ∀ (step other : Step) state world (t : Transition),
    other.conditional = step.conditional → t.Holds state →
      ((select other state world).1 = .ok t.label ↔ (select step state world).1 = .ok t.label)
  follows : ∀ step state world label, (select step state world).1 = .ok label →
    ∀ run, ∃ t, step.Picks state t ∧
      follow run step label = .ok { run with cursor := .enter t.target, status := .running }
  /-- A run fails for want of a branch only at a step where there is nothing to be chosen, never for
  a label that the step does not have. -/
  matches_branch : ∀ c : Collaborators World, c.selector = some select →
    ∀ (e : Engine) world id label,
      (e.advance c world).result = .error (.noMatchingBranch id label) →
      label = "" ∧ ∃ step, e.graph.step? id = some step ∧
        ∀ t ∈ step.transitions, ¬t.Holds (e.advance c world).engine.run.state ∧
          isCatchAll t.label = false

theorem selectByCondition_ok_iff {state : State} {world : World} {label : String} :
    (selectByCondition none step state world).1 = .ok label ↔
      ∃ t, step.Picks state t ∧ t.label = label := by
  rw [selectByCondition_none_eq]
  constructor
  · intro chosen
    cases hpick : step.pick? state with
    | none => rw [hpick] at chosen; cases chosen
    | some t =>
        rw [hpick] at chosen
        exact ⟨t, pick?_eq_some_iff.1 hpick, Except.ok.inj chosen⟩
  · rintro ⟨t, picks, rfl⟩
    rw [pick?_eq_some_iff.2 picks]
    rfl

theorem selectByCondition_error_iff {state : State} {world : World} {error : SelectError} :
    (selectByCondition none step state world).1 = .error error ↔
      error = .noConditionHolds step.id ∧ step.pick? state = none := by
  rw [selectByCondition_none_eq]
  cases step.pick? state with
  | none => simp [eq_comm]
  | some t => simp

theorem unmatched_of_advance (by_condition : c.selector = some (selectByCondition none))
    (e : Engine) (world : World) {id label : String}
    (h : (e.advance c world).result = .error (.noMatchingBranch id label)) :
    label = "" ∧ ∃ step, e.graph.step? id = some step ∧
      step.pick? (e.advance c world).engine.run.state = none := by
  by_cases hopen : e.run.IsOpen
  · rw [advance_of_open hopen] at h ⊢
    exact unmatched_of_moveOn by_condition e.maxMoves e.begun world h
  · rw [advance_of_not_open hopen] at h
    cases h

/-- A choice by conditions takes the first condition that holds, and the first catch-all if none
does; a run that follows it finds the way. -/
theorem selectByCondition_decides :
    DecidesByCondition (selectByCondition none : Selector World) where
  chosen_iff step state world label := selectByCondition_ok_iff
  failed_iff step state world error := by
    rw [selectByCondition_error_iff, pick?_eq_none_iff]
  quiet step state world := by
    rw [selectByCondition_none_eq]
  among_labels step state world label chosen := by
    obtain ⟨t, picks, rfl⟩ := selectByCondition_ok_iff.1 chosen
    have found := picks.transitionFor?_eq
    rw [Step.transitionFor?] at found
    exact List.mem_map_of_mem (List.mem_of_find?_eq_some found)
  catchAlls_anywhere step other state world t same holds := by
    rw [selectByCondition_ok_iff, selectByCondition_ok_iff]
    apply exists_congr
    intro u
    apply and_congr_left
    intro same_label
    have holds' : u.Holds state := by
      rw [Transition.Holds, same_label]
      exact holds
    rw [picks_iff_of_holds holds', picks_iff_of_holds holds', same]
  follows step state world label chosen run := by
    obtain ⟨t, picks, rfl⟩ := selectByCondition_ok_iff.1 chosen
    refine ⟨t, picks, ?_⟩
    rw [follow, picks.transitionFor?_eq]
    rfl
  matches_branch c by_condition e world id label h := by
    obtain ⟨empty, step, hstep, none_picked⟩ := unmatched_of_advance by_condition e world h
    exact ⟨empty, step, hstep, pick?_eq_none_iff.1 none_picked⟩

example : (selectByCondition none
    ⟨"judge", .reasoning "?", [⟨"otherwise", "sunglasses"⟩, ⟨"a.x == 1", "umbrella"⟩], none⟩
    (.commit .empty "a" (Dict.empty.insert "x" (.int 1))) ()).1 = .ok "a.x == 1" := by
  decide +kernel

end Engine

end Workflow
