import Workflow.Proofs.Document.Printed
import Workflow.Proofs.Document.RoundTrip
import Workflow.Proofs.Run.Interruption

/-!
# Runs survive being saved

A run is given back by the value it is written as, and an engine is restored from it. So a run that
is interrupted anywhere goes on as one that is not. The text in which it is saved gives it back too,
as far as texts go: brackets must not be nested too deep, and of each double the reader has to make
the double that was written. A run that is nested too deep is saved all the same, and cannot be
loaded.

Main statements: `Run.ofText?_text_iff`, which runs are loaded from their texts, and
`Engine.Reachable.survives`.
-/

namespace Workflow

open Source JsonText

namespace Run

variable {run : Run}

/-- The run that a value describes. -/
def ofJson? (value : Json) : Option Run := (readRun (.ofJson value)).result?

theorem ofJson?_eq_some (canonical : run.IsCanonical) {value : Json}
    (same : run.toJson.Reorders value) : ofJson? value = some run := by
  rw [ofJson?, readRun_of_shows canonical (shows_ofJson same)]
  rfl

/-! ## Runs that are nested too deep -/

theorem nesting_texts (texts : List String) : (Json.texts texts).nesting ≤ 1 := by
  apply Json.nesting_array_le
  intro item hitem
  obtain ⟨text, _, rfl⟩ := List.mem_map.1 hitem
  exact Nat.le_refl _

theorem nesting_finished (finished : List (List String)) :
    (Json.array (finished.map .texts)).nesting ≤ 2 := by
  apply Json.nesting_array_le
  intro item hitem
  obtain ⟨trail, _, rfl⟩ := List.mem_map.1 hitem
  exact nesting_texts trail

/-- Of the fields of a run that are not those of its status, only the state may be nested deep. -/
theorem nesting_own {name : String} (own : name ∈ ownFields) (other : name ≠ "state") {value : Json}
    (there : (present run.slots).lookup name = some value) : value.nesting ≤ 2 := by
  rw [run.lookup_ownSlots own] at there
  simp only [ownFields, List.mem_cons, List.not_mem_nil, or_false] at own
  rcases own with rfl | rfl | rfl | rfl | rfl | rfl | rfl
  · cases there
    exact Nat.zero_le _
  · cases there
    exact Nat.zero_le _
  · have parent : run.parent.map Json.text = some value := there
    obtain ⟨parent, _, rfl⟩ := Option.map_eq_some_iff.1 parent
    exact Nat.zero_le _
  · exact absurd rfl other
  · have cursor : run.cursor.toJson = value := Option.some.inj there
    rw [← cursor]
    cases run.cursor <;> simp [Cursor.toJson, Json.nesting, Json.fieldsNesting]
  · cases there
    exact (nesting_texts _).trans (by decide)
  · cases there
    exact nesting_finished _

/-- What is cut off is not passed over: what belongs to the status has to be set aside, and the
state has to be read. -/
theorem readRun_of_deep (deep : maxDepth < run.toJson.nesting) :
    readRun (treeWithin maxDepth run.toJson) = failure := by
  rw [run.toJson_eq_present] at deep ⊢
  obtain ⟨p, hp, hdeep⟩ := Json.lt_fieldsNesting_iff.1 (Nat.lt_of_succ_lt_succ deep)
  have cut : (treeWithin (maxDepth - 1) p.2).IsCut := isCut_treeWithin p.2 _ hdeep
  have hentry : (ofText p.1, treeWithin (maxDepth - 1) p.2) ∈
      treeFieldsWithin (maxDepth - 1) (present run.slots) := by
    rw [treeFieldsWithin_eq_map]
    exact List.mem_map_of_mem hp
  show (splitEntries ownFields [] [] (treeFieldsWithin (maxDepth - 1) (present run.slots)) >>= _) =
    failure
  by_cases own : p.1 ∈ ownFields
  · apply splitEntries_of_mem _ own hentry
    intro found rest there
    have isState : p.1 = "state" := by
      by_contra other
      have shallow := nesting_own own other
        ((lookup_eq_some_iff_mem (distinct_present run.distinct_slots) _).2 hp)
      exact absurd (Nat.lt_of_lt_of_le hdeep shallow) (by decide)
    have unread : found.required "state" (dict? (dict? value?)) = failure := by
      rw [FieldValues.required, ← isState, there]
      exact dict?_of_isCut (fun _ => dict?_of_isCut fun _ => value?_of_isCut) cut
    simp only [unread]
    iterate 4
      apply bind_eq_failure
      intro _
    rfl
  · rw [splitEntries_of_isCut hentry own cut]
    rfl

theorem ofText?_text_of_deep (back : run.toJson.ReadsBack) (deep : maxDepth < run.toJson.nesting) :
    ofText? run.text = none := by
  rw [ofText?, text, read?_pretty back, Option.bind_some, readRun_of_deep deep]
  rfl

theorem ofText?_text (canonical : run.IsCanonical) (back : run.toJson.ReadsBack)
    (shallow : run.toJson.nesting ≤ maxDepth) : ofText? run.text = some run := by
  rw [ofText?, text, read?_pretty back, Option.bind_some, treeWithin_eq_tree _ _ shallow,
    ← ofJson_eq_tree]
  exact ofJson?_eq_some canonical (.refl _)

/-- The text of a run describes the run, unless brackets are nested too deep in it. -/
theorem ofText?_text_iff (canonical : run.IsCanonical) (back : run.toJson.ReadsBack) :
    ofText? run.text = some run ↔ run.toJson.nesting ≤ maxDepth := by
  constructor
  · intro loaded
    by_contra deep
    cases loaded.symm.trans (ofText?_text_of_deep back (Nat.lt_of_not_le deep))
  · exact ofText?_text canonical back

end Run

namespace Engine

variable {graph : Graph} {schemas : Schemas} {e : Engine}

/-- A run is given back by the value it is written as, whatever the order in which the fields of
objects are kept, and an engine restored from it is the one that it had: interruptions do not show
in what is done with the run. The text in which it is saved gives it back unless brackets are nested
too deep, if the numbers in it are what the reader makes of them, and then interruptions do not show
unless this happens at one of them. -/
theorem Reachable.survives (h : Reachable graph schemas e)
    (steps : ∀ step ∈ graph.stepList, step.IsCanonical) (canonical : e.run.IsCanonical) :
    (∀ value, e.run.toJson.Reorders value → Run.ofJson? value = some e.run) ∧
      restore graph schemas e.run = .ok e ∧
      (e.run.toJson.ReadsBack →
        (Run.ofText? e.run.text = some e.run ↔ e.run.toJson.nesting ≤ maxDepth)) ∧
      ∀ {World : Type} (turns : List (Turn World)),
        (∀ turn ∈ turns, turn.operation.IsCanonical) →
          (∀ shuffle : Json → Json, (∀ value : Json, value.Reorders (shuffle value)) →
            effectsAcross (fun run => Run.ofJson? (shuffle run.toJson)) e turns =
              some (e.effects turns)) ∧
            ((∀ run ∈ e.interruptions turns, run.toJson.ReadsBack) →
              (effectsAcross (fun run => Run.ofText? run.text) e turns = some (e.effects turns) ↔
                ∀ run ∈ e.interruptions turns, run.toJson.nesting ≤ maxDepth)) := by
  refine ⟨fun value => Run.ofJson?_eq_some canonical, h.restore_eq, Run.ofText?_text_iff canonical,
    ?_⟩
  intro World turns given
  have kept := interruptions_isCanonical h steps canonical turns given
  constructor
  · intro shuffle same
    apply effectsAcross_eq h turns
    intro run hrun
    exact Run.ofJson?_eq_some (kept run hrun) (same _)
  · intro numbers
    have loaded (run : Run) (hrun : run ∈ e.interruptions turns) :=
      Run.ofText?_text_iff (kept run hrun) (numbers run hrun)
    constructor
    · intro done run hrun
      refine (loaded run hrun).1 (loaded_of_effectsAcross h turns ?_ done run hrun)
      intro other hother
      by_cases shallow : other.toJson.nesting ≤ maxDepth
      · exact .inl ((loaded other hother).2 shallow)
      · exact .inr (Run.ofText?_text_of_deep (numbers other hother) (Nat.lt_of_not_le shallow))
    · intro shallow
      apply effectsAcross_eq h turns
      intro run hrun
      exact (loaded run hrun).2 (shallow run hrun)

/-- Somebody chooses for the weather service and goes on. -/
def forecastTurns : List (Turn Unit) :=
  [⟨.chooseBranch "otherwise", (), true⟩, ⟨.advance unattended, (), true⟩]

theorem forecastAnswered_isCanonical : forecastAnswered.run.IsCanonical where
  recorded := by
    have told : forecastAnswered.run.state.outputs =
        Dict.empty.insert "ask" (Dict.empty.insert "temperature" (.int 31)) := by decide +kernel
    intro p hp
    rw [told] at hp
    obtain rfl := List.mem_singleton.1 hp
    intro q hq
    obtain rfl := List.mem_singleton.1 hq
    trivial
  called := by
    intro invocation waiting
    have chooses : forecastAnswered.run.status.name = "awaiting_branch" := by decide +kernel
    simp [waiting, RunStatus.name] at chooses

theorem forecast_survives :
    (∀ step ∈ forecast.stepList, step.IsCanonical) ∧ forecastAnswered.run.IsCanonical ∧
      (∀ turn ∈ forecastTurns, turn.operation.IsCanonical) ∧
      (∀ run ∈ forecastAnswered.interruptions forecastTurns,
        run.toJson.ReadsBack ∧ run.toJson.nesting ≤ maxDepth) ∧
      Run.ofText? forecastAnswered.run.text = some forecastAnswered.run ∧
      effectsAcross (fun run => Run.ofText? run.text) forecastAnswered forecastTurns =
        some (forecastAnswered.effects forecastTurns) := by
  have given : ∀ turn ∈ forecastTurns, turn.operation.IsCanonical := by
    intro turn hturn
    simp only [forecastTurns, List.mem_cons, List.not_mem_nil, or_false] at hturn
    rcases hturn with rfl | rfl <;> trivial
  have texts : ∀ run ∈ forecastAnswered.interruptions forecastTurns,
      run.toJson.ReadsBack ∧ run.toJson.nesting ≤ maxDepth := by
    decide +kernel
  obtain ⟨_, _, loaded, interrupted⟩ :=
    forecast_reachable.survives isCanonical_of_mem_forecast forecastAnswered_isCanonical
  obtain ⟨numbers, shallow⟩ := texts forecastAnswered.run List.mem_cons_self
  refine ⟨isCanonical_of_mem_forecast, forecastAnswered_isCanonical, given, texts,
    (loaded numbers).2 shallow, ?_⟩
  exact ((interrupted forecastTurns given).2 fun run hrun => (texts run hrun).1).2
    fun run hrun => (texts run hrun).2

/-! ## A run that is nested too deep -/

/-- The value inside brackets, so many times. -/
def nest (value : Json) : Nat → Json
  | 0 => value
  | depth + 1 => .array [nest value depth]

/-- Asks for the temperature, and asks again for what was told. -/
def echo : Graph where
  steps := Dict.ofList
    ([ ⟨"ask", .tool "weather" (Dict.empty.insert "city" (.text "Oslo")),
          [⟨"always", "again"⟩], none⟩,
       ⟨"again", .tool "weather"
          (Dict.empty.insert "city" (nest (.text "\x7bask.temperature\x7d") 62)),
          [⟨"always", "end"⟩], none⟩,
       ⟨"end", .final, [], none⟩ ].map fun step : Step => (step.id, step))
  entry := some "ask"
  info := .empty
  keyed := by decide +kernel

theorem echo_isAccepted : (echo.validate forecastSchemas).isAccepted = true := by decide +kernel

def echoBegun : Engine := ⟨echo, forecastSchemas, .start "run" "today" "ask", echo_isAccepted⟩

/-- The temperature was told inside brackets, and is asked for again. -/
def echoAsked : Engine :=
  let asked := (echoBegun.advance unattended ()).engine
  ((asked.resume (Dict.empty.insert "temperature" (nest (.int 31) 63))).2.advance
    unattended ()).engine

theorem echo_reachable : Reachable echo forecastSchemas echoAsked := by
  have begun : Reachable echo forecastSchemas echoBegun :=
    .start (start_of_isAccepted "run" "today" echo_isAccepted rfl)
  have asked := begun.operate (.advance unattended) () List.mem_cons_self
  have told := asked.operate (.resume (Dict.empty.insert "temperature" (nest (.int 31) 63))) ()
    List.mem_cons_self
  exact told.operate (.advance unattended) () List.mem_cons_self

/-- While the tool is waited for the run is saved, and what was saved cannot be loaded. -/
theorem nested_echo_is_lost :
    Reachable echo forecastSchemas echoAsked ∧ echoAsked.run.status.name = "awaiting_tool" ∧
      echoAsked.run.toJson.nesting = maxDepth + 1 ∧ Run.ofText? echoAsked.run.text = none ∧
      effectsAcross (fun run => Run.ofText? run.text) echoAsked
        [⟨.advance unattended, (), true⟩] = none := by
  have lost : Run.ofText? echoAsked.run.text = none :=
    Run.ofText?_text_of_deep (by decide +kernel) (by decide +kernel)
  refine ⟨echo_reachable, by decide +kernel, by decide +kernel, lost, ?_⟩
  simp [effectsAcross, Turn.engine?, lost]

end Engine

end Workflow
