import Mathlib.Data.List.Nodup
import Workflow.Document.Graph
import Workflow.Proofs.Document.Reading

/-!
# Steps as written

A step as written either declares an action, and then it stands for one step, or something is wrong
with it. It has one fault at most, but for parameters that are listed more than once: each of them
is reported as often as it is repeated.

Main statements: `StepDocument.toStep_eq_ok_iff`, `StepDocument.hasFaults_faults` and
`StepDocument.faults_eq_nil_iff`.
-/

namespace Workflow

/-! ## Parameters -/

theorem count_repeatedKeys (seen : List String) (entries : List (String × Json)) (key : String) :
    (repeatedKeys seen entries).count key =
      (entries.map (·.1)).count key - if key ∈ seen then 0 else 1 := by
  induction entries generalizing seen with
  | nil => simp [repeatedKeys]
  | cons entry rest ih =>
      obtain ⟨first, value⟩ := entry
      simp only [repeatedKeys, List.count_append, ih, List.map_cons, List.count_cons, List.mem_cons]
      by_cases same : first = key
      · subst same
        by_cases before : first ∈ seen <;> simp [before]
        omega
      · have other : ¬ key = first := fun h => same h.symm
        by_cases before : first ∈ seen <;> simp [before, same, other]

theorem repeatedKeys_eq_nil_iff (entries : List (String × Json)) :
    repeatedKeys [] entries = [] ↔ (entries.map (·.1)).Nodup := by
  rw [List.nodup_iff_count_le_one, List.eq_nil_iff_forall_not_mem]
  refine forall_congr' fun key => ?_
  rw [← List.count_eq_zero, count_repeatedKeys]
  simp [Nat.sub_eq_zero_iff_le]

/-- The parameters as written set these ones. -/
inductive ParametersDocument.Sets : ParametersDocument → Fields → Prop
  | map (fields : Fields) : (ParametersDocument.map fields).Sets fields
  | list {entries : List (String × Json)} {fields : Fields}
      (distinct : (entries.map (·.1)).Nodup)
      (same : ∀ key value, fields.get? key = some value ↔ (key, value) ∈ entries) :
      (ParametersDocument.list entries).Sets fields

theorem ParametersDocument.toFields_eq_ok_iff (doc : ParametersDocument) (id : String)
    (fields : Fields) : doc.toFields id = .ok fields ↔ doc.Sets fields := by
  cases doc with
  | map written =>
      rw [toFields, Except.ok.injEq]
      constructor
      · rintro rfl
        exact .map written
      · rintro ⟨⟩
        rfl
  | list entries =>
      simp only [toFields]
      cases twice : repeatedKeys [] entries with
      | nil =>
          have distinct := (repeatedKeys_eq_nil_iff entries).1 twice
          rw [Except.ok.injEq]
          constructor
          · rintro rfl
            exact .list distinct (Dict.get?_ofList_eq_some_iff distinct)
          · rintro (_ | ⟨_, same⟩)
            refine Dict.ext_get? fun key => Option.ext fun value => ?_
            rw [Dict.get?_ofList_eq_some_iff distinct, same]
      | cons key keys =>
          constructor
          · rintro ⟨⟩
          · rintro (_ | ⟨distinct, _⟩)
            rw [(repeatedKeys_eq_nil_iff entries).2 distinct] at twice
            cases twice

theorem ParametersDocument.exists_of_toFields_eq_error {doc : ParametersDocument} {id : String}
    {findings : List Violation} (h : doc.toFields id = .error findings) :
    ∃ entries, doc = .list entries ∧ ¬ (entries.map (·.1)).Nodup ∧
      findings = (repeatedKeys [] entries).map (.repeatedParameter id) := by
  cases doc with
  | map => cases h
  | list entries =>
      simp only [toFields] at h
      cases twice : repeatedKeys [] entries with
      | nil =>
          rw [twice] at h
          cases h
      | cons key keys =>
          rw [twice] at h
          cases h
          refine ⟨entries, rfl, ?_, by rw [twice]⟩
          rw [← repeatedKeys_eq_nil_iff, twice]
          exact List.cons_ne_nil key keys

/-! ## Steps -/

namespace StepDocument

/-- The action that a step as written declares. -/
inductive Declares (doc : StepDocument) : Action → Prop
  | final (ends : doc.isFinal = true) (idle : doc.action = none) : doc.Declares .final
  | call {name : String} {parameters : Fields} (goes_on : doc.isFinal = false)
      (calls : doc.action = some .callTool) (named : doc.toolName = some name)
      (visible : Text.isBlankText name = false) (given : doc.parameters.Sets parameters) :
      doc.Declares (.tool name parameters)
  | ask {prompt : String} (goes_on : doc.isFinal = false) (asks : doc.action = some .callLlm)
      (asked : doc.prompt = some prompt) : doc.Declares (.reasoning prompt)

/-- The step is final without an action, calls a tool that it names and sets no parameter twice, or
asks with a prompt. -/
def IsSound (doc : StepDocument) : Prop := ∃ action, doc.Declares action

/-- What is wrong with a step by itself. -/
inductive HasFaults (doc : StepDocument) : List Violation → Prop
  | sound (sound : doc.IsSound) : doc.HasFaults []
  | finalActs {kind : ActionKind} (ends : doc.isFinal = true) (acts : doc.action = some kind) :
      doc.HasFaults [.finalActs doc.id kind]
  | noAction (goes_on : doc.isFinal = false) (idle : doc.action = none) :
      doc.HasFaults [.noAction doc.id]
  | noToolName (goes_on : doc.isFinal = false) (calls : doc.action = some .callTool)
      (unnamed : ∀ name, doc.toolName = some name → Text.isBlankText name = true) :
      doc.HasFaults [.noToolName doc.id]
  | noPrompt (goes_on : doc.isFinal = false) (asks : doc.action = some .callLlm)
      (unasked : doc.prompt = none) : doc.HasFaults [.noPrompt doc.id]
  /-- Of the entries with one key, each but the first has a finding of its own. -/
  | repeatedParameters {name : String} {entries : List (String × Json)} {keys : List String}
      (goes_on : doc.isFinal = false) (calls : doc.action = some .callTool)
      (named : doc.toolName = some name) (visible : Text.isBlankText name = false)
      (listed : doc.parameters = .list entries) (twice : ¬ (entries.map (·.1)).Nodup)
      (counted : ∀ key, keys.count key = (entries.map (·.1)).count key - 1) :
      doc.HasFaults (keys.map (.repeatedParameter doc.id))

variable {doc : StepDocument} {action : Action} {findings : List Violation}

theorem Declares.toAction (h : doc.Declares action) : doc.toAction = .ok action := by
  unfold StepDocument.toAction
  cases h with
  | final ends idle => rw [ends, idle]
  | call goes_on calls named visible given =>
      have read := (ParametersDocument.toFields_eq_ok_iff _ doc.id _).2 given
      simp [goes_on, calls, named, visible, read, Option.filter, Except.map]
  | ask goes_on asks asked => rw [goes_on, asks, asked]

theorem declares_of_toAction (h : doc.toAction = .ok action) : doc.Declares action := by
  unfold StepDocument.toAction at h
  split at h
  · cases h
  · next ends idle =>
      cases h
      exact .final ends idle
  · cases h
  · next goes_on calls =>
      split at h
      · cases h
      · next name named =>
          rw [Option.filter_eq_some_iff] at named
          cases given : doc.parameters.toFields doc.id with
          | error findings =>
              rw [given] at h
              cases h
          | ok parameters =>
              rw [given] at h
              cases h
              have sets := (ParametersDocument.toFields_eq_ok_iff _ _ _).1 given
              exact .call goes_on calls named.1 (by simpa using named.2) sets
  · next goes_on asks =>
      split at h
      · cases h
      · next prompt asked =>
          cases h
          exact .ask goes_on asks asked

theorem hasFaults_of_toAction (h : doc.toAction = .error findings) : doc.HasFaults findings := by
  unfold StepDocument.toAction at h
  split at h
  · next kind ends acts =>
      cases h
      exact .finalActs ends acts
  · cases h
  · next goes_on idle =>
      cases h
      exact .noAction goes_on idle
  · next goes_on calls =>
      split at h
      · next unnamed =>
          cases h
          refine .noToolName goes_on calls fun name named => ?_
          simpa [named, Option.filter] using unnamed
      · next name named =>
          rw [Option.filter_eq_some_iff] at named
          cases given : doc.parameters.toFields doc.id with
          | ok parameters =>
              rw [given] at h
              cases h
          | error faults =>
              rw [given] at h
              cases h
              obtain ⟨entries, listed, twice, rfl⟩ :=
                ParametersDocument.exists_of_toFields_eq_error given
              refine .repeatedParameters goes_on calls named.1 (by simpa using named.2) listed twice
                fun key => ?_
              simpa using count_repeatedKeys [] entries key
  · next goes_on asks =>
      split at h
      · next unasked =>
          cases h
          exact .noPrompt goes_on asks unasked
      · cases h

/-- The step is the one that is written. -/
structure Describes (doc : StepDocument) (step : Step) : Prop where
  id : step.id = doc.id
  action : doc.Declares step.action
  transitions : step.transitions = doc.allTransitions
  thoughts : step.thoughts = doc.thoughts

theorem toStep_eq_ok_iff (doc : StepDocument) (step : Step) :
    doc.toStep = .ok step ↔ doc.Describes step := by
  unfold toStep
  constructor
  · intro h
    cases read : doc.toAction with
    | error findings =>
        rw [read] at h
        cases h
    | ok action =>
        rw [read] at h
        cases h
        exact ⟨rfl, declares_of_toAction read, rfl, rfl⟩
  · rintro ⟨id, action, transitions, thoughts⟩
    rw [action.toAction, ← id, ← transitions, ← thoughts]
    rfl

theorem Describes.unique {step step' : Step} (describes : doc.Describes step)
    (describes' : doc.Describes step') : step = step' := by
  rw [← toStep_eq_ok_iff] at describes describes'
  rw [describes] at describes'
  cases describes'
  rfl

theorem Describes.isFinal {step : Step} (describes : doc.Describes step) :
    step.isFinal = doc.isFinal := by
  obtain ⟨id, action, transitions, thoughts⟩ := step
  obtain ⟨_, declared, _, _⟩ := describes
  cases declared with
  | final ends _ => exact ends.symm
  | call goes_on _ _ _ _ => exact goes_on.symm
  | ask goes_on _ _ => exact goes_on.symm

theorem allTransitions_eq_nil_iff (doc : StepDocument) :
    doc.allTransitions = [] ↔ doc.hasTransitions = false := by
  rw [allTransitions, hasTransitions]
  cases doc.transition <;> simp

theorem Describes.transitions_eq_nil_iff {step : Step} (describes : doc.Describes step) :
    step.transitions = [] ↔ doc.hasTransitions = false := by
  rw [describes.transitions, allTransitions_eq_nil_iff]

/-- The findings on the step by itself. -/
def faults (doc : StepDocument) : List Violation :=
  match doc.toStep with
  | .error findings => findings
  | .ok _ => []

theorem hasFaults_faults (doc : StepDocument) : doc.HasFaults doc.faults := by
  unfold faults toStep
  cases read : doc.toAction with
  | error findings => exact hasFaults_of_toAction read
  | ok action => exact .sound ⟨action, declares_of_toAction read⟩

theorem HasFaults.isSound_of_nil (h : doc.HasFaults findings) (none : findings = []) :
    doc.IsSound := by
  cases h with
  | sound sound => exact sound
  | repeatedParameters _ _ _ _ _ twice counted =>
      rw [List.map_eq_nil_iff] at none
      subst none
      refine absurd (List.nodup_iff_count_le_one.2 fun key => ?_) twice
      exact Nat.sub_eq_zero_iff_le.1 (counted key).symm
  | _ => cases none

theorem faults_eq_nil_iff (doc : StepDocument) : doc.faults = [] ↔ doc.IsSound := by
  constructor
  · exact doc.hasFaults_faults.isSound_of_nil
  · rintro ⟨action, declared⟩
    rw [faults, toStep, declared.toAction]
    rfl

theorem exists_describes (sound : doc.IsSound) : ∃ step, doc.Describes step := by
  obtain ⟨action, declared⟩ := sound
  exact ⟨⟨doc.id, action, doc.allTransitions, doc.thoughts⟩, rfl, declared, rfl, rfl⟩

end StepDocument

/-! ## Telling findings apart -/

namespace Violation

/-- Whether the finding is on the form of one step alone. -/
def isOn (id : String) (finding : Violation) : Bool :=
  finding.kind = .schemaViolation && finding.steps = [id]

@[simp] theorem isOn_repeatedId (id other : String) : (repeatedId other).isOn id = false := by
  simp [isOn, repeatedId]

@[simp] theorem repeatedId_inj {id other : String} :
    repeatedId id = repeatedId other ↔ id = other := by
  constructor
  · intro h
    simpa [repeatedId] using congrArg Violation.steps h
  · rintro rfl
    rfl

theorem eq_of_isOn {finding : Violation} {id other : String} (h : finding.isOn id = true)
    (h' : finding.isOn other = true) : id = other := by
  simp only [isOn, Bool.and_eq_true, decide_eq_true_eq] at h h'
  simpa [h.2] using h'.2

end Violation

namespace StepDocument

variable {doc : StepDocument} {findings : List Violation} {finding : Violation}

theorem HasFaults.isOn (h : doc.HasFaults findings) (hfinding : finding ∈ findings) :
    finding.isOn doc.id = true := by
  cases h with
  | sound => cases hfinding
  | repeatedParameters =>
      obtain ⟨key, _, rfl⟩ := List.mem_map.1 hfinding
      simp [Violation.isOn, Violation.repeatedParameter]
  | _ =>
      obtain rfl := List.mem_singleton.1 hfinding
      simp [Violation.isOn, Violation.finalActs, Violation.noAction, Violation.noToolName,
        Violation.noPrompt]

theorem isOn_of_mem_faults (h : finding ∈ doc.faults) : finding.isOn doc.id = true :=
  doc.hasFaults_faults.isOn h

theorem filter_isOn_faults (doc : StepDocument) (id : String) :
    doc.faults.filter (·.isOn id) = if id = doc.id then doc.faults else [] := by
  split
  · next same =>
      rw [List.filter_eq_self]
      intro finding h
      rw [same]
      exact isOn_of_mem_faults h
  · next other =>
      rw [List.filter_eq_nil_iff]
      intro finding h on
      exact other (Violation.eq_of_isOn on (isOn_of_mem_faults h))

theorem repeatedId_not_mem_faults (doc : StepDocument) (id : String) :
    .repeatedId id ∉ doc.faults := by
  intro h
  simpa using isOn_of_mem_faults h

end StepDocument

end Workflow
