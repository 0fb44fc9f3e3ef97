import Workflow.Proofs.Document.Written
import Workflow.Run.Snapshot

/-!
# Saved runs are read again

The fields of the status of a run stand among those of the run itself, which are told apart by their
names: what is left for the status when the run has taken its own fields is what the status wrote.

Main statement: `readRun_of_shows`, a part that shows a written run is read as this run.
-/

namespace Workflow

open Source

variable {source : Source}

/-- All recorded values are canonical. -/
def State.IsCanonical (state : State) : Prop := ∀ p ∈ state.outputs.entries, p.2.AllCanonical

/-- All values in the run are canonical: what its steps have recorded, and what a tool is called
with. -/
structure Run.IsCanonical (run : Run) : Prop where
  recorded : run.state.IsCanonical
  called : ∀ invocation, run.status = .awaitingTool invocation → invocation.parameters.AllCanonical

/-! ## Parts of runs -/

theorem readInvocation_of_shows {invocation : Invocation}
    (canonical : invocation.parameters.AllCanonical) (h : source.Shows invocation.toJson) :
    readInvocation source = pure invocation := by
  have distinct : ([("step", Json.text invocation.step), ("tool_name", .text invocation.tool),
      ("resolved_parameters", .ofFields invocation.parameters)].map (·.1)).Nodup := by simp
  obtain ⟨found, hrecord, shows⟩ :=
    record?_of_shows ["step", "tool_name", "resolved_parameters"] distinct h
  have step : found.required "step" text? = pure invocation.step :=
    shows.required (by decide) rfl fun _ => text?_of_shows
  have tool : found.required "tool_name" text? = pure invocation.tool :=
    shows.required (by decide) rfl fun _ => text?_of_shows
  have parameters : found.required "resolved_parameters" (dict? value?) =
      pure invocation.parameters :=
    shows.required (by decide) rfl fun _ => fields_of_shows canonical
  simp only [readInvocation, hrecord, step, tool, parameters, pure_bind]

theorem readFailure_of_shows {failure : Failure} (h : source.Shows failure.toJson) :
    readFailure source = pure failure := by
  have distinct : ([("step", Json.textOrNull failure.step), ("kind", .text failure.kind),
      ("message", .text failure.message)].map (·.1)).Nodup := by simp
  obtain ⟨found, hrecord, shows⟩ := record?_of_shows ["step", "kind", "message"] distinct h
  have step : found.optional "step" text? = pure failure.step :=
    shows.nullable .text (by decide) rfl (by simp) fun _ _ _ => text?_of_shows
  have kind : found.required "kind" text? = pure failure.kind :=
    shows.required (by decide) rfl fun _ => text?_of_shows
  have message : found.required "message" text? = pure failure.message :=
    shows.required (by decide) rfl fun _ => text?_of_shows
  simp only [readFailure, hrecord, step, kind, message, pure_bind]

theorem Source.FieldValues.Show.lookup_texts {found : FieldValues} {names : List String}
    {fields : List (String × Json)} (shows : found.Show names fields) {name : String}
    (known : name ∈ names) {text : Option String} (there : fields.lookup name = text.map .text) :
    found.lookup name = text.map ofText := by
  cases text with
  | none => exact shows.lookup_eq_none known there
  | some text =>
      obtain ⟨part, hpart, hshows⟩ := shows.exists_part known there
      rw [hpart, hshows.text, Option.map_some]

namespace Cursor

/-- The word for what comes next. -/
def word : Cursor → String
  | enter _ => "enter"
  | leave _ => "leave"
  | idle => "idle"

/-- The fields of a cursor as written, those that are left out included. -/
def slots (cursor : Cursor) : List (String × Option Json) :=
  [("at", some (.text cursor.word)), ("step", cursor.step?.map .text)]

theorem toJson_eq_present (cursor : Cursor) : cursor.toJson = .object (present cursor.slots) := by
  cases cursor <;> rfl

theorem makeCursor_word (cursor : Cursor) :
    makeCursor cursor.word (cursor.step?.map ofText) = pure cursor := by
  cases cursor <;> rfl

end Cursor

theorem readCursor_of_shows {cursor : Cursor} (h : source.Shows cursor.toJson) :
    readCursor source = pure cursor := by
  have distinct : (cursor.slots.map (·.1)).Nodup := by
    show ["at", "step"].Nodup
    decide
  rw [cursor.toJson_eq_present] at h
  obtain ⟨found, hrecord, shows⟩ := record?_of_shows ["at", "step"] (distinct_present distinct) h
  obtain ⟨standing, fields', _, _, rfl, _, _⟩ := h.object
  have collected : collectFields ["at", "step"] [] (treeFields standing fields') = pure found :=
    hrecord
  have word : found.lookup "at" = (some cursor.word).map ofText :=
    shows.lookup_texts (by decide) (lookup_present distinct _)
  have step : found.lookup "step" = cursor.step?.map ofText :=
    shows.lookup_texts (by decide) (lookup_present distinct _)
  have known : found.required "at" (knownWord? cursorWords) = pure cursor.word := by
    rw [FieldValues.required, word]
    rfl
  simp only [readCursor, collected, known, step, pure_bind, cursor.makeCursor_word]

/-! ## Statuses -/

/-- What the status is read from shows its fields. -/
theorem readStatus_of_shows {status : RunStatus} {entries : List (Source × Source)}
    (canonical : ∀ invocation, status = .awaitingTool invocation →
      invocation.parameters.AllCanonical)
    (h : (Source.map .aside entries).Shows (.object status.fields)) :
    readStatus entries = pure status := by
  have distinct : (status.fields.map (·.1)).Nodup := by
    cases status <;> simp [RunStatus.fields]
  have collected (names : List String) : ∃ found, collectFields names [] entries = pure found ∧
      FieldValues.Show found names status.fields := record?_of_shows names distinct h
  have word : ∃ found, collectFields ["status"] [] entries = pure found ∧
      found.required "status" (wordOrPlace? statusWords) = pure status.name := by
    obtain ⟨found, hfound, shows⟩ := collected ["status"]
    refine ⟨found, hfound, shows.required (by decide) rfl ?_⟩
    intro part hpart
    rw [hpart.text]
    rfl
  obtain ⟨_, hfound, hword⟩ := word
  simp only [readStatus, hfound, hword, pure_bind]
  cases status with
  | pending => rfl
  | running => rfl
  | completed => rfl
  | aborted => rfl
  | awaitingTool invocation =>
      obtain ⟨found, hfound, shows⟩ := collected ["invocation"]
      have read : found.required "invocation" readInvocation = pure invocation :=
        shows.required (by decide) rfl fun _ => readInvocation_of_shows (canonical invocation rfl)
      simp only [RunStatus.name, hfound, read, pure_bind]
  | awaitingBranch step labels =>
      obtain ⟨found, hfound, shows⟩ := collected ["step", "labels"]
      have id : found.required "step" text? = pure step :=
        shows.required (by decide) rfl fun _ => text?_of_shows
      have texts : found.required "labels" (list? text?) = pure labels :=
        shows.required (by decide) rfl fun _ => texts_of_shows
      simp only [RunStatus.name, hfound, id, texts, pure_bind]
  | failed failure =>
      obtain ⟨found, hfound, shows⟩ := collected ["failure"]
      have read : found.required "failure" readFailure = pure failure :=
        shows.required (by decide) rfl fun _ => readFailure_of_shows
      simp only [RunStatus.name, hfound, read, pure_bind]

/-! ## Runs -/

namespace Run

/-- The fields of a run before those of its status. -/
def leadSlots (run : Run) : List (String × Option Json) :=
  [("run_id", some (.text run.id)), ("started_at", some (.text run.startedAt)),
    ("parent", run.parent.map .text)]

/-- The fields of a run after those of its status. -/
def recordSlots (run : Run) : List (String × Option Json) :=
  [("state", some run.state.toJson), ("cursor", some run.cursor.toJson),
    ("trail", some (.texts run.trail)), ("finished", some (.array (run.finished.map .texts)))]

/-- The fields of a run as written, those that are left out included. -/
def slots (run : Run) : List (String × Option Json) :=
  run.leadSlots ++ run.status.fields.map (fun p => (p.1, some p.2)) ++ run.recordSlots

/-- The names of the fields that are not those of the status. -/
def ownFields : List String :=
  ["run_id", "started_at", "parent", "state", "cursor", "trail", "finished"]

theorem toJson_eq_present (run : Run) : run.toJson = .object (present run.slots) := by
  unfold toJson slots
  cases h : run.parent <;> cases run.status <;> simp [leadSlots, h] <;> rfl

theorem distinct_slots (run : Run) : (run.slots.map (·.1)).Nodup := by
  unfold slots
  cases run.status <;> simp [RunStatus.fields, leadSlots, recordSlots]

/-- What is left of the fields when the run has taken its own is what the status wrote. -/
theorem filter_present (run : Run) :
    (present run.slots).filter (·.1 ∉ ownFields) = run.status.fields := by
  unfold slots leadSlots
  cases run.parent <;> cases run.status <;> rfl

/-- No field of the status has the name of one of the run. -/
theorem lookup_ownSlots (run : Run) {name : String} (own : name ∈ ownFields) :
    (present run.slots).lookup name = ((run.leadSlots ++ run.recordSlots).lookup name).join := by
  rw [lookup_present run.distinct_slots]
  unfold slots
  simp only [ownFields, List.mem_cons, List.not_mem_nil, or_false] at own
  rcases own with rfl | rfl | rfl | rfl | rfl | rfl | rfl <;> cases run.status <;> rfl

end Run

/-- A written run is read as itself, whatever the order of the fields in it. -/
theorem readRun_of_shows {run : Run} (canonical : run.IsCanonical) (h : source.Shows run.toJson) :
    readRun source = pure run := by
  rw [run.toJson_eq_present] at h
  obtain ⟨found, rest, hsplit, shows, inner⟩ :=
    splitRecord?_of_shows Run.ownFields (distinct_present run.distinct_slots) h
  rw [run.filter_present] at inner
  have lookup {name : String} (own : name ∈ Run.ownFields) := run.lookup_ownSlots own
  have id : found.required "run_id" text? = pure run.id :=
    shows.required (by decide) (lookup (by decide)) fun _ => text?_of_shows
  have startedAt : found.required "started_at" text? = pure run.startedAt :=
    shows.required (by decide) (lookup (by decide)) fun _ => text?_of_shows
  have parent : found.optional "parent" text? = pure run.parent :=
    shows.optional .text (by decide) (lookup (by decide)) (by simp) fun _ _ _ => text?_of_shows
  have status : readStatus rest = pure run.status := readStatus_of_shows canonical.called inner
  have outputs : found.required "state" (dict? (dict? value?)) = pure run.state.outputs := by
    refine shows.required (by decide) (lookup (by decide)) fun _ hpart => ?_
    refine dict?_of_shows hpart fun p hp _ => ?_
    exact fields_of_shows (canonical.recorded p hp)
  have cursor : found.required "cursor" readCursor = pure run.cursor :=
    shows.required (by decide) (lookup (by decide)) fun _ => readCursor_of_shows
  have trail : found.required "trail" (list? text?) = pure run.trail :=
    shows.required (by decide) (lookup (by decide)) fun _ => texts_of_shows
  have finished : found.required "finished" (list? (list? text?)) = pure run.finished := by
    refine shows.required (by decide) (lookup (by decide)) fun _ hpart => ?_
    exact list?_of_shows hpart fun _ _ _ => texts_of_shows
  unfold Run.ownFields at hsplit
  simp only [readRun, hsplit, id, startedAt, parent, status, outputs, cursor, trail, finished,
    pure_bind]

end Workflow
