import Workflow.Document.Reading
import Workflow.Json.Printer
import Workflow.Run.Basic
import Workflow.Source.JsonText

/-!
# Saved runs

A run is saved as a JSON object. The fields of its status stand among its own, led by the word for
the status, and the cursor is an object with a word for what comes next and the step where it
stands.
-/

namespace Workflow

open Source

/-! ## Writing -/

/-- A tool call as written. -/
def Invocation.toJson (invocation : Invocation) : Json :=
  .object
    [("step", .text invocation.step), ("tool_name", .text invocation.tool),
      ("resolved_parameters", .ofFields invocation.parameters)]

/-- A failure as written. -/
def Failure.toJson (failure : Failure) : Json :=
  .object
    [("step", .textOrNull failure.step), ("kind", .text failure.kind),
      ("message", .text failure.message)]

/-- The fields of a status as written. -/
def RunStatus.fields (status : RunStatus) : List (String × Json) :=
  ("status", .text status.name) ::
    match status with
    | .awaitingTool invocation => [("invocation", invocation.toJson)]
    | .awaitingBranch step labels => [("step", .text step), ("labels", .texts labels)]
    | .failed failure => [("failure", failure.toJson)]
    | .pending | .running | .completed | .aborted => []

/-- A cursor as written. -/
def Cursor.toJson : Cursor → Json
  | enter step => .object [("at", .text "enter"), ("step", .text step)]
  | leave step => .object [("at", .text "leave"), ("step", .text step)]
  | idle => .object [("at", .text "idle")]

/-- A run as written. -/
def Run.toJson (run : Run) : Json :=
  .object
    ([("run_id", .text run.id), ("started_at", .text run.startedAt)]
      ++ (run.parent.map fun parent => ("parent", .text parent)).toList
      ++ run.status.fields
      ++ [("state", run.state.toJson), ("cursor", run.cursor.toJson), ("trail", .texts run.trail),
        ("finished", .array (run.finished.map .texts))])

/-- The text of the file in which a run is saved. -/
def Run.text (run : Run) : String := run.toJson.pretty

/-! ## Reading -/

/-- Reads a tool call. -/
def readInvocation (source : Source) : Reading Invocation := do
  let fields ← record? ["step", "tool_name", "resolved_parameters"] source
  let step ← fields.required "step" text?
  let tool ← fields.required "tool_name" text?
  let parameters ← fields.required "resolved_parameters" (dict? value?)
  return { step, tool, parameters }

/-- Reads a failure. -/
def readFailure (source : Source) : Reading Failure := do
  let fields ← record? ["step", "kind", "message"] source
  let step ← fields.optional "step" text?
  let kind ← fields.required "kind" text?
  let message ← fields.required "message" text?
  return { step, kind, message }

/-- The words for a status, in their order. -/
def statusWords : List String :=
  ["pending", "running", "awaiting_tool", "awaiting_branch", "completed", "failed", "aborted"]

/-- Reads a status from the entries that are set aside for it. -/
def readStatus (entries : List (Source × Source)) : Reading RunStatus := do
  let word ← (← collectFields ["status"] [] entries).required "status" (wordOrPlace? statusWords)
  match word with
  | "pending" => return .pending
  | "running" => return .running
  | "awaiting_tool" =>
      let fields ← collectFields ["invocation"] [] entries
      return .awaitingTool (← fields.required "invocation" readInvocation)
  | "awaiting_branch" =>
      let fields ← collectFields ["step", "labels"] [] entries
      let step ← fields.required "step" text?
      let labels ← fields.required "labels" (list? text?)
      return .awaitingBranch step labels
  | "completed" => return .completed
  | "failed" =>
      let fields ← collectFields ["failure"] [] entries
      return .failed (← fields.required "failure" readFailure)
  | "aborted" => return .aborted
  | _ => failure

/-- The words for what comes next. -/
def cursorWords : List String := ["enter", "leave", "idle"]

/-- The cursor that a word and a step describe. -/
def makeCursor (word : String) (step : Option Source) : Reading Cursor :=
  match word, step with
  | "enter", some step => .enter <$> text? step
  | "leave", some step => .leave <$> text? step
  | "idle", step => if step.all (·.absent? = some true) then return .idle else failure
  | _, _ => failure

/-- Reads a cursor: an object, or the list of its two parts. -/
def readCursor : Source → Reading Cursor
  | .map _ entries => do
      let fields ← collectFields ["at", "step"] [] entries
      let word ← fields.required "at" (knownWord? cursorWords)
      makeCursor word (fields.lookup "step")
  | .list _ [word, step] => do
      let word ← knownWord? cursorWords word
      makeCursor word (some step)
  | _ => failure

/-- Reads a run. -/
def readRun (source : Source) : Reading Run := do
  let (fields, rest) ←
    splitRecord? ["run_id", "started_at", "parent", "state", "cursor", "trail", "finished"] source
  let id ← fields.required "run_id" text?
  let startedAt ← fields.required "started_at" text?
  let parent ← fields.optional "parent" text?
  let status ← readStatus rest
  let outputs ← fields.required "state" (dict? (dict? value?))
  let cursor ← fields.required "cursor" readCursor
  let trail ← fields.required "trail" (list? text?)
  let finished ← fields.required "finished" (list? (list? text?))
  return { id, startedAt, parent, status, state := ⟨outputs⟩, cursor, trail, finished }

/-- The run that a text describes. -/
def Run.ofText? (text : String) : Option Run :=
  (JsonText.read? text).bind fun source => (readRun source).result?

end Workflow
