import Workflow.Json.Basic
import Workflow.Number.Reading

/-!
# The state of a run

A run records the outputs of the steps it has completed, a dictionary of fields for each. An entry
is written in one piece when its step completes. A state path names a step and one of its fields,
and may go on into the value of that field: by key into an object, by position into an array.

Main statements: `State.get?_commit` and `State.field?_commit` say what recording a step does to
every look-up.
-/

namespace Workflow

/-- A path `step.field`, possibly followed by keys or positions inside the value of the field. -/
structure Path where
  step : String
  field : String
  inner : List String
deriving DecidableEq, Repr

namespace Path

/-- The parts of the path in order. -/
def segments (path : Path) : List String := path.step :: path.field :: path.inner

/-- The path in writing, its parts separated by points. -/
def text (path : Path) : String := ".".intercalate path.segments

/-- The path with these parts, if there are at least two. -/
def ofSegments? : List String → Option Path
  | step :: field :: inner => some ⟨step, field, inner⟩
  | _ => none

/-- The path that a text spells. -/
def ofText? (text : String) : Option Path :=
  ofSegments? ((text.toList.splitOn '.').map String.ofList)

end Path

/-- The position that a path segment names: decimal digits, after a plus sign if there is one, that
stay below the range of machine words. -/
def position? (segment : String) : Option Nat :=
  let digits :=
    match segment.toList with
    | '+' :: rest => rest
    | text => text
  (readNat? digits).filter (· < Nat.pow 2 64)

/-- The part of a value that a path segment leads to. -/
def Json.child? (segment : String) : Json → Option Json
  | .array items => (position? segment).bind (items[·]?)
  | .object fields => fields.lookup segment
  | _ => none

/-- The outputs of the completed steps. -/
structure State where
  outputs : Dict Fields
deriving DecidableEq

namespace State

/-- The state in which no step is completed. -/
def empty : State := ⟨.empty⟩

/-- Records the full output of a step. -/
def commit (state : State) (step : String) (outputs : Fields) : State :=
  ⟨state.outputs.insert step outputs⟩

/-- The recorded output of a step. -/
def get? (state : State) (step : String) : Option Fields := state.outputs.get? step

/-- Whether the step is completed. -/
def isCompleted (state : State) (step : String) : Bool := state.outputs.contains step

/-- The recorded value of one field of a step. -/
def field? (state : State) (step field : String) : Option Json :=
  (state.get? step).bind (·.get? field)

/-- The recorded value at a path. -/
def at? (state : State) (path : Path) : Option Json :=
  path.inner.foldl (fun value segment => value.bind (Json.child? segment))
    (state.field? path.step path.field)

/-- The completed steps, in ascending order. -/
def completed (state : State) : List String := state.outputs.keys

/-- The state as an object of objects. -/
def toJson (state : State) : Json := .ofFields (state.outputs.map Json.ofFields)

@[simp] theorem get?_empty (step : String) : empty.get? step = none := rfl

theorem get?_commit (state : State) (step : String) (outputs : Fields) (s : String) :
    (state.commit step outputs).get? s = if s = step then some outputs else state.get? s :=
  Dict.get?_insert state.outputs step outputs s

end State

end Workflow
