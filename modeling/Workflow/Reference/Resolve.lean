import Workflow.Reference.Scan
import Workflow.Json.Printer

/-!
# Resolving placeholders

When a step runs, its placeholders are replaced by recorded values. A string that is exactly one
placeholder becomes the recorded value, whatever its type; in all other strings each placeholder
becomes the text of the value. What a value brings in is not looked at again.
-/

namespace Workflow

/-- Why a placeholder has no value. -/
inductive ResolveError where
  /-- The step has not completed, or has not recorded that field. -/
  | invalidReference (step referenced field : String)
  /-- No fragment up to the consuming one produces the artifact. -/
  | unresolvedArtifact (artifact fragment : String)
  /-- An artifact is left in a graph that runs. -/
  | danglingArtifact (step artifact : String)
deriving DecidableEq, Repr

/-- The message for a placeholder without value. -/
def ResolveError.message : ResolveError → String
  | .invalidReference step referenced field =>
      "Step '" ++ step ++ "' references '" ++ referenced ++ "." ++ field
        ++ "', which is not available"
  | .unresolvedArtifact artifact fragment =>
      "Artifact '" ++ artifact ++ "' consumed by fragment '" ++ fragment ++ "' has no producer"
  | .danglingArtifact step artifact =>
      "Step '" ++ step ++ "' still references artifact '" ++ artifact ++ "'"

/-- The text that a value becomes inside another text: strings as they are, all else as JSON. -/
def Json.rendered : Json → String
  | .text s => s
  | value => value.compact

/-- The recorded value of a reference made by `step`. -/
def State.resolve (state : State) (step : String) : Reference → Except ResolveError Json
  | .output referenced field =>
      match state.field? referenced field with
      | some value => .ok value
      | none => .error (.invalidReference step referenced field)
  | .artifact name => .error (.danglingArtifact step name)

/-- The text of a template with its references resolved in order. -/
def Template.fill (resolve : Reference → Except ResolveError Json) :
    Template → Except ResolveError (List Char)
  | [] => .ok []
  | .literal c :: rest => (Template.fill resolve rest).map (c :: ·)
  | .reference r :: rest => do
      let value ← resolve r
      let text ← Template.fill resolve rest
      return value.rendered.toList ++ text

/-- A text with its placeholders replaced by the texts of their values. -/
def resolvePrompt (step prompt : String) (state : State) : Except ResolveError String :=
  (Template.fill (state.resolve step) (Template.ofText prompt)).map String.ofList

/-- A string parameter with its placeholders resolved. -/
def resolveString (step text : String) (state : State) : Except ResolveError Json :=
  match Template.ofText text with
  | [.reference r] => state.resolve step r
  | template => (Template.fill (state.resolve step) template).map fun cs => .text (String.ofList cs)

mutual

/-- A value with the placeholders in its strings resolved. -/
def resolveValue (step : String) (state : State) : Json → Except ResolveError Json
  | .text s => resolveString step s state
  | .array items => (resolveItems step state items).map .array
  | .object fields => (resolveFields step state fields).map .object
  | value => .ok value

/-- The items of an array, resolved in order. -/
def resolveItems (step : String) (state : State) : List Json → Except ResolveError (List Json)
  | [] => .ok []
  | item :: rest => do
      let value ← resolveValue step state item
      let values ← resolveItems step state rest
      return value :: values

/-- The fields of an object, resolved in order. -/
def resolveFields (step : String) (state : State) :
    List (String × Json) → Except ResolveError (List (String × Json))
  | [] => .ok []
  | (key, item) :: rest => do
      let value ← resolveValue step state item
      let fields ← resolveFields step state rest
      return (key, value) :: fields

end

/-- The parameters of a tool call, resolved in order of their names. -/
def resolveParameters (step : String) (parameters : Fields) (state : State) :
    Except ResolveError Fields :=
  (resolveFields step state parameters.entries).map Dict.ofList

end Workflow
