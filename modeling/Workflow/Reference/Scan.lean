import Workflow.Reference.Template
import Workflow.Graph.Basic

/-!
# References in values, actions and steps

A JSON value refers to something wherever one of its strings holds a placeholder; keys are not
looked at. A step refers to what its parameters or prompt name, and, once it is completed, to what
the labels of its transitions read. References are replaced where they are found; who replaces them
one after the other may take notes on the way.
-/

namespace Workflow

/-! ## Strings inside values -/

mutual

/-- The strings in a value in order, keys left out. -/
def Json.strings : Json → List String
  | .text s => [s]
  | .array items => Json.itemStrings items
  | .object fields => Json.fieldStrings fields
  | _ => []

/-- The strings in the items of an array. -/
def Json.itemStrings : List Json → List String
  | [] => []
  | item :: rest => item.strings ++ Json.itemStrings rest

/-- The strings in the values of an object. -/
def Json.fieldStrings : List (String × Json) → List String
  | [] => []
  | (_, value) :: rest => value.strings ++ Json.fieldStrings rest

end

mutual

/-- Applies `f` to every string in a value, keys left alone. -/
def Json.mapStrings (f : String → String) : Json → Json
  | .text s => .text (f s)
  | .array items => .array (Json.mapItemStrings f items)
  | .object fields => .object (Json.mapFieldStrings f fields)
  | value => value

/-- Applies `f` to every string in the items of an array. -/
def Json.mapItemStrings (f : String → String) : List Json → List Json
  | [] => []
  | item :: rest => item.mapStrings f :: Json.mapItemStrings f rest

/-- Applies `f` to every string in the values of an object. -/
def Json.mapFieldStrings (f : String → String) : List (String × Json) → List (String × Json)
  | [] => []
  | (key, value) :: rest => (key, value.mapStrings f) :: Json.mapFieldStrings f rest

end

/-! ## Scanning -/

/-- The references in a value, in order of appearance. -/
def referencesInValue (value : Json) : List Reference := value.strings.flatMap referencesInText

/-- The references in the parameters or the prompt of an action, in order of appearance. -/
def Action.references : Action → List Reference
  | .tool _ parameters => parameters.values.flatMap referencesInValue
  | .reasoning prompt => referencesInText prompt
  | .final => []

/-- The references in the parameters or the prompt of a step, in order of appearance. -/
def Step.actionReferences (step : Step) : List Reference := step.action.references

/-- What the labels of the transitions of a step read, each once, in order of appearance. -/
def Step.labelReferences (step : Step) : List Reference :=
  (step.labels.flatMap Workflow.labelReferences).foldl
    (fun found reference => if reference ∈ found then found else found ++ [reference]) []

/-- All that a step refers to, first in its action and then in its labels. -/
def Step.references (step : Step) : List Reference := step.actionReferences ++ step.labelReferences

/-! ## Substitution -/

/-- The value with its placeholders replaced; one for which `replace` gives nothing is kept. -/
def substituteValue (replace : Reference → Option Reference) (value : Json) : Json :=
  value.mapStrings (substituteText replace)

/-- The action with the placeholders in its parameters or prompt replaced. -/
def Action.substitute (replace : Reference → Option Reference) : Action → Action
  | .tool name parameters => .tool name (parameters.map (substituteValue replace))
  | .reasoning prompt => .reasoning (substituteText replace prompt)
  | .final => .final

/-! ## Substitution with notes -/

section Rewriting

variable {σ : Type} (replace : Reference → StateM σ (Option Reference))

/-- Replaces references in order, which may change a state; one for which `replace` gives nothing is
kept. -/
def Template.rewrite : Template → StateM σ Template
  | [] => return []
  | .literal c :: rest => do
      let rest ← Template.rewrite rest
      return .literal c :: rest
  | .reference r :: rest => do
      let new ← replace r
      let rest ← Template.rewrite rest
      return .reference (new.getD r) :: rest

/-- The text with its placeholders replaced in order. -/
def rewriteText (text : String) : StateM σ String := do
  let template ← (Template.ofText text).rewrite replace
  return String.ofList template.render

mutual

/-- The value with the placeholders in its strings replaced in order. -/
def rewriteValue : Json → StateM σ Json
  | .text s => do
      let text ← rewriteText replace s
      return .text text
  | .array items => do
      let items ← rewriteItems items
      return .array items
  | .object fields => do
      let fields ← rewriteFields fields
      return .object fields
  | value => return value

/-- The items of an array, rewritten in order. -/
def rewriteItems : List Json → StateM σ (List Json)
  | [] => return []
  | item :: rest => do
      let value ← rewriteValue item
      let values ← rewriteItems rest
      return value :: values

/-- The fields of an object, rewritten in order. -/
def rewriteFields : List (String × Json) → StateM σ (List (String × Json))
  | [] => return []
  | (key, item) :: rest => do
      let value ← rewriteValue item
      let fields ← rewriteFields rest
      return (key, value) :: fields

end

/-- The action with the placeholders in its parameters or prompt replaced in order. -/
def Action.rewrite : Action → StateM σ Action
  | .tool name parameters => do
      let fields ← rewriteFields replace parameters.entries
      return .tool name (Dict.ofList fields)
  | .reasoning prompt => do
      let prompt ← rewriteText replace prompt
      return .reasoning prompt
  | .final => return .final

end Rewriting

end Workflow
