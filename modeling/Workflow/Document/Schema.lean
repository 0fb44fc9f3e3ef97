import Workflow.Json.Basic

/-!
# The schema of documents

Planners are told the form of documents by JSON Schema, draft 7. A schema is an object whose
keywords stand in a fixed order: what it is for, the type, the alternatives, and then what is
demanded of the parts.
-/

namespace Workflow

/-- The keywords of a schema, in the order in which they are written. -/
abbrev SchemaFields := List (String × Json)

namespace SchemaFields

/-- The schema with a description. -/
def described (text : String) (schema : SchemaFields) : SchemaFields :=
  ("description", .text text) :: schema

/-- A value of one type. -/
def type (name : String) : SchemaFields := [("type", .text name)]

/-- A text. -/
def text : SchemaFields := type "string"

/-- A truth value. -/
def truth : SchemaFields := type "boolean"

/-- A text or null. -/
def optionalText : SchemaFields := [("type", .texts ["string", "null"])]

/-- The schema defined under a name. -/
def definition (name : String) : SchemaFields := [("$ref", .text ("#/definitions/" ++ name))]

/-- The schema defined under a name, in a form that keywords can be added to. -/
def extended (name : String) : SchemaFields := [("allOf", .array [.object (definition name)])]

/-- One of several schemas. -/
def anyOf (schemas : List SchemaFields) : SchemaFields := [("anyOf", .array (schemas.map .object))]

/-- The schema defined under a name, or null. -/
def optional (name : String) : SchemaFields := anyOf [definition name, type "null"]

/-- A list. -/
def list (items : SchemaFields) : SchemaFields := type "array" ++ [("items", .object items)]

/-- A list or null. -/
def optionalList (items : SchemaFields) : SchemaFields :=
  [("type", .texts ["array", "null"]), ("items", .object items)]

/-- A map with values of one kind. -/
def map (values : Json) : SchemaFields := type "object" ++ [("additionalProperties", values)]

/-- A word with what it means. -/
def word (text meaning : String) : SchemaFields :=
  described meaning (type "string" ++ [("enum", .texts [text])])

/-- A record: the fields that have to be present, and the schema of each field. -/
def record (required : List String) (fields : List (String × Json)) : SchemaFields :=
  type "object"
    ++ (if required.isEmpty then [] else [("required", .texts (sortedNames required))])
    ++ [("properties", .ofFields (Dict.ofList fields))]

/-- A field of a record. -/
def field (name : String) (schema : SchemaFields) : String × Json := (name, .object schema)

end SchemaFields

open SchemaFields

/-! ## Definitions -/

/-- A kind of action. -/
def actionKindSchema : SchemaFields :=
  [("oneOf", .array
    [.object (word "call_tool" "Invoke an external tool with parameters."),
      .object (word "call_llm" "Ask the reasoning collaborator with a prompt.")])]

/-- A binding of an artifact. -/
def bindingSchema : SchemaFields :=
  record ["step", "field"] [field "step" (definition "StepRef"), field "field" text]

/-- A dependency. -/
def dependencySchema : SchemaFields :=
  record ["artifact", "producer", "consumer"]
    [field "artifact" text, field "producer" text, field "consumer" text]

/-- What is known of the origin of a graph. -/
def metadataSchema : SchemaFields :=
  record []
    [field "original_prompt"
      (described "The request the workflow was planned for." optionalText)]

/-- A parameter in a list. -/
def parameterEntrySchema : SchemaFields :=
  described "One \x60\x7bkey, value\x7d\x60 parameter entry"
    (record ["key", "value"] [field "key" text, ("value", .bool true)])

/-- Parameters. -/
def parametersSchema : SchemaFields :=
  described "Tool parameters, either as a map or as a list of \x60\x7bkey, value\x7d\x60 entries"
    (anyOf [SchemaFields.map (.bool true), list (definition "ParameterEntry")])

/-- A step. -/
def stepSchema : SchemaFields :=
  record ["id"]
    [field "id" (described "Unique step id." (extended "StepRef")),
      field "action"
        (described "call_tool or call_llm; omitted on final steps." (optional "ActionKind")),
      field "tool_name" optionalText,
      field "parameters"
        (described "Tool parameters; string values may hold \x7bstep.field\x7d placeholders."
          (extended "ParametersDocument")),
      field "prompt"
        (described "Prompt for call_llm; may hold \x7bstep.field\x7d placeholders." optionalText),
      field "thoughts" optionalText,
      field "transition"
        (described "A single outgoing transition; read as a one-element transitions list."
          (optional "TransitionDocument")),
      field "transitions" (list (definition "TransitionDocument")),
      field "is_final" truth]

/-- The id of a step. -/
def stepIdSchema : SchemaFields :=
  described "Step id as written by a planner; numbers are read as strings"
    (anyOf
      [type "integer" ++ [("format", .text "uint64"), ("minimum", .float (.ofInt 0))], text])

/-- A transition. -/
def transitionSchema : SchemaFields :=
  record ["condition", "next_step"]
    [field "condition"
        (described "Outcome label, or a condition such as \"fetch.conditions == 'rainy'\"." text),
      field "next_step" (described "Id of the step to run next." (extended "StepRef"))]

/-- The fields of a graph. -/
def graphSchemaFields : List (String × Json) :=
  [field "title" optionalText, field "description" optionalText,
    field "target_objective" optionalText, field "metadata" (optional "MetadataDocument"),
    field "entry"
      (described
        "Entry step id; defaults to step 1, or to the first listed step when there is no step 1."
        (optional "StepRef")),
    field "steps"
      (described "Steps in any order. When no step declares a transition, steps run in list order."
        (list (definition "StepDocument")))]

/-- A graph. -/
def graphSchema : SchemaFields := record ["steps"] graphSchemaFields

/-- A fragment. -/
def fragmentSchema : SchemaFields :=
  record ["name", "steps"]
    (field "name" (described "Fragment name, unique within a plan." text)
      :: graphSchemaFields ++
      [field "produces"
          (described "Artifacts this fragment exposes, bound to a step output field."
            (SchemaFields.map (.object (definition "BindingDocument")))),
        field "consumes"
          (described "Artifacts this fragment reads as bare \x7bartifact\x7d placeholders."
            (list text))])

/-- A plan. -/
def planSchema : SchemaFields :=
  record ["fragments"]
    [field "fragments"
        (described "Fragments in execution order." (list (definition "FragmentDocument"))),
      field "dependencies"
        (described "Artifact edges between fragments; derived from declarations when omitted."
          (optionalList (definition "DependencyDocument")))]

/-! ## Documents -/

/-- The kinds of documents that have a schema. -/
inductive DocumentKind where
  | graph
  | fragment
  | plan
deriving DecidableEq, Repr

/-- The schemas that graphs refer to. -/
def graphDefinitions : List (String × Json) :=
  [field "ActionKind" actionKindSchema, field "MetadataDocument" metadataSchema,
    field "ParameterEntry" parameterEntrySchema, field "ParametersDocument" parametersSchema,
    field "StepDocument" stepSchema, field "StepRef" stepIdSchema,
    field "TransitionDocument" transitionSchema]

/-- A schema with a title and the schemas that it refers to. -/
def rootSchema (title : String) (schema : SchemaFields) (definitions : List (String × Json)) :
    Json :=
  .object
    ([("$schema", .text "http://json-schema.org/draft-07/schema#"), ("title", .text title)]
      ++ schema ++ [("definitions", .ofFields (Dict.ofList definitions))])

/-- The schema of a kind of document. -/
def DocumentKind.schema : DocumentKind → Json
  | .graph => rootSchema "GraphDocument" graphSchema graphDefinitions
  | .fragment =>
      rootSchema "FragmentDocument" fragmentSchema
        (field "BindingDocument" bindingSchema :: graphDefinitions)
  | .plan =>
      rootSchema "PlanDocument" planSchema
        (graphDefinitions ++
          [field "BindingDocument" bindingSchema, field "DependencyDocument" dependencySchema,
            field "FragmentDocument" fragmentSchema])

end Workflow
