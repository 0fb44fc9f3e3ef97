import Workflow.Json.Basic

/-!
# Tools

A run never calls a tool by itself. It knows of each tool which inputs it takes and which fields a
result has to have, and hands out an invocation when it reaches a tool step. A catalog declares
tools and can stand in for them in a dry run, with a canned result or with a made-up value for each
output.
-/

namespace Workflow

/-- An input of a tool. -/
structure ToolInput where
  name : String
  required : Bool
deriving DecidableEq, Repr

/-- What a tool takes and gives. -/
structure ToolSchema where
  name : String
  description : String
  inputs : List ToolInput
  /-- The fields that every result has. -/
  outputs : List String
deriving DecidableEq, Repr

namespace ToolSchema

/-- Whether the tool has an input of this name. -/
def declaresInput (schema : ToolSchema) (name : String) : Bool := schema.inputs.any (·.name = name)

/-- Whether results of the tool have this field. -/
def declaresOutput (schema : ToolSchema) (field : String) : Bool := field ∈ schema.outputs

/-- The declared outputs that a result lacks. -/
def missingOutputs (schema : ToolSchema) (result : Fields) : List String :=
  schema.outputs.filter fun field => !result.contains field

end ToolSchema

/-- What is known of the tools: a schema for each tool that exists. -/
abbrev Schemas := String → Option ToolSchema

/-- A tool call that a run waits for. -/
structure Invocation where
  step : String
  tool : String
  parameters : Fields
deriving DecidableEq

/-- A tool in a catalog. -/
structure CatalogEntry where
  schema : ToolSchema
  /-- The result that a dry run gives for every call. -/
  response : Option Fields
deriving DecidableEq

/-- Tools by name. -/
structure Catalog where
  tools : Dict CatalogEntry
deriving DecidableEq

namespace Catalog

/-- The catalog without tools. -/
def empty : Catalog := ⟨.empty⟩

/-- Adds a tool; one of the same name is replaced. -/
def insert (catalog : Catalog) (entry : CatalogEntry) : Catalog :=
  ⟨catalog.tools.insert entry.schema.name entry⟩

/-- The catalog of a list of tools; of two with one name the later counts. -/
def ofList (entries : List CatalogEntry) : Catalog := entries.foldl insert empty

/-- The schema of a tool. -/
def schema? (catalog : Catalog) : Schemas := fun tool => (catalog.tools.get? tool).map (·.schema)

/-- The result of a call in a dry run, or what is wrong with the call. -/
def dispatch (catalog : Catalog) (tool : String) : Except String Fields :=
  match catalog.tools.get? tool with
  | none => .error ("Unknown tool: " ++ tool)
  | some entry =>
      match entry.response with
      | some response => .ok response
      | none =>
          .ok (Dict.ofList (entry.schema.outputs.map fun field =>
            (field, .text ("<" ++ tool ++ "." ++ field ++ ">"))))

end Catalog

end Workflow
