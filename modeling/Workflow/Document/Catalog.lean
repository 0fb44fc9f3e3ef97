import Workflow.Document.Reading
import Workflow.Tool

/-!
# Catalog documents

A catalog is written as a list of tools. An input is required unless it says otherwise, and a tool
may come with the result that a dry run gives for it.
-/

namespace Workflow

open Source

/-- Reads an input of a tool. -/
def readToolInput (source : Source) : Reading ToolInput := do
  let fields ← record? ["name", "required"] source
  let name ← fields.required "name" text?
  let required ← fields.default "required" true bool?
  return { name, required }

/-- Reads what a tool takes and gives. -/
def readToolSchema (source : Source) : Reading ToolSchema := do
  let fields ← record? ["name", "description", "inputs", "outputs"] source
  let name ← fields.required "name" text?
  let description ← fields.default "description" "" text?
  let inputs ← fields.default "inputs" [] (list? readToolInput)
  let outputs ← fields.default "outputs" [] (list? text?)
  return { name, description, inputs, outputs }

/-- Reads a tool. Its schema stands among its own fields. -/
def readCatalogEntry (source : Source) : Reading CatalogEntry := do
  let (fields, rest) ← splitRecord? ["response"] source
  let schema ← readToolSchema (.map .aside rest)
  let response ← fields.optional "response" (dict? value?)
  return { schema, response }

/-- Reads a catalog. -/
def readCatalog (source : Source) : Reading Catalog := do
  let fields ← record? ["tools"] source
  let tools ← fields.default "tools" [] (list? readCatalogEntry)
  return .ofList tools

/-- The schema of a tool as an object. -/
def ToolSchema.toJson (schema : ToolSchema) : Json :=
  .object
    [("name", .text schema.name), ("description", .text schema.description),
      ("inputs", .array (schema.inputs.map fun i =>
        .object [("name", .text i.name), ("required", .bool i.required)])),
      ("outputs", .texts schema.outputs)]

end Workflow
