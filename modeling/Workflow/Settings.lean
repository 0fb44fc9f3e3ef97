import Workflow.Url.Basic

/-!
# Settings

Settings are read from variables of the environment. A variable that holds nothing but white space
counts as unset, and most settings have a default. The model that answers prompts is reached at an
address below the base address of its service.
-/

namespace Workflow

/-- What the environment decides. -/
structure Settings where
  /-- The file with the tool catalog. -/
  catalogFile : Option String
  /-- Whether minor findings block too. -/
  isStrict : Bool
  /-- The folder for the records of runs. -/
  runFolder : String
  /-- The key for the service of the model. -/
  key : Option String
  /-- The base address of the service of the model. -/
  baseUrl : Url
  /-- The name of the model. -/
  model : String
deriving DecidableEq, Repr

/-- Why settings are not usable. -/
inductive SettingsError where
  /-- The variable for strictness holds no truth value. -/
  | notTruth (text : String)
  /-- The variable for the base address holds no address. -/
  | notUrl (text : String) (cause : Url.UrlError)
  /-- The base address leads to no address for prompts. -/
  | noEndpoint (cause : Url.UrlError)
  /-- There is no key for the service of the model. -/
  | noKey
deriving DecidableEq, Repr

/-- The message for unusable settings. -/
def SettingsError.message : SettingsError → String
  | notTruth text => "WEFT_STRICT must be a boolean, got '" ++ text ++ "'"
  | notUrl text cause => "OPENAI_BASE_URL '" ++ text ++ "' is not a URL: " ++ cause.message
  | noEndpoint cause => "invalid OpenAI base URL: " ++ cause.message
  | noKey => "OPENAI_API_KEY must be set"

namespace Settings

/-- The names of the variables. -/
def names : List String :=
  ["WEFT_TOOL_CATALOG", "WEFT_STRICT", "WEFT_EXECUTIONS_DIR", "OPENAI_API_KEY", "OPENAI_BASE_URL",
    "WEFT_MODEL"]

/-- The truth value that a text denotes: one of eight words in ASCII letters of any case. -/
def readTruth? (text : String) : Option Bool :=
  let word := String.ofList ((Text.trim text.toList).map Char.toLower)
  if word ∈ ["1", "true", "yes", "on"] then some true
  else if word ∈ ["0", "false", "no", "off"] then some false
  else none

/-- Strictness as a variable sets it; without it findings are taken lightly. -/
def readStrict : Option String → Except SettingsError Bool
  | none => .ok false
  | some text =>
      match readTruth? text with
      | some value => .ok value
      | none => .error (.notTruth text)

/-- The base address of the service as a variable sets it. -/
def readBaseUrl (given : Option String) : Except SettingsError Url :=
  let text := given.getD "https://api.openai.com/v1"
  (Url.read text).mapError (.notUrl text)

/-- The settings that the variables make. -/
def read (lookup : String → Option String) : Except SettingsError Settings := do
  let get (name : String) := (lookup name).filter fun text => !Text.isBlankText text
  let isStrict ← readStrict (get "WEFT_STRICT")
  let baseUrl ← readBaseUrl (get "OPENAI_BASE_URL")
  return {
    catalogFile := get "WEFT_TOOL_CATALOG"
    isStrict
    runFolder := (get "WEFT_EXECUTIONS_DIR").getD "data/executions"
    key := get "OPENAI_API_KEY"
    baseUrl
    model := (get "WEFT_MODEL").getD "gpt-4o-mini" }

end Settings

end Workflow
