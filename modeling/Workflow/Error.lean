import Workflow.Run.Basic
import Workflow.Settings

/-!
# Errors of all kinds

Whoever uses several parts of the library meets errors of several kinds. Here they are one type, and
the message of most says first in which part the error arose.
-/

namespace Workflow

/-- An error of any part. -/
inductive WorkflowError where
  /-- The settings are not usable, for the reason that the message gives. -/
  | settings (message : String)
  | graph (error : GraphError)
  | run (error : RunError)
  /-- A check has findings that block. -/
  | rejected (report : Report)
  /-- What the library works with has failed. -/
  | collaborator (message : String)
deriving DecidableEq, Repr

namespace WorkflowError

/-- The message for an error. -/
def message : WorkflowError → String
  | settings message => "Configuration error: " ++ message
  | graph error => "Graph error: " ++ error.message
  | run error => "Execution error: " ++ error.message
  | rejected report => report.text
  | collaborator message => message

/-- An error in the settings. -/
def ofSettings (error : SettingsError) : WorkflowError := .settings error.message

end WorkflowError

end Workflow
