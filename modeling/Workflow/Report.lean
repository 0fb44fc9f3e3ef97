/-!
# Reports

Checks do not stop at the first problem. Each one adds its findings to a report, and the report says
whether they stand in the way: every finding is critical or minor by its kind, a critical one always
blocks, and a minor one blocks where strictness is asked for.
-/

namespace Workflow

/-- The kinds of findings. -/
inductive ViolationKind where
  | schemaViolation
  | duplicateStepId
  | unreachableStep
  | cycleDetected
  | branchMergeViolation
  | invalidReference
  | unresolvedArtifact
  | missingFinalStep
  | noMatchingBranch
  | ambiguousWiring
  | danglingTransition
  | terminalMismatch
  | unknownTool
  | missingParameter
  | unexpectedParameter
  | duplicateCondition
  | invalidDependency
  | unconsumedArtifact
  | emptyPrompt
deriving DecidableEq, Repr

/-- How much a finding matters. -/
inductive Severity where
  | minor
  | critical
deriving DecidableEq, Repr

/-- The word for a severity. -/
def Severity.name : Severity → String
  | .minor => "minor"
  | .critical => "critical"

namespace ViolationKind

/-- All kinds. -/
def all : List ViolationKind :=
  [.schemaViolation, .duplicateStepId, .unreachableStep, .cycleDetected, .branchMergeViolation,
    .invalidReference, .unresolvedArtifact, .missingFinalStep, .noMatchingBranch, .ambiguousWiring,
    .danglingTransition, .terminalMismatch, .unknownTool, .missingParameter, .unexpectedParameter,
    .duplicateCondition, .invalidDependency, .unconsumedArtifact, .emptyPrompt]

/-- The name of a kind in reports. -/
def name : ViolationKind → String
  | schemaViolation => "SchemaViolation"
  | duplicateStepId => "DuplicateStepId"
  | unreachableStep => "UnreachableStep"
  | cycleDetected => "CycleDetected"
  | branchMergeViolation => "BranchMergeViolation"
  | invalidReference => "InvalidReference"
  | unresolvedArtifact => "UnresolvedArtifact"
  | missingFinalStep => "MissingFinalStep"
  | noMatchingBranch => "NoMatchingBranch"
  | ambiguousWiring => "AmbiguousWiring"
  | danglingTransition => "DanglingTransition"
  | terminalMismatch => "TerminalMismatch"
  | unknownTool => "UnknownTool"
  | missingParameter => "MissingParameter"
  | unexpectedParameter => "UnexpectedParameter"
  | duplicateCondition => "DuplicateCondition"
  | invalidDependency => "InvalidDependency"
  | unconsumedArtifact => "UnconsumedArtifact"
  | emptyPrompt => "EmptyPrompt"

/-- The kind with a name. -/
def ofName? (text : String) : Option ViolationKind := all.find? (·.name = text)

/-- The severity of the findings of a kind. -/
def severity : ViolationKind → Severity
  | unexpectedParameter | unconsumedArtifact | emptyPrompt => .minor
  | _ => .critical

end ViolationKind

/-- A finding, with the steps that it concerns. -/
structure Violation where
  kind : ViolationKind
  steps : List String
  message : String
deriving DecidableEq, Repr

namespace Violation

/-- The severity of a finding. -/
def severity (v : Violation) : Severity := v.kind.severity

/-- Whether a finding is critical. -/
def isCritical (v : Violation) : Bool := v.severity = .critical

/-- The finding on one line. -/
def text (v : Violation) : String :=
  "[" ++ v.severity.name ++ "] " ++ v.kind.name ++ " (" ++ ", ".intercalate v.steps ++ "): "
    ++ v.message

/-- The finding with the name of a fragment in front of its message. -/
def within (fragment : String) (v : Violation) : Violation :=
  { v with message := "[" ++ fragment ++ "] " ++ v.message }

end Violation

/-- Findings in the order in which they were made. -/
structure Report where
  violations : List Violation
deriving DecidableEq, Repr

namespace Report

instance : Append Report := ⟨fun a b => ⟨a.violations ++ b.violations⟩⟩

/-- The critical findings. -/
def critical (report : Report) : List Violation := report.violations.filter Violation.isCritical

/-- The minor findings. -/
def minor (report : Report) : List Violation :=
  report.violations.filter fun v => !v.isCritical

/-- The findings of one kind. -/
def ofKind (report : Report) (kind : ViolationKind) : List Violation :=
  report.violations.filter (·.kind = kind)

/-- Whether no finding is critical. -/
def isAccepted (report : Report) : Bool := report.violations.all fun v => !v.isCritical

/-- Whether no finding stands in the way; under strictness every finding does. -/
def isAcceptedWith (report : Report) (strict : Bool) : Bool :=
  if strict then report.violations.isEmpty else report.isAccepted

/-- The report in writing: how many findings there are, and each on a line. -/
def text (report : Report) : String :=
  if report.violations.isEmpty then "no findings"
  else
    toString report.violations.length ++ " finding(s), " ++ toString report.critical.length
      ++ " critical" ++ String.join (report.violations.map fun v => "\n  " ++ v.text)

/-- The findings with the name of a fragment in front of their messages. -/
def within (fragment : String) (report : Report) : Report :=
  ⟨report.violations.map (Violation.within fragment)⟩

@[simp] theorem violations_append (a b : Report) :
    (a ++ b).violations = a.violations ++ b.violations := rfl

theorem isAccepted_append (a b : Report) :
    (a ++ b).isAccepted = (a.isAccepted && b.isAccepted) := by
  simp [isAccepted]

end Report

end Workflow
