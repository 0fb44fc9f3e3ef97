import Workflow.Fragment
import Workflow.Report

/-!
# What validation finds

Each kind of defect of a graph, a fragment or a plan has one definition here, which gives its
finding: the kind, the steps concerned, and the message.
-/

namespace Workflow.Violation

/-! ## Transitions -/

/-- A final step leads on. -/
def finalContinues (step : String) : Violation :=
  ⟨.terminalMismatch, [step], "final step '" ++ step ++ "' has outgoing transitions"⟩

/-- A step that is not final leads nowhere. -/
def neverTerminates (step : String) : Violation :=
  ⟨.terminalMismatch, [step],
    "step '" ++ step
      ++ "' is not final but has no transitions; paths through it never terminate"⟩

/-- A transition leads to a step that does not exist. -/
def dangling (step target : String) : Violation :=
  ⟨.danglingTransition, [step, target],
    "step '" ++ step ++ "' transitions to '" ++ target ++ "', which does not exist"⟩

/-- Two transitions of a step have the same label. -/
def repeatedLabel (step label : String) : Violation :=
  ⟨.duplicateCondition, [step],
    "step '" ++ step ++ "' has more than one transition labelled '" ++ label ++ "'"⟩

/-! ## Actions -/

/-- A step calls a tool that is not declared. -/
def unknownTool (step tool : String) : Violation :=
  ⟨.unknownTool, [step], "step '" ++ step ++ "' calls unknown tool '" ++ tool ++ "'"⟩

/-- A step calls a tool without one of its required inputs. -/
def missingInput (step input tool : String) : Violation :=
  ⟨.missingParameter, [step],
    "step '" ++ step ++ "' does not supply required input '" ++ input ++ "' of tool '" ++ tool
      ++ "'"⟩

/-- A step gives a tool a parameter that the tool does not declare. -/
def unexpectedParameter (step name tool : String) : Violation :=
  ⟨.unexpectedParameter, [step],
    "tool '" ++ tool ++ "' does not declare parameter '" ++ name ++ "' used by step '" ++ step
      ++ "'"⟩

/-- A reasoning step asks nothing. -/
def emptyPrompt (step : String) : Violation :=
  ⟨.emptyPrompt, [step], "reasoning step '" ++ step ++ "' has an empty prompt"⟩

/-! ## The graph as a whole -/

/-- No entry is set, or the entry does not exist. -/
def noEntry : Violation := ⟨.schemaViolation, [], "graph has no entry step"⟩

/-- A step cannot be reached. -/
def unreachable (step entry : String) : Violation :=
  ⟨.unreachableStep, [step],
    "step '" ++ step ++ "' is not reachable from entry '" ++ entry ++ "'"⟩

/-- There is a cycle. -/
def cycle (steps : List String) : Violation :=
  ⟨.cycleDetected, steps, "steps " ++ Text.quotedList steps ++ " form a cycle"⟩

/-- Two branches of a step meet. -/
def branchesMeet (step labelA labelB : String) (shared : List String) : Violation :=
  ⟨.branchMergeViolation, step :: shared,
    "branches '" ++ labelA ++ "' and '" ++ labelB ++ "' of step '" ++ step ++ "' both reach "
      ++ Text.quotedList shared⟩

/-- No final step can be reached. -/
def noFinalStep (entry : String) : Violation :=
  ⟨.missingFinalStep, [entry], "no final step is reachable from the entry"⟩

/-! ## References -/

/-- Where in a step a reference stands. -/
inductive Origin where
  | action
  | label
deriving DecidableEq, Repr

/-- The words for a place in a step. -/
def Origin.name : Origin → String
  | .action => "action"
  | .label => "transition labels"

/-- An artifact occurs that the graph does not declare to read. -/
def undeclaredArtifact (step artifact : String) (origin : Origin) : Violation :=
  ⟨.unresolvedArtifact, [step],
    "step '" ++ step ++ "' references undeclared artifact '" ++ artifact ++ "' in its "
      ++ origin.name⟩

/-- The start of a message about a reference to an output. -/
def outputReferenceText (step source field : String) (origin : Origin) : String :=
  "step '" ++ step ++ "' references '" ++ source ++ "." ++ field ++ "' in its " ++ origin.name

/-- A reference is to a step that does not exist. -/
def unknownSource (step source field : String) (origin : Origin) : Violation :=
  ⟨.invalidReference, [step, source],
    outputReferenceText step source field origin ++ ", but step '" ++ source ++ "' does not exist"⟩

/-- The action of a step refers to the output of the step itself. -/
def ownOutput (step field : String) : Violation :=
  ⟨.invalidReference, [step, step],
    "step '" ++ step ++ "' references its own output '" ++ field ++ "'"⟩

/-- A reference is to a step that a run may not have completed. -/
def notAlwaysBefore (step source field : String) (origin : Origin) : Violation :=
  ⟨.invalidReference, [step, source],
    outputReferenceText step source field origin ++ ", but '" ++ source
      ++ "' does not precede it on every path"⟩

/-- A reference is to a field that the step does not write. -/
def unknownField (step source field : String) (origin : Origin) : Violation :=
  ⟨.invalidReference, [step, source],
    outputReferenceText step source field origin ++ ", which step '" ++ source
      ++ "' does not produce"⟩

/-! ## Fragments -/

/-- An artifact is bound to a field that its step does not write. -/
def boundToUnknownField (artifact field step : String) : Violation :=
  ⟨.unresolvedArtifact, [step],
    "artifact '" ++ artifact ++ "' is bound to field '" ++ field ++ "', which step '" ++ step
      ++ "' never writes"⟩

/-- An artifact is bound to a step that does not exist. -/
def boundToUnknownStep (artifact step : String) : Violation :=
  ⟨.unresolvedArtifact, [step],
    "artifact '" ++ artifact ++ "' is bound to step '" ++ step ++ "', which does not exist"⟩

/-! ## Plans -/

/-- A plan has no fragments. -/
def noFragments : Violation := ⟨.schemaViolation, [], "plan contains no fragments"⟩

/-- Two fragments have one name. -/
def repeatedFragment (name : String) : Violation :=
  ⟨.schemaViolation, [], "fragment name '" ++ name ++ "' is used more than once"⟩

/-- A fragment reads an artifact that none up to it offers; a later one that does is named. -/
def noProducer (fragment artifact : String) (steps : List String) (later : Option String) :
    Violation :=
  ⟨.unresolvedArtifact, steps,
    "fragment '" ++ fragment ++ "' consumes artifact '" ++ artifact
      ++ "' which no earlier fragment produces"
      ++ (match later with
          | some name => " (only '" ++ name ++ "' produces it, later in order)"
          | none => "")⟩

/-- No fragment reads an artifact. -/
def neverConsumed (artifact step fragment : String) : Violation :=
  ⟨.unconsumedArtifact, [step],
    "artifact '" ++ artifact ++ "' of fragment '" ++ fragment ++ "' is never consumed"⟩

/-- A dependency names a fragment that does not exist. -/
def unknownFragments (d : Dependency) : Violation :=
  ⟨.invalidDependency, [],
    "dependency on '" ++ d.artifact ++ "' names unknown fragment(s): '" ++ d.producer ++ "' -> '"
      ++ d.consumer ++ "'"⟩

/-- A dependency is on a fragment that does not come before. -/
def backwards (d : Dependency) : Violation :=
  ⟨.invalidDependency, [],
    "dependency on '" ++ d.artifact ++ "' points backwards: '" ++ d.producer
      ++ "' does not precede '" ++ d.consumer ++ "'"⟩

/-- A dependency is on an artifact that its producer does not offer. -/
def notOffered (d : Dependency) : Violation :=
  ⟨.invalidDependency, [],
    "fragment '" ++ d.producer ++ "' does not produce artifact '" ++ d.artifact ++ "'"⟩

end Workflow.Violation
