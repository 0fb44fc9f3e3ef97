import Workflow.Condition.Parser
import Workflow.Condition.Truth
import Workflow.Graph.Basic
import Workflow.Json.Printer
import Workflow.Number.Reading
import Workflow.State
import Workflow.Text.Lowercase

/-!
# Choosing branches

A reasoner answers prompts, and a selector chooses the transition by which a step is left. Both act
on a world that they may look at and change, so an answer can depend on anything, on the answers
before it above all.

A choice by conditions takes the first transition whose label holds; a catch-all label is taken only
if no other label holds. Labels that are not conditions can be left to another selector. A choice by
a reasoner offers the labels as numbered options, and the answer is matched with them: as a label,
as a number, or as a text in which a label occurs.
-/

namespace Workflow

variable {World : Type}

/-- Answers prompts, or fails with a message. -/
abbrev Reasoner (World : Type) := String → World → Except String String × World

/-- Why no transition was chosen. -/
inductive SelectError where
  /-- None of the labels holds. -/
  | noConditionHolds (step : String)
  | failed (message : String)
deriving DecidableEq, Repr

/-- The message for a choice that failed. -/
def SelectError.message : SelectError → String
  | noConditionHolds step => "no transition condition of step '" ++ step ++ "' holds"
  | failed message => message

/-- Chooses the label of the transition by which a step is left. -/
abbrev Selector (World : Type) := Step → State → World → Except SelectError String × World

/-! ## By conditions -/

/-- Whether a label is a condition that holds. Catch-all labels are no conditions. -/
def labelHolds (state : State) (label : String) : Bool :=
  !isCatchAll label && (Condition.parse? label).any (·.holds state)

/-- Whether a label is neither a condition nor a catch-all. -/
def isFreeLabel (label : String) : Bool := !isCatchAll label && (Condition.parse? label).isNone

/-- Chooses by conditions. If none holds and there are labels that are no conditions, the choice is
left to `fallback`. -/
def selectByCondition (fallback : Option (Selector World)) : Selector World :=
    fun step state world =>
  match step.labels.find? (labelHolds state) with
  | some label => (.ok label, world)
  | none =>
      match fallback.filter fun _ => step.labels.any isFreeLabel with
      | some select => select step state world
      | none =>
          match step.labels.find? isCatchAll with
          | some label => (.ok label, world)
          | none => (.error (.noConditionHolds step.id), world)

/-! ## By a reasoner -/

/-- The options on lines of their own, numbered from `number`. -/
def optionLines (number : Nat) : List String → String
  | [] => ""
  | label :: rest => toString number ++ ". " ++ label ++ "\n" ++ optionLines (number + 1) rest

/-- The prompt that offers the transitions of a step as numbered options. -/
def choicePrompt (step : Step) (state : State) : String :=
  "You are choosing the next step of a workflow. Given the results so far, "
    ++ "answer with the number of the one option that applies. Answer with the number only.\n\n"
    ++ "Results so far:\n" ++ state.toJson.pretty
    ++ "\n\nDecision point: " ++ step.id ++ "\nOptions:\n" ++ optionLines 1 step.labels

/-- Quotes, points and the like, which may surround an answer. -/
def isAnswerMark (c : Char) : Bool := c = '"' || c = '\'' || c = '.' || c = '\x60'

/-- The answer without blanks around it, and without marks inside those. -/
def bareAnswer (answer : String) : List Char :=
  Text.trimWhile isAnswerMark (Text.trim answer.toList)

/-- The option that an answer starts with the number of. -/
def optionByNumber? (answer : List Char) (labels : List String) : Option String :=
  match readNat? (answer.takeWhile Char.isDigit) with
  | some (number + 1) => labels[number]?
  | _ => none

/-- The longer of two labels in bytes, of two with one length the second. -/
def longerLabel (best : Option String) (label : String) : Option String :=
  match best with
  | some b => if b.utf8ByteSize ≤ label.utf8ByteSize then some label else some b
  | none => some label

/-- The longest label that occurs in the answer, letter case aside. -/
def mentionedLabel? (answer : List Char) (labels : List String) : Option String :=
  let text := Text.lowercase answer
  (labels.filter fun label => Text.occursIn (Text.lowercase label.toList) text).foldl
    longerLabel none

/-- The label that an answer chooses: the label that it is, ASCII letter case aside, or the one
whose number it starts with, or the longest one that it mentions. An answer that chooses none is
kept. -/
def matchLabel (answer : String) (labels : List String) : String :=
  let bare := bareAnswer answer
  let label? :=
    labels.find? (fun label => Text.eqIgnoringAsciiCase label.toList bare)
      <|> optionByNumber? bare labels
      <|> mentionedLabel? bare labels
  label?.getD (String.ofList bare)

/-- Chooses by asking a reasoner. -/
def selectByReasoner (ask : Reasoner World) : Selector World := fun step state world =>
  match ask (choicePrompt step state) world with
  | (.ok answer, world) => (.ok (matchLabel answer step.labels), world)
  | (.error message, world) => (.error (.failed message), world)

end Workflow
