import Workflow.Condition.Basic
import Workflow.Condition.Nesting
import Workflow.Text.Alphanumeric

/-!
# Reading labels as conditions

`or` binds looser than `and`, and `and` looser than `not`; a connective counts only with a blank on
either side and outside quotes and parentheses. What is left is one comparison: a state path, with
or without braces around it, an operator and a literal.

Every recursive reading is of a strictly shorter text, so that reading ends on all labels.
-/

namespace Workflow

/-- Why a label is not a condition. -/
inductive ParseError where
  | empty
  | noOperator (text : String)
  | invalidLiteral (text : String)
  | invalidPath (text : String)
  | unbalanced (text : String)
deriving DecidableEq, Repr

/-- The message for a label that is not a condition. -/
def ParseError.message : ParseError → String
  | .empty => "empty expression"
  | .noOperator text => "no comparison operator in '" ++ text ++ "'"
  | .invalidLiteral text => "invalid literal '" ++ text ++ "'"
  | .invalidPath text => "invalid state path '" ++ text ++ "'; expected step.field"
  | .unbalanced text => "unbalanced parentheses or quotes in '" ++ text ++ "'"

namespace Condition

open Text

/-! ## Comparisons -/

/-- Whether a part of a state path may be written in a condition. -/
def isSegment (segment : List Char) : Bool :=
  !segment.isEmpty && segment.all fun c => isAlphanumeric c || c = '_' || c = '-'

/-- The text inside braces, or the whole text if it does not stand in braces. -/
def stripBraces (text : List Char) : List Char :=
  match text with
  | '{' :: rest => (beforeEnd? '}' rest).getD text
  | _ => text

/-- The path that the left side of a comparison spells. -/
def parsePath (text : List Char) : Except ParseError Path :=
  let raw := trim text
  let segments := (trim (stripBraces raw)).splitOn '.'
  match Path.ofSegments? (segments.map String.ofList) with
  | some path =>
      if segments.all isSegment then .ok path else .error (.invalidPath (String.ofList raw))
  | none => .error (.invalidPath (String.ofList raw))

/-- The text between quotes of one kind that enclose the whole text. -/
def stripQuotes? (text : List Char) : Option (List Char) :=
  match text with
  | q :: rest => if isQuote q then beforeEnd? q rest else none
  | [] => none

/-- The literal that the right side of a comparison spells. -/
def parseLiteral (text : List Char) : Except ParseError Literal :=
  let text := trim text
  match String.ofList text with
  | "null" => .ok .null
  | "true" => .ok (.bool true)
  | "false" => .ok (.bool false)
  | written =>
      match stripQuotes? text with
      | some inner => .ok (.text (String.ofList inner))
      | none =>
          match Binary64.read? text with
          | some value => .ok (.number value)
          | none => .error (.invalidLiteral written)

/-- The operators in the order in which they are looked for: one that starts like another comes
before it. -/
def operators : List (String × Comparison) :=
  [("!=", .notEq), (">=", .gte), ("<=", .lte), ("==", .eq), (">", .gt), ("<", .lt),
    (" contains ", .contains)]

/-- Reads a comparison by the first operator of the list that occurs in it. -/
def parseComparisonBy (text : List Char) :
    List (String × Comparison) → Except ParseError Condition
  | [] => .error (.noOperator (String.ofList text))
  | (symbol, op) :: rest =>
      match findTop symbol.toList text with
      | some (left, right) => do
          let path ← parsePath left
          let literal ← parseLiteral right
          return .compare path op literal
      | none => parseComparisonBy text rest

/-- Reads one comparison. -/
def parseComparison (text : List Char) : Except ParseError Condition :=
  parseComparisonBy text operators

/-! ## Conditions -/

/-- The connective between two alternatives. -/
def orWord : List Char := " or ".toList

/-- The connective between two requirements. -/
def andWord : List Char := " and ".toList

/-- The word before a condition that must not hold. -/
def notWord : List Char := "not ".toList

theorem length_of_afterStart? {start text rest : List Char} (hs : start ≠ [])
    (h : afterStart? start text = some rest) : rest.length < text.length := by
  unfold afterStart? at h
  split at h
  · next hp =>
      cases h
      have := (List.isPrefixOf_iff_prefix.1 hp).length_le
      have := List.length_pos_iff.2 hs
      simp only [List.length_drop]
      omega
  · cases h

/-- Reads a label, given as its characters, as a condition. -/
def parseChars (label : List Char) : Except ParseError Condition :=
  let text := trim label
  if text = [] then .error .empty
  else if balanced text = false then .error (.unbalanced (String.ofList text))
  else
    match _h : stripParens text with
    | some inner => parseChars inner
    | none =>
        if text = "true".toList then .ok (.const true)
        else if text = "false".toList then .ok (.const false)
        else
          match _h : findTop orWord text with
          | some (left, right) =>
              match parseChars left, parseChars right with
              | .ok l, .ok r => .ok (.or l r)
              | .error e, _ => .error e
              | _, .error e => .error e
          | none =>
              match _h : findTop andWord text with
              | some (left, right) =>
                  match parseChars left, parseChars right with
                  | .ok l, .ok r => .ok (.and l r)
                  | .error e, _ => .error e
                  | _, .error e => .error e
              | none =>
                  match _h : afterStart? notWord text with
                  | some rest => (parseChars rest).map .not
                  | none => parseComparison text
termination_by label.length
decreasing_by
  all_goals have := length_trim_le label
  · exact Nat.lt_of_lt_of_le (length_of_stripParens _h) this
  · exact Nat.lt_of_lt_of_le (length_of_findTop (by decide) _h).1 this
  · exact Nat.lt_of_lt_of_le (length_of_findTop (by decide) _h).2 this
  · exact Nat.lt_of_lt_of_le (length_of_findTop (by decide) _h).1 this
  · exact Nat.lt_of_lt_of_le (length_of_findTop (by decide) _h).2 this
  · exact Nat.lt_of_lt_of_le (length_of_afterStart? (by decide) _h) this

/-- Reads a label as a condition. -/
def parse (label : String) : Except ParseError Condition := parseChars label.toList

/-- The condition that a label spells, if it is one. -/
def parse? (label : String) : Option Condition := (parse label).toOption

end Condition

end Workflow
