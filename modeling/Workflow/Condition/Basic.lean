import Workflow.State
import Workflow.Number.Layout
import Workflow.Text.Blank
import Workflow.Text.Search

/-!
# Conditions

The label of a transition may be a condition on the state of the run: comparisons of recorded values
with literals, combined by `and`, `or` and `not`. This module holds the syntax of conditions; the
reading of labels, the truth of conditions and the renaming of steps in labels build on it.
-/

namespace Workflow

/-- What a condition compares with. -/
inductive Literal where
  | text (value : String)
  | number (value : Binary64)
  | bool (value : Bool)
  | null
deriving DecidableEq, Repr

namespace Literal

/-- Numbers in conditions are written without exponent, and without a fraction if there is none. -/
def numberLayout : NumberLayout where
  positional := none
  keepFraction := false
  exponentSign := ""
  infinity := "inf"
  notANumber := "NaN"

/-- The literal in writing. -/
def render : Literal → String
  | .text value => "'" ++ value ++ "'"
  | .number value => numberLayout.text value
  | .bool value => if value then "true" else "false"
  | .null => "null"

example : (Literal.number (.ofDecimal false 5 (-5))).render = "0.00005" := by decide +kernel
example : (Literal.number (.ofDecimal false 1 20)).render = "100000000000000000000" := by
  decide +kernel
example : (Literal.number (.finite true 0 (-1074))).render = "-0" := by decide +kernel

end Literal

/-- How a recorded value is compared with a literal. -/
inductive Comparison where
  | eq
  | notEq
  | gt
  | gte
  | lt
  | lte
  /-- A text has a part, or an array an item. -/
  | contains
deriving DecidableEq, Repr

/-- The operator in writing. -/
def Comparison.symbol : Comparison → String
  | .eq => "=="
  | .notEq => "!="
  | .gt => ">"
  | .gte => ">="
  | .lt => "<"
  | .lte => "<="
  | .contains => "contains"

/-- A condition. -/
inductive Condition where
  | compare (path : Path) (op : Comparison) (right : Literal)
  | and (left right : Condition)
  | or (left right : Condition)
  | not (inner : Condition)
  | const (value : Bool)
deriving DecidableEq, Repr

/-- The paths that a condition reads, in order of appearance. -/
def Condition.paths : Condition → List Path
  | .compare path _ _ => [path]
  | .and left right => left.paths ++ right.paths
  | .or left right => left.paths ++ right.paths
  | .not inner => inner.paths
  | .const _ => []

/-- The labels that are taken when no condition holds. -/
def catchAllWords : List String := ["always", "otherwise", "else", "default"]

/-- Whether a label is one of the catch-all words, in any letter case and with any white space
around it. -/
def isCatchAll (label : String) : Bool :=
  catchAllWords.any fun word => Text.eqIgnoringAsciiCase (Text.trim label.toList) word.toList

end Workflow
