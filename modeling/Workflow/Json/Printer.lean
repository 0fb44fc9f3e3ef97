import Workflow.Json.Basic
import Workflow.Number.Layout
import Workflow.Text.Quoted

/-!
# Writing JSON text

There are two forms. The compact form has no blanks and is what a value becomes inside a prompt. The
spread form puts each item on a line of its own, two blanks deeper than the brackets around it, and
is the form of files.
-/

namespace Workflow.Json

/-- A double always shows a fraction or an exponent. It is written without exponent if its leading
digit stands between the fifth place after the point and the sixteenth before it, and an exponent
always has a sign. -/
def numberLayout : NumberLayout where
  positional := some (-5, 16)
  keepFraction := true
  exponentSign := "+"
  infinity := "null"
  notANumber := "null"

/-- A character inside a string literal. -/
def escapedChar (c : Char) : List Char :=
  match c with
  | '"' => ['\\', '"']
  | '\\' => ['\\', '\\']
  | '\n' => ['\\', 'n']
  | '\r' => ['\\', 'r']
  | '\t' => ['\\', 't']
  | _ =>
      if c.toNat = 8 then ['\\', 'b']
      else if c.toNat = 12 then ['\\', 'f']
      else if c.toNat < 0x20 then
        let digits := Text.hexDigits c.toNat
        ['\\', 'u'] ++ List.replicate (4 - digits.length) '0' ++ digits
      else [c]

/-- A string literal. -/
def quote (s : String) : String :=
  String.ofList ('"' :: (s.toList.flatMap escapedChar ++ ['"']))

mutual

/-- The text of a value without blanks. -/
def compact : Json → String
  | .null => "null"
  | .bool value => if value then "true" else "false"
  | .int value => toString value
  | .float value => numberLayout.text value
  | .text value => quote value
  | .array items => "[" ++ ",".intercalate (compactItems items) ++ "]"
  | .object fields => "\x7b" ++ ",".intercalate (compactFields fields) ++ "\x7d"

/-- The texts of the items of an array. -/
def compactItems : List Json → List String
  | [] => []
  | item :: rest => compact item :: compactItems rest

/-- The texts of the fields of an object. -/
def compactFields : List (String × Json) → List String
  | [] => []
  | (key, value) :: rest => (quote key ++ ":" ++ compact value) :: compactFields rest

end

/-- A line break and the blanks of a line at a nesting depth. -/
def lineBreak (depth : Nat) : String := "\n" ++ String.ofList (List.replicate (2 * depth) ' ')

/-- Items between brackets, one to a line, inside brackets that stand at `depth`. -/
def spreadOver (left right : String) (depth : Nat) (items : List String) : String :=
  match items with
  | [] => left ++ right
  | _ =>
      left ++ lineBreak (depth + 1) ++ ("," ++ lineBreak (depth + 1)).intercalate items
        ++ lineBreak depth ++ right

mutual

/-- The text of a value with one item to a line, where the value starts at `depth`. -/
def spread (depth : Nat) : Json → String
  | .array items => spreadOver "[" "]" depth (spreadItems (depth + 1) items)
  | .object fields => spreadOver "\x7b" "\x7d" depth (spreadFields (depth + 1) fields)
  | .null => "null"
  | .bool value => if value then "true" else "false"
  | .int value => toString value
  | .float value => numberLayout.text value
  | .text value => quote value

/-- The texts of the items of an array. -/
def spreadItems (depth : Nat) : List Json → List String
  | [] => []
  | item :: rest => spread depth item :: spreadItems depth rest

/-- The texts of the fields of an object. -/
def spreadFields (depth : Nat) : List (String × Json) → List String
  | [] => []
  | (key, value) :: rest => (quote key ++ ": " ++ spread depth value) :: spreadFields depth rest

end

/-- The text of a value as it stands in a file. -/
def pretty (value : Json) : String := spread 0 value

example : numberLayout.text (.ofInt 7) = "7.0" := by decide +kernel
example : numberLayout.text (.ofDecimal false 1 (-5)) = "0.00001" := by decide +kernel
example : numberLayout.text (.ofDecimal false 25 (-11)) = "2.5e-10" := by decide +kernel
example : numberLayout.text (.ofDecimal false 15 15) = "1.5e+16" := by decide +kernel
example : numberLayout.text (.finite true 0 (-1074)) = "-0.0" := by decide +kernel

end Workflow.Json
