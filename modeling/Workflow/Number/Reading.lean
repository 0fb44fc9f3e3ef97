import Workflow.Number.Binary64

/-!
# Reading numbers from text

A decimal is an optional sign, digits with an optional point among them, and an optional exponent.
Conditions compare with such numbers, and a recorded string that reads as one counts as a number.
Besides decimals, `inf`, `infinity` and `nan` are numbers, in any letter case.
-/

namespace Workflow

/-- The value of a list of decimal digits. -/
def digitsValue (digits : List Char) : Nat :=
  digits.foldl (fun n c => 10 * n + (c.toNat - '0'.toNat)) 0

/-- The value of a text that consists of decimal digits, at least one. -/
def readNat? (text : List Char) : Option Nat :=
  if text ≠ [] ∧ text.all Char.isDigit then some (digitsValue text) else none

/-- A sign at the start of the text, and what follows it; without one the text is positive. -/
def splitSign : List Char → Bool × List Char
  | '-' :: rest => (true, rest)
  | '+' :: rest => (false, rest)
  | text => (false, text)

/-- The exponent that a text states: nothing, or the letter `e` and a signed digit sequence. -/
def readExponent? : List Char → Option Int
  | [] => some 0
  | c :: rest =>
      if c = 'e' ∨ c = 'E' then
        let (negative, digits) := splitSign rest
        (readNat? digits).map fun n => if negative then -n else n
      else none

namespace Binary64

/-- The double that an unsigned decimal denotes. At least one digit stands before or after the
point. -/
def readMagnitude? (negative : Bool) (text : List Char) : Option Binary64 :=
  let whole := text.takeWhile Char.isDigit
  let afterWhole := text.dropWhile Char.isDigit
  let (fraction, rest) :=
    match afterWhole with
    | '.' :: tail => (tail.takeWhile Char.isDigit, tail.dropWhile Char.isDigit)
    | _ => ([], afterWhole)
  if whole = [] ∧ fraction = [] then none
  else
    (readExponent? rest).map fun exponent =>
      ofDecimal negative (digitsValue (whole ++ fraction)) (exponent - fraction.length)

/-- The double that a text denotes, if it denotes one. -/
def read? (text : List Char) : Option Binary64 :=
  let (negative, magnitude) := splitSign text
  match String.ofList (magnitude.map Char.toLower) with
  | "inf" | "infinity" => some (.infinite negative)
  | "nan" => some .nan
  | _ => readMagnitude? negative magnitude

end Binary64

end Workflow
