import Workflow.Number.Shortest

/-!
# Ways to write a double

A double is written with its shortest digits. Where the decimal point goes, and from which powers of
ten on an exponent is written instead, is the choice of the format that holds the number, and each
format fixes these choices in one record.
-/

namespace Workflow

/-- How a format writes the digits of a double. -/
structure NumberLayout where
  /-- The powers of ten of the leading digit for which the number is written without exponent, the
  first one included and the last one not; `none` if an exponent is never written. -/
  positional : Option (Int × Int)
  /-- Whether a number without fraction is followed by `.0`. -/
  keepFraction : Bool
  /-- What stands before the digits of an exponent that is not negative. -/
  exponentSign : String
  /-- What is written for an infinite number and for what is not a number. -/
  infinity : String
  notANumber : String

namespace NumberLayout

/-- The digits with a decimal point where the exponent puts it, and no exponent. -/
def positionalText (layout : NumberLayout) (d : Decimal) : String :=
  let digits := d.digitChars
  let fraction := if layout.keepFraction then ".0" else ""
  if 0 ≤ d.exponent then
    String.ofList (digits ++ List.replicate d.exponent.toNat '0') ++ fraction
  else
    let places := (-d.exponent).toNat
    if digits.length ≤ places then
      "0." ++ String.ofList (List.replicate (places - digits.length) '0' ++ digits)
    else
      let whole := digits.length - places
      String.ofList (digits.take whole ++ '.' :: digits.drop whole)

/-- One digit before the point, and an exponent. -/
def exponentText (layout : NumberLayout) (d : Decimal) : String :=
  let exponent := d.leadingExponent
  let mantissa :=
    match d.digitChars with
    | first :: [] => [first]
    | first :: rest => first :: '.' :: rest
    | [] => []
  let sign := if exponent < 0 then "-" else layout.exponentSign
  String.ofList mantissa ++ "e" ++ sign ++ toString exponent.natAbs

/-- The magnitude of a double in this layout. -/
def magnitudeText (layout : NumberLayout) (d : Decimal) : String :=
  match layout.positional with
  | none => layout.positionalText d
  | some (first, last) =>
      if d.digits = 0 ∨ (first ≤ d.leadingExponent ∧ d.leadingExponent < last) then
        layout.positionalText d
      else layout.exponentText d

/-- The text of a double in this layout. -/
def text (layout : NumberLayout) : Binary64 → String
  | .nan => layout.notANumber
  | .infinite negative => (if negative then "-" else "") ++ layout.infinity
  | .finite negative significand exponent =>
      (if negative then "-" else "") ++ layout.magnitudeText (Decimal.shortest significand exponent)

end NumberLayout

end Workflow
