/-!
# Ids and times

A run gets an id that no other run has, 32 hexadecimal digits in five groups made from random bytes,
and the time at which it was started, in the calendar of the Internet.
-/

namespace Workflow.Command

/-! ## Ids -/

/-- A number in lower-case hexadecimal digits, filled up with zeros. -/
def hexText (width n : Nat) : String :=
  let digits := Nat.toDigits 16 n
  String.ofList (List.replicate (width - digits.length) '0' ++ digits)

/-- The id with these 122 random bits. The other six bits of its 128 say that it is random. -/
def randomId (bits : Nat) : String :=
  let group (width shift : Nat) := hexText (width / 4) (bits / Nat.pow 2 shift % Nat.pow 2 width)
  group 32 90 ++ "-" ++ group 16 74 ++ "-4" ++ group 12 62 ++ "-"
    ++ hexText 4 (0x8000 + bits / Nat.pow 2 48 % Nat.pow 2 14) ++ "-" ++ group 48 0

example : randomId 0 = "00000000-0000-4000-8000-000000000000" := by decide +kernel
example : randomId (Nat.pow 2 122 - 1) = "ffffffff-ffff-4fff-bfff-ffffffffffff" := by decide +kernel

/-! ## Times -/

/-- Year, month and day of a day, counted from the first of January 1970. A year is reckoned from
March on, so that a leap day is its last one, and 400 years have always 146097 days. -/
def civilDay (day : Nat) : Nat × Nat × Nat :=
  let sinceMarch := day + 719468
  let era := sinceMarch / 146097
  let ofEra := sinceMarch % 146097
  let yearOfEra := (ofEra - ofEra / 1460 + ofEra / 36524 - ofEra / 146096) / 365
  let ofYear := ofEra - (365 * yearOfEra + yearOfEra / 4 - yearOfEra / 100)
  let month := (5 * ofYear + 2) / 153
  let date := ofYear - (153 * month + 2) / 5 + 1
  let isNextYear := 10 ≤ month
  (400 * era + yearOfEra + (if isNextYear then 1 else 0),
    if isNextYear then month - 9 else month + 3, date)

example : civilDay 0 = (1970, 1, 1) := by decide
example : civilDay 19782 = (2024, 2, 29) := by decide
example : civilDay 20514 = (2026, 3, 2) := by decide

/-- A number in decimal digits, filled up with zeros. -/
def decimalText (width n : Nat) : String :=
  let digits := Nat.toDigits 10 n
  String.ofList (List.replicate (width - digits.length) '0' ++ digits)

/-- The part of a second, in thousandths, millionths or thousand-millionths. -/
def fractionText (nanoseconds : Nat) : String :=
  if nanoseconds = 0 then ""
  else if nanoseconds % 1000000 = 0 then "." ++ decimalText 3 (nanoseconds / 1000000)
  else if nanoseconds % 1000 = 0 then "." ++ decimalText 6 (nanoseconds / 1000)
  else "." ++ decimalText 9 nanoseconds

/-- A time, in seconds from the start of 1970, in the zone of Greenwich. -/
def timeText (seconds nanoseconds : Nat) : String :=
  let (year, month, date) := civilDay (seconds / 86400)
  let ofDay := seconds % 86400
  decimalText 4 year ++ "-" ++ decimalText 2 month ++ "-" ++ decimalText 2 date ++ "T"
    ++ decimalText 2 (ofDay / 3600) ++ ":" ++ decimalText 2 (ofDay / 60 % 60) ++ ":"
    ++ decimalText 2 (ofDay % 60) ++ fractionText nanoseconds ++ "+00:00"

end Workflow.Command
