import Workflow.Number.Binary64

/-!
# The shortest decimal of a double

Among the decimals that round to a given double, the one shown has the fewest digits, and of those
it is the nearest to the double. For a digit count the candidates are the two neighbours of the
double on the decimal grid of that count: if any point of the grid rounds to the double, so does one
of them. The decimals that round to a double form an interval between the midpoints to its two
neighbours, the ends included exactly if its significand is even.
-/

namespace Workflow

/-- The number `digits * 10 ^ exponent`. -/
structure Decimal where
  digits : Nat
  exponent : Int
deriving DecidableEq, Repr

namespace Decimal

/-- The same number without the trailing zeros among its last `fuel` digits. -/
def normalize (fuel : Nat) (d : Decimal) : Decimal :=
  match fuel with
  | 0 => d
  | fuel + 1 =>
      if d.digits ≠ 0 ∧ d.digits % 10 = 0 then normalize fuel ⟨d.digits / 10, d.exponent + 1⟩ else d

/-- The decimal digits of the number, most significant first. -/
def digitChars (d : Decimal) : List Char := Nat.toDigits 10 d.digits

/-- The power of ten of the leading digit. -/
def leadingExponent (d : Decimal) : Int := d.exponent + d.digitChars.length - 1

/-- The greatest `k` with `10 ^ k ≤ num / den`. -/
def floorLog10 (num den : Nat) : Int :=
  let guess : Int := (Nat.toDigits 10 num).length - (Nat.toDigits 10 den).length
  if den * Nat.pow 10 guess.toNat ≤ num * Nat.pow 10 (-guess).toNat then guess else guess - 1

/-- The interval of numbers that round to `significand * 2 ^ exponent`, in multiples of
`2 ^ (exponent - 2)`: lower end, upper end, and whether the ends belong to it. -/
def roundingInterval (significand : Nat) (exponent : Int) : Nat × Nat × Bool :=
  let low :=
    if significand = Nat.pow 2 52 ∧ -1074 < exponent then 4 * significand - 1
    else 4 * significand - 2
  (low, 4 * significand + 2, significand % 2 = 0)

/-- The shortest decimal with at most `count` more digits than `places` that rounds to the double,
where `places` digits have been tried before. -/
def shortestFrom (significand : Nat) (exponent : Int) (count places : Nat) : Decimal :=
  let num := significand * Nat.pow 2 exponent.toNat
  let den := Nat.pow 2 (-exponent).toNat
  let grid := floorLog10 num den - places
  -- `value / 10 ^ grid` and the interval, both over the common denominator
  let scaleNum := Nat.pow 10 (-grid).toNat
  let scaleDen := Nat.pow 10 grid.toNat
  let lower := num * scaleNum / (den * scaleDen)
  let (low, high, closed) := roundingInterval significand exponent
  let quarterNum := Nat.pow 2 exponent.toNat * scaleNum
  let quarterDen := 4 * den * scaleDen
  let rounds (point : Nat) : Bool :=
    let p := point * quarterDen
    if closed then low * quarterNum ≤ p && p ≤ high * quarterNum
    else low * quarterNum < p && p < high * quarterNum
  let offset := 2 * (num * scaleNum - lower * (den * scaleDen))
  let upperNearer :=
    den * scaleDen < offset || (offset = den * scaleDen && lower % 2 = 1)
  let found : Option Nat :=
    match rounds lower, rounds (lower + 1) with
    | true, true => some (if upperNearer then lower + 1 else lower)
    | true, false => some lower
    | false, true => some (lower + 1)
    | false, false => none
  match found, count with
  | some point, _ => ⟨point, grid⟩
  | none, 0 => ⟨lower, grid⟩
  | none, count + 1 => shortestFrom significand exponent count (places + 1)

/-- The shortest decimal that rounds to `significand * 2 ^ exponent`. -/
def shortest (significand : Nat) (exponent : Int) : Decimal :=
  if significand = 0 then ⟨0, 0⟩
  else
    let d := shortestFrom significand exponent 17 0
    normalize d.digitChars.length d

example : shortest 7205759403792794 (-56) = ⟨1, -1⟩ := by decide +kernel
example : shortest 1 (-1074) = ⟨5, -324⟩ := by decide +kernel
example : shortest (Nat.pow 2 53 - 1) 971 = ⟨17976931348623157, 292⟩ := by decide +kernel

end Decimal

end Workflow
