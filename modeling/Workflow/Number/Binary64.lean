/-!
# Binary floating point numbers

Numbers with a fraction are IEEE 754 doubles. A finite double is a sign, a significand and a power
of two, and every result is the exact rational result rounded to the nearest double, a tie going to
the even significand. All arithmetic is on natural numbers and integers, so that each comparison
that a condition makes can be computed inside a proof.
-/

namespace Workflow

/-- A double. Of a finite one the significand is below `2 ^ 53` and the exponent at least `-1074`,
and the significand reaches `2 ^ 52` unless the exponent is `-1074`. -/
inductive Binary64 where
  | nan
  | infinite (negative : Bool)
  | finite (negative : Bool) (significand : Nat) (exponent : Int)
deriving DecidableEq, Repr

namespace Binary64

/-- The quotient rounded to the nearest natural number, a tie going to the even one. -/
def roundHalfEven (num den : Nat) : Nat :=
  let quotient := num / den
  let rest := num % den
  if 2 * rest < den then quotient
  else if den < 2 * rest then quotient + 1
  else quotient + quotient % 2

/-- `num / den / 2 ^ exponent` as numerator and denominator. -/
def scaledRatio (num den : Nat) (exponent : Int) : Nat × Nat :=
  (num * Nat.pow 2 (-exponent).toNat, den * Nat.pow 2 exponent.toNat)

/-- The exponent at which `num / den` has 53 significant bits, or `-1074` if it is too small. -/
def exponentFor (num den : Nat) : Int :=
  let low : Int := (num.log2 : Int) - (den.log2 : Int) - 53
  let (n, d) := scaledRatio num den low
  max (-1074) (if n / d < Nat.pow 2 53 then low else low + 1)

/-- The double nearest to `num / den`, which is read as negative where `negative` says so. -/
def ofRatio (negative : Bool) (num den : Nat) : Binary64 :=
  if num = 0 then .finite negative 0 (-1074)
  else
    let exponent := exponentFor num den
    let (n, d) := scaledRatio num den exponent
    let significand := roundHalfEven n d
    let (significand, exponent) :=
      if significand = Nat.pow 2 53 then (Nat.pow 2 52, exponent + 1) else (significand, exponent)
    if 971 < exponent then .infinite negative else .finite negative significand exponent

/-- The double nearest to an integer. -/
def ofInt (n : Int) : Binary64 := ofRatio (n < 0) n.natAbs 1

/-- The double nearest to `digits * 10 ^ exponent`. -/
def ofDecimal (negative : Bool) (digits : Nat) (exponent : Int) : Binary64 :=
  let magnitude := (Nat.toDigits 10 digits).length + exponent
  if digits = 0 ∨ magnitude < -330 then .finite negative 0 (-1074)
  else if 310 < magnitude then .infinite negative
  else ofRatio negative (digits * Nat.pow 10 exponent.toNat) (Nat.pow 10 (-exponent).toNat)

/-- A finite double as an integral multiple of `2 ^ -1074`. -/
def scaled (negative : Bool) (significand : Nat) (exponent : Int) : Int :=
  let magnitude : Int := (significand * Nat.pow 2 (exponent + 1074).toNat : Nat)
  if negative then -magnitude else magnitude

/-- The place of a double in the numeric order; the infinities lie beyond every finite double, and
what is not a number has no place. -/
def rank? : Binary64 → Option Int
  | .nan => none
  | .infinite negative => some (if negative then -Int.pow 2 2200 else Int.pow 2 2200)
  | .finite negative significand exponent => some (scaled negative significand exponent)

/-- Numeric order. Nothing is below or above what is not a number. -/
def lt (a b : Binary64) : Bool :=
  match a.rank?, b.rank? with
  | some x, some y => x < y
  | _, _ => false

/-- Numeric order, equality included. -/
def le (a b : Binary64) : Bool :=
  match a.rank?, b.rank? with
  | some x, some y => x ≤ y
  | _, _ => false

/-- Whether the difference, rounded to a double, is less than `2 ^ -52` away from zero. The
difference of two equal infinities is not a number and hence not small. -/
def near (a b : Binary64) : Bool :=
  match a, b with
  | .finite sa ma ea, .finite sb mb eb =>
      let difference := scaled sa ma ea - scaled sb mb eb
      lt (ofRatio false difference.natAbs (Nat.pow 2 1074)) (.finite false (Nat.pow 2 52) (-104))
  | _, _ => false

/-- Whether the double is neither infinite nor undefined. -/
def isFinite : Binary64 → Bool
  | .finite .. => true
  | _ => false

/-- The product of two finite doubles, rounded; the first factor if one is not finite. -/
def mul (a b : Binary64) : Binary64 :=
  match a, b with
  | .finite sa ma ea, .finite sb mb eb =>
      ofRatio (sa ^^ sb) (ma * mb * Nat.pow 2 (ea + eb).toNat) (Nat.pow 2 (-(ea + eb)).toNat)
  | _, _ => a

/-- The quotient of two finite doubles, rounded; the dividend if one is not finite or the divisor is
zero. -/
def div (a b : Binary64) : Binary64 :=
  match a, b with
  | .finite sa ma ea, .finite sb mb eb =>
      if mb = 0 then a
      else ofRatio (sa ^^ sb) (ma * Nat.pow 2 (ea - eb).toNat) (mb * Nat.pow 2 (-(ea - eb)).toNat)
  | _, _ => a

example : ofDecimal false 1 (-1) = .finite false 7205759403792794 (-56) := by decide +kernel
example : ofDecimal false 5 (-324) = .finite false 1 (-1074) := by decide +kernel
example : ofDecimal true 18 308 = .infinite true := by decide +kernel
example : near (ofDecimal false 75000000000000001 (-16)) (ofInt 7) = false := by decide +kernel

end Binary64

end Workflow
