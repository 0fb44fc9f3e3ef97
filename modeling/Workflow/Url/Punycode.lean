/-!
# Punycode

The ASCII form of a label of a host name. The ASCII characters of the label come first; then, for
every other character in ascending order of code points, a number says how far on it is from the one
before, counted in code points and positions together. The numbers have digits in base 36, and which
digit is the last one of a number depends on a bias that follows the size of the numbers.
-/

namespace Workflow.Url.Punycode

/-- The digit with a value below 36. -/
def digit (value : Nat) : Char :=
  if value < 26 then Char.ofNat ('a'.toNat + value) else Char.ofNat ('0'.toNat + (value - 26))

/-- The smallest value that a digit has to have for another digit to follow. -/
def threshold (place bias : Nat) : Nat := max 1 (min 26 (place - bias))

/-- The digits of a number, from the digit at `place` on. -/
def digits (fuel place bias number : Nat) : List Char :=
  let t := threshold place bias
  match fuel with
  | 0 => [digit number]
  | fuel + 1 =>
      if number < t then [digit number]
      else
        digit (t + (number - t) % (36 - t)) ::
          digits fuel (place + 36) bias ((number - t) / (36 - t))

/-- The bias for numbers of the size of `delta`. -/
def biasFor (fuel delta steps : Nat) : Nat :=
  match fuel with
  | 0 => steps
  | fuel + 1 =>
      if 455 < delta then biasFor fuel (delta / 35) (steps + 36)
      else steps + 36 * delta / (delta + 38)

/-- The bias after a number; `count` characters have been written. -/
def nextBias (delta count : Nat) (first : Bool) : Nat :=
  let delta := if first then delta / 700 else delta / 2
  biasFor delta (delta + delta / count) 0

/-- What is carried from one character to the next. -/
structure Progress where
  /-- The distance since the last character written. -/
  delta : Nat
  bias : Nat
  /-- The number of characters written. -/
  count : Nat
  first : Bool
  output : List Char

/-- Passes a character of the label, and writes its number if it is the one that is due. -/
def Progress.pass (point : Nat) (p : Progress) (c : Char) : Progress :=
  if c.toNat < point then { p with delta := p.delta + 1 }
  else if c.toNat = point then
    { delta := 0
      bias := nextBias p.delta (p.count + 1) p.first
      count := p.count + 1
      first := false
      output := p.output ++ digits p.delta 36 p.bias p.delta }
  else p

/-- Writes all characters with a code point, and goes on with the next larger one. -/
def writePoints (label : List Char) (p : Progress) (last : Nat) : List Nat → List Char
  | [] => p.output
  | point :: rest =>
      let p := { p with delta := p.delta + (point - last - 1) * (p.count + 1) }
      let p := label.foldl (Progress.pass point) p
      writePoints label { p with delta := p.delta + 1 } point rest

/-- The ASCII form of a label, without the mark in front of it. -/
def encode (label : List Char) : List Char :=
  let basic := label.filter fun c => c.toNat < 0x80
  let points := (label.filter fun c => 0x80 ≤ c.toNat).map Char.toNat
  let points := (points.mergeSort (· ≤ ·)).eraseDups
  let start := if basic.isEmpty then [] else basic ++ ['-']
  start ++ writePoints label ⟨0, 72, basic.length, true, []⟩ 0x7F points

example : encode "münchen".toList = "mnchen-3ya".toList := by decide +kernel

/-! ## Reading -/

/-- The value of a digit. -/
def digitValue? (c : Char) : Option Nat :=
  if c.isDigit then some (c.toNat - '0'.toNat + 26)
  else if c.isAlpha then some (c.toLower.toNat - 'a'.toNat)
  else none

/-- Reads a number from the digit at `place` on, which counts `weight`. -/
def readNumber? (place bias weight : Nat) : List Char → Option (Nat × List Char)
  | [] => none
  | c :: rest => do
      let value ← digitValue? c
      let t := threshold place bias
      if value < t then return (value * weight, rest)
      else
        let (more, rest) ← readNumber? (place + 36) bias (weight * (36 - t)) rest
        return (value * weight + more, rest)

/-- Puts a character for each number into a label, of which `label` is known. The last one was put
in front of the place `index` and has the code point `point`. -/
def readPoints? (bias index point : Nat) (first : Bool) (label text : List Char) :
    Option (List Char) :=
  if text.isEmpty then some label
  else
    match readNumber? 36 bias 1 text with
    | none => none
    | some (number, rest) =>
        let count := label.length + 1
        let point := point + (index + number) / count
        let index := (index + number) % count
        let label := label.take index ++ Char.ofNat point :: label.drop index
        if _h : point.isValidChar ∧ rest.length < text.length then
          readPoints? (nextBias number count first) (index + 1) point false label rest
        else none
termination_by text.length

/-- The label with an ASCII form, which is without the mark in front of it. -/
def decode? (text : List Char) : Option (List Char) :=
  let numbers := (text.reverse.takeWhile (· ≠ '-')).reverse
  let basic := text.take (text.length - numbers.length - 1)
  if text.any (0x80 ≤ ·.toNat) then none
  else
    let numbers := if basic.isEmpty then text else numbers
    readPoints? 72 0 0x80 true basic numbers

example : decode? "mnchen-3ya".toList = some "münchen".toList := by cbv

end Workflow.Url.Punycode
