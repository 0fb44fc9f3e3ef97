import Workflow.Source.Basic
import Workflow.Number.Reading

/-!
# Reading JSON text

The text of a document in JSON. An integer that fits a machine word, signed or unsigned, is an
integer; every other number is a double. Its first nineteen or twenty digits, as many as fit a
word, are scaled by a power of ten with one rounding.

Some parts are well-formed but have no value: a number beyond the range of doubles, a string with
half of a surrogate pair, and brackets nested deeper than 127 levels. They are unreadable scalars,
so that a document is refused for them only where it has to be read.
-/

namespace Workflow.Source.JsonText

/-- The text without the blanks at its start. -/
def skipBlanks (text : List Char) : List Char :=
  text.dropWhile fun c => c = ' ' || c = '\n' || c = '\r' || c = '\t'

/-! ## Strings -/

/-- The value of a hexadecimal digit. -/
def hexValue? (c : Char) : Option Nat :=
  if c.isDigit then some (c.toNat - '0'.toNat)
  else if 'a' ≤ c ∧ c ≤ 'f' then some (c.toNat - 'a'.toNat + 10)
  else if 'A' ≤ c ∧ c ≤ 'F' then some (c.toNat - 'A'.toNat + 10)
  else none

/-- The value of four hexadecimal digits. -/
def hex4? (a b c d : Char) : Option Nat := do
  let a ← hexValue? a
  let b ← hexValue? b
  let c ← hexValue? c
  let d ← hexValue? d
  return ((a * 16 + b) * 16 + c) * 16 + d

/-- The character that a letter after a backslash stands for. -/
def escaped? : Char → Option Char
  | '"' => some '"'
  | '\\' => some '\\'
  | '/' => some '/'
  | 'b' => some (Char.ofNat 8)
  | 'f' => some (Char.ofNat 12)
  | 'n' => some '\n'
  | 'r' => some '\r'
  | 't' => some '\t'
  | _ => none

/-- A part of a string literal: a character, or a number given by four hexadecimal digits. -/
inductive Unit16 where
  | char (c : Char)
  | unit (n : Nat)

/-- The parts of a string after its opening quote, and what follows the closing one. -/
def readUnits : List Char → Option (List Unit16 × List Char)
  | [] => none
  | '"' :: rest => some ([], rest)
  | '\\' :: 'u' :: a :: b :: c :: d :: rest => do
      let n ← hex4? a b c d
      let (units, rest) ← readUnits rest
      return (.unit n :: units, rest)
  | '\\' :: c :: rest => do
      let e ← escaped? c
      let (units, rest) ← readUnits rest
      return (.char e :: units, rest)
  | c :: rest =>
      if c.toNat < 0x20 then none
      else do
        let (units, rest) ← readUnits rest
        return (.char c :: units, rest)

/-- The characters of a string. A number from the first half of the surrogates is one character
together with a number from the second half after it; without its partner a surrogate is none. -/
def joinUnits : List Unit16 → Option (List Char)
  | [] => some []
  | .char c :: rest => (joinUnits rest).map (c :: ·)
  | .unit high :: .unit low :: rest =>
      if 0xD800 ≤ high ∧ high < 0xDC00 then
        if 0xDC00 ≤ low ∧ low < 0xE000 then
          (joinUnits rest).map
            (Char.ofNat (0x10000 + (high - 0xD800) * 0x400 + (low - 0xDC00)) :: ·)
        else none
      else if 0xDC00 ≤ high ∧ high < 0xE000 then none
      else (joinUnits (.unit low :: rest)).map (Char.ofNat high :: ·)
  | .unit n :: rest =>
      if 0xD800 ≤ n ∧ n < 0xE000 then none else (joinUnits rest).map (Char.ofNat n :: ·)

/-- The characters of a string after its opening quote, if it has any reading, and what follows the
closing one. -/
def readString (text : List Char) : Option (Option (List Char) × List Char) :=
  (readUnits text).map fun (units, rest) => (joinUnits units, rest)

/-- A string scalar. -/
def ofChars (chars : Option (List Char)) : Source :=
  match chars with
  | some chars => .scalar (.ofValue (.text (String.ofList chars)))
  | none => .unreadable

/-! ## Numbers -/

/-- Digits collected in a machine word, and the power of ten by which they are too small. -/
structure Significand where
  word : Nat
  exponent : Int

/-- Whether the word can take another digit. -/
def Significand.fits (s : Significand) (c : Char) : Bool :=
  s.word * 10 + (c.toNat - '0'.toNat) < Nat.pow 2 64

/-- Digits before the point: those that no longer fit raise the exponent. -/
def Significand.wholeDigits (s : Significand) : List Char → Significand
  | [] => s
  | c :: rest =>
      if s.fits c then wholeDigits ⟨s.word * 10 + (c.toNat - '0'.toNat), s.exponent⟩ rest
      else ⟨s.word, s.exponent + (rest.length + 1)⟩

/-- Digits after the point: those that no longer fit are dropped. -/
def Significand.fractionDigits (s : Significand) : List Char → Significand
  | [] => s
  | c :: rest =>
      if s.fits c then fractionDigits ⟨s.word * 10 + (c.toNat - '0'.toNat), s.exponent - 1⟩ rest
      else s

/-- The double `x * 10 ^ exponent`, by multiplication with a power of ten or by repeated division.
There is none beyond the range of doubles. -/
def scaleByTen (fuel : Nat) (x : Binary64) (exponent : Int) : Option Binary64 :=
  if exponent.natAbs ≤ 308 then
    let power := Binary64.ofRatio false (Nat.pow 10 exponent.natAbs) 1
    if 0 ≤ exponent then
      let product := x.mul power
      if product.isFinite then some product else none
    else some (x.div power)
  else
    match x, fuel with
    | .finite _ 0 _, _ => some x
    | _, 0 => none
    | _, fuel + 1 =>
        if 0 ≤ exponent then none
        else scaleByTen fuel (x.div (Binary64.ofRatio false (Nat.pow 10 308) 1)) (exponent + 308)

/-- The double with these digits and this exponent. -/
def readDouble (negative : Bool) (whole fraction : List Char) (exponent : Int) : Option Binary64 :=
  let s := (Significand.wholeDigits ⟨0, 0⟩ whole).fractionDigits fraction
  (scaleByTen 4 (Binary64.ofRatio false s.word 1) (s.exponent + exponent)).map fun x =>
    match x with
    | .finite _ m e => .finite negative m e
    | other => other

/-- The number with these digits, where it has neither fraction nor exponent. -/
def readInteger (negative : Bool) (whole : List Char) : Option Json :=
  let n := digitsValue whole
  if negative then
    if 0 < n ∧ n ≤ Nat.pow 2 63 then some (.int (-n)) else (readDouble true whole [] 0).map .float
  else if n < Nat.pow 2 64 then some (.int n)
  else (readDouble false whole [] 0).map .float

/-- A number scalar. -/
def ofNumber : Option Json → Source
  | some value => .scalar (.ofValue value)
  | none => .unreadable

/-- The exponent part of a number, if the text starts with one, and what follows it. -/
def readExponentPart : List Char → Option (Option Int × List Char)
  | c :: rest =>
      if c = 'e' ∨ c = 'E' then
        let (negative, tail) := splitSign rest
        let digits := tail.takeWhile Char.isDigit
        if digits = [] then none
        else
          let n : Int := digitsValue digits
          some (some (if negative then -n else n), tail.dropWhile Char.isDigit)
      else some (none, c :: rest)
  | [] => some (none, [])

/-- A number at the start of the text, and what follows it. -/
def readNumber (text : List Char) : Option (Source × List Char) :=
  let (negative, text) :=
    match text with
    | '-' :: rest => (true, rest)
    | _ => (false, text)
  let whole := text.takeWhile Char.isDigit
  let rest := text.dropWhile Char.isDigit
  if whole = [] ∨ (whole.head? = some '0' ∧ 1 < whole.length) then none
  else
    match rest with
    | '.' :: tail =>
        let fraction := tail.takeWhile Char.isDigit
        if fraction = [] then none
        else
          (readExponentPart (tail.dropWhile Char.isDigit)).map fun (exponent, rest) =>
            (ofNumber ((readDouble negative whole fraction (exponent.getD 0)).map .float), rest)
    | _ =>
        (readExponentPart rest).map fun (exponent, rest) =>
          match exponent with
          | some exponent => (ofNumber ((readDouble negative whole [] exponent).map .float), rest)
          | none => (ofNumber (readInteger negative whole), rest)

/-! ## Values -/

/-- Brackets may be nested this deep. -/
def maxDepth : Nat := 127

/-- A list or map, or an unreadable scalar if no further nesting is allowed. -/
def withinDepth (levels : Nat) (source : Source) : Source :=
  if levels = 0 then .unreadable else source

mutual

/-- A value at the start of the text, in which brackets may be nested `levels` deep, and what
follows it. -/
def readValue (fuel levels : Nat) (text : List Char) : Option (Source × List Char) :=
  match fuel with
  | 0 => none
  | fuel + 1 =>
      match skipBlanks text with
      | 'n' :: 'u' :: 'l' :: 'l' :: rest => some (.scalar (.ofValue .null), rest)
      | 't' :: 'r' :: 'u' :: 'e' :: rest => some (.scalar (.ofValue (.bool true)), rest)
      | 'f' :: 'a' :: 'l' :: 's' :: 'e' :: rest => some (.scalar (.ofValue (.bool false)), rest)
      | '"' :: rest => (readString rest).map fun (chars, rest) => (ofChars chars, rest)
      | '[' :: rest =>
          match skipBlanks rest with
          | ']' :: rest => some (withinDepth levels (.list .loose []), rest)
          | _ =>
              (readItems fuel (levels - 1) rest).map fun (items, rest) =>
                (withinDepth levels (.list .loose items), rest)
      | '{' :: rest =>
          match skipBlanks rest with
          | '}' :: rest => some (withinDepth levels (.map .loose []), rest)
          | _ =>
              (readEntries fuel (levels - 1) rest).map fun (entries, rest) =>
                (withinDepth levels (.map .loose entries), rest)
      | rest => readNumber rest

/-- The items of an array up to its closing bracket, and what follows that. -/
def readItems (fuel levels : Nat) (text : List Char) : Option (List Source × List Char) :=
  match fuel with
  | 0 => none
  | fuel + 1 => do
      let (item, rest) ← readValue fuel levels text
      match skipBlanks rest with
      | ']' :: rest => return ([item], rest)
      | ',' :: rest =>
          let (items, rest) ← readItems fuel levels rest
          return (item :: items, rest)
      | _ => none

/-- The entries of an object up to its closing brace, and what follows that. -/
def readEntries (fuel levels : Nat) (text : List Char) :
    Option (List (Source × Source) × List Char) :=
  match fuel with
  | 0 => none
  | fuel + 1 =>
      match skipBlanks text with
      | '"' :: rest => do
          let (key, rest) ← readString rest
          match skipBlanks rest with
          | ':' :: rest =>
              let (item, rest) ← readValue fuel levels rest
              match skipBlanks rest with
              | '}' :: rest => return ([(ofChars key, item)], rest)
              | ',' :: rest =>
                  let (entries, rest) ← readEntries fuel levels rest
                  return ((ofChars key, item) :: entries, rest)
              | _ => none
          | _ => none
      | _ => none

end

/-- The tree of a JSON text in which brackets may be nested `levels` deep, if the text is one value
and nothing else. -/
def readWithin? (levels : Nat) (text : String) : Option Source :=
  let chars := text.toList
  match readValue (2 * chars.length + 2) levels chars with
  | some (source, rest) => if skipBlanks rest = [] then some source else none
  | none => none

/-- The tree of a JSON text. -/
def read? (text : String) : Option Source := readWithin? maxDepth text

end Workflow.Source.JsonText
