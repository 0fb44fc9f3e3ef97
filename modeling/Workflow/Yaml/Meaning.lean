import Workflow.Number.Reading
import Workflow.Source.Basic
import Workflow.Yaml.Tag

/-!
# What scalars denote

A plain scalar is null, a truth value, a number or a text, by how it looks; a tag can demand one of
these. Integers may be written with base 16, 8 or 2. A number with leading zeros is a text, and so
is everything that looks like nothing else.
-/

namespace Workflow.Yaml

/-- Whether a text is a name of null. -/
def isNullName (text : String) : Bool := text ∈ ["null", "Null", "NULL", "~"]

/-- Whether a plain scalar is null. -/
def isNullWord (text : String) : Bool := text.isEmpty || isNullName text

/-- The truth value that a word denotes. -/
def readBool? (text : String) : Option Bool :=
  if text ∈ ["true", "True", "TRUE"] then some true
  else if text ∈ ["false", "False", "FALSE"] then some false
  else none

/-! ## Integers -/

/-- The value of a digit in a base. -/
def digitValue? (base : Nat) (c : Char) : Option Nat :=
  let value :=
    if c.isDigit then some (c.toNat - '0'.toNat)
    else if 'a' ≤ c ∧ c ≤ 'f' then some (c.toNat - 'a'.toNat + 10)
    else if 'A' ≤ c ∧ c ≤ 'F' then some (c.toNat - 'A'.toNat + 10)
    else none
  value.filter (· < base)

/-- The number that digits in a base denote; there must be one at least. -/
def readDigits? (base : Nat) (text : List Char) : Option Nat :=
  if text.isEmpty then none
  else (text.mapM (digitValue? base)).map fun values => values.foldl (fun n d => base * n + d) 0

/-- The base that a text announces, and the digits after that. -/
def splitBase : List Char → Nat × List Char
  | '0' :: 'x' :: rest => (16, rest)
  | '0' :: 'o' :: rest => (8, rest)
  | '0' :: 'b' :: rest => (2, rest)
  | text => (10, text)

/-- Whether a number is written with more leading zeros than it needs. Such a text is no number. -/
def hasLeadingZero (text : List Char) : Bool :=
  match (splitSign text).2 with
  | '0' :: rest => !rest.isEmpty && rest.all Char.isDigit
  | _ => false

/-- The integer that a text denotes, with a sign, or without one. -/
def readInt? (text : List Char) : Option Int :=
  if hasLeadingZero text then none
  else
    let (negative, magnitude) := splitSign text
    let (base, digits) := splitBase magnitude
    (readDigits? base digits).map fun n => if negative then -n else n

/-- Whether an integer fits a machine word, signed or unsigned. -/
def fitsWord (n : Int) : Bool := -Int.pow 2 63 ≤ n && n < Int.pow 2 64

/-- Whether an integer fits a machine word of double width. -/
def fitsWideWord (n : Int) : Bool := -Int.pow 2 127 ≤ n && n < Int.pow 2 128

/-! ## Doubles -/

/-- The double that a text denotes. Words for what is not finite start with a point. -/
def readFloat? (text : List Char) : Option Binary64 :=
  match String.ofList text with
  | ".inf" | ".Inf" | ".INF" | "+.inf" | "+.Inf" | "+.INF" => some (.infinite false)
  | "-.inf" | "-.Inf" | "-.INF" => some (.infinite true)
  | ".nan" | ".NaN" | ".NAN" => some .nan
  | _ => (Binary64.read? text).filter (·.isFinite)

/-! ## The ways to write a scalar -/

/-- How a scalar is written. -/
inductive Style where
  | plain
  /-- A block in which lines are kept. -/
  | literal
  /-- A block in which lines are folded. -/
  | folded
  | quoted
deriving DecidableEq, Repr

/-! ## Values -/

/-- What a plain scalar denotes. An integer that is too wide for a machine word denotes nothing,
unless it is so wide that it is read as a double. -/
def plainValue? (text : String) : Option Json :=
  if isNullWord text then some .null
  else
    match readBool? text with
    | some value => some (.bool value)
    | none =>
        match (readInt? text.toList).filter fitsWideWord with
        | some n => if fitsWord n then some (.int n) else none
        | none =>
            if hasLeadingZero text.toList then some (.text text)
            else
              match readFloat? text.toList with
              | some x => some (.float x)
              | none => some (.text text)

/-- The beginning of the tags for the common kinds of values. -/
def coreTag : String := "tag:yaml.org,2002:"

/-- Whether a tag is local, so that it starts with an exclamation mark. -/
def isLocal (tag : String) : Bool := tag.toList.head? = some '!'

/-- The name in a local tag, which must consist of characters. -/
def localName? (tag : String) : Option String :=
  match tag.toList with
  | '!' :: name =>
      if noCharacter ∈ name then none
      else some (if name.isEmpty then "!" else String.ofList name)
  | _ => none

/-- What a scalar with a tag denotes. The name in a local tag leaves it without meaning. -/
def taggedValue? (tag : String) (style : Style) (text : String) : Option Json :=
  if tag = coreTag ++ "bool" then (readBool? text).map .bool
  else if tag = coreTag ++ "int" then ((readInt? text.toList).filter fitsWord).map .int
  else if tag = coreTag ++ "float" then (readFloat? text.toList).map .float
  else if tag = coreTag ++ "null" then if isNullName text then some .null else none
  else if (localName? tag).isSome then none
  else if isLocal tag && style = .plain then plainValue? text
  else some (.text text)

/-! ## What a scalar can be read as -/

/-- What a scalar denotes. -/
def scalarValue? (tag : Option String) (style : Style) (text : String) : Option Json :=
  match tag, style with
  | some tag, _ => taggedValue? tag style text
  | none, .plain => plainValue? text
  | none, _ => some (.text text)

/-- What a scalar denotes where a truth value is expected. A plain scalar is one whatever
its tag. -/
def scalarTruth? (tag : Option String) (style : Style) (text : String) : Option Bool :=
  match style with
  | .plain => readBool? text
  | .literal => if tag = some (coreTag ++ "bool") then readBool? text else none
  | .folded | .quoted => none

/-- What a scalar denotes where one of several words is expected. A local tag is such a word if
nothing but null follows it. -/
def scalarWord? (tag : Option String) (style : Style) (text : String) : Option String :=
  match tag.bind localName? with
  | some name => if style = .plain && isNullWord text then some name else none
  | none => some text

/-- Whether a scalar stands for the absence of something. With the tag for null it must be null. -/
def scalarAbsent? (tag : Option String) (style : Style) (text : String) : Option Bool :=
  match tag, style with
  | none, .plain => some (isNullWord text)
  | some tag, .plain =>
      if tag = coreTag ++ "null" then if isNullName text then some true else none else some false
  | _, _ => some false

/-- The place in an order that a scalar denotes: a number that is written without a minus sign. -/
def scalarPlace? (tag : Option String) (style : Style) (text : String) : Option Nat :=
  if text.toList.head? = some '-' then none else (scalarValue? tag style text).bind Json.nat?

/-- A scalar in a document. -/
def scalar (tag : Option String) (style : Style) (text : String) : Scalar where
  text := some text
  value := scalarValue? tag style text
  truth := scalarTruth? tag style text
  word := scalarWord? tag style text
  place := scalarPlace? tag style text
  absent := scalarAbsent? tag style text
  isEmpty := style = .plain && text.isEmpty

example : plainValue? "0x1F" = some (.int 31) := by decide +kernel
example : plainValue? "007" = some (.text "007") := by decide +kernel
example : plainValue? "yes" = some (.text "yes") := by decide +kernel

end Workflow.Yaml
