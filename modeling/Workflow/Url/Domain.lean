import Workflow.Text.Direction
import Workflow.Text.Joining
import Workflow.Text.Search
import Workflow.Url.Punycode
import Workflow.Url.Spelling

/-!
# Domain names

A domain name consists of labels with full stops between them. It is written in ASCII: a label that
has other characters gets a prefix that says so. A name is refused if one of its labels could be
mistaken for another one: if it starts with a mark, if a joiner in it has no effect, if its
directions of writing are mixed, or if it has the prefix without need.
-/

namespace Workflow.Url

/-- What the ASCII form of a label starts with that has other characters. -/
def asciiMark : List Char := "xn--".toList

/-- Whether a label consists of ASCII characters. -/
def isAscii (label : List Char) : Bool := label.all (·.toNat < 0x80)

/-! ## Joiners -/

/-- Whether the first character that is not passed over satisfies a condition. -/
def reaches (condition : Char → Bool) (text : List Char) : Bool :=
  (text.dropWhile Text.isTransparent).head?.any condition

/-- Whether each joiner in a label has an effect; `before` is what stands before the rest of the
label, in reverse. It has one after a sign that silences a vowel, and one that keeps letters apart
also has one between letters that would be joined. -/
def joinersMatter (before : List Char) : List Char → Bool
  | [] => true
  | c :: rest =>
      let afterVirama := before.head?.any fun b => Text.combiningClass b = Text.viramaClass
      let matters :=
        if c = Text.joiner then afterVirama
        else if c = Text.nonJoiner then
          afterVirama || (reaches Text.joinsNext before && reaches Text.joinsPrevious rest)
        else true
      matters && joinersMatter (c :: before) rest

/-! ## Directions -/

/-- Whether a character is only found in names with letters from right to left. -/
def isFromRight (c : Char) : Bool :=
  Text.direction c = .rightToLeft || Text.direction c = .arabicDigit

/-- Whether the last character that is no mark has one of the given directions. -/
def endsIn (directions : List Text.Direction) (label : List Char) : Bool :=
  ((label.map Text.direction).reverse.dropWhile (· = .mark)).head?.any (· ∈ directions)

/-- Whether a label keeps to one direction of writing. It starts with a letter, which says which
one it is, and ends with a letter or digit. -/
def keepsDirection (label : List Char) : Bool :=
  match label with
  | [] => true
  | c :: _ =>
      let directions := label.map Text.direction
      match Text.direction c with
      | .leftToRight =>
          !label.any isFromRight && endsIn [.leftToRight, .europeanDigit] label
      | .rightToLeft =>
          .leftToRight ∉ directions && endsIn [.rightToLeft, .europeanDigit, .arabicDigit] label
            && !(.europeanDigit ∈ directions && .arabicDigit ∈ directions)
      | _ => false

/-! ## Labels -/

/-- Whether a label does not start with a mark and all joiners in it matter. -/
def isSound (label : List Char) : Bool := !label.head?.any Text.isMark && joinersMatter [] label

/-- The characters that a label stands for. After the prefix there must be a label that needs it and
is spelled as it should be. -/
def readLabel? (label : List Char) : Option (List Char) :=
  match Text.afterStart? asciiMark label with
  | none => if isSound label then some label else none
  | some encoded =>
      (Punycode.decode? encoded).filter fun label =>
        !isAscii label && spellName? label = some label && isSound label
          && (Text.afterStart? asciiMark label).isNone

/-- A label in ASCII. -/
def asciiLabel (label : List Char) : List Char :=
  if isAscii label then label else asciiMark ++ Punycode.encode label

/-! ## Names -/

/-- A domain name in ASCII. -/
def asciiDomain? (name : List Char) : Option (List Char) := do
  let spelled ← spellName? name
  let labels ← (spelled.splitOn '.').mapM readLabel?
  if labels.any (·.any isFromRight) && !labels.all keepsDirection then none
  else return ['.'].intercalate (labels.map asciiLabel)

end Workflow.Url
