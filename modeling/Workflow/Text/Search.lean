/-!
# Searching texts

Texts are lists of characters here. What is looked for stands at the start, at the end or anywhere.
-/

namespace Workflow.Text

/-- What follows `start`, if the text starts with it. -/
def afterStart? (start text : List Char) : Option (List Char) :=
  if start.isPrefixOf text then some (text.drop start.length) else none

/-- What precedes `last`, if the text ends with that character. -/
def beforeEnd? (last : Char) (text : List Char) : Option (List Char) :=
  if text.getLast? = some last then some text.dropLast else none

/-- Whether `needle` occurs in the text. -/
def occursIn (needle : List Char) : List Char → Bool
  | [] => needle.isEmpty
  | c :: rest => needle.isPrefixOf (c :: rest) || occursIn needle rest

/-- Whether two texts are the same but for the case of ASCII letters. -/
def eqIgnoringAsciiCase (a b : List Char) : Bool := a.map Char.toLower = b.map Char.toLower

end Workflow.Text
