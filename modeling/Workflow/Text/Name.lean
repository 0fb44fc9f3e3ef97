/-!
# Names in placeholders and paths

Inside placeholders and path tokens a name is a run of ASCII letters, decimal digits, underscores
and hyphens.
-/

namespace Workflow.Text

/-- A character of a name. -/
def isNameChar (c : Char) : Bool := c.isAlphanum || c = '_' || c = '-'

/-- The name at the start of a text; it may be empty. -/
def leadingName (text : List Char) : List Char := text.takeWhile isNameChar

/-- What follows the name at the start of a text. -/
def afterName (text : List Char) : List Char := text.dropWhile isNameChar

theorem leadingName_append_afterName (text : List Char) :
    leadingName text ++ afterName text = text :=
  List.takeWhile_append_dropWhile

theorem length_afterName_le (text : List Char) : (afterName text).length ≤ text.length :=
  (List.dropWhile_suffix _).length_le

end Workflow.Text
