/-!
# Sets of characters given by ranges

The character classes of the Unicode standard are long lists of code point ranges. A class is kept
as such a list, in ascending order, and a character belongs to it when some range holds its code
point. Characters below U+0080 never need the list: each class treats them by a rule of its own.
-/

namespace Workflow.Text

/-- Code point ranges, ends included. -/
abbrev Ranges := List (Nat × Nat)

/-- Whether the code point of `c` lies in one of the ranges. -/
def Ranges.has (ranges : Ranges) (c : Char) : Bool :=
  ranges.any fun range => range.1 ≤ c.toNat && c.toNat ≤ range.2

end Workflow.Text
