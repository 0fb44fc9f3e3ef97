import Workflow.Text.Ranges

/-!
# White space

White space is the `White_Space` property of the Unicode standard: the six ASCII blanks and
nineteen further characters, among them the no-break space. Labels, answers, prompts and settings
are trimmed of it on both sides.
-/

namespace Workflow.Text

/-- White space outside ASCII. -/
def blankRanges : Ranges :=
  [(0x85, 0x85), (0xA0, 0xA0), (0x1680, 0x1680), (0x2000, 0x200A), (0x2028, 0x2029),
   (0x202F, 0x202F), (0x205F, 0x205F), (0x3000, 0x3000)]

/-- Whether the character is white space. -/
def isBlank (c : Char) : Bool :=
  if c.toNat < 0x80 then c = ' ' || (9 ≤ c.toNat && c.toNat ≤ 13) else blankRanges.has c

/-- The text without the characters at its end that satisfy `p`. -/
def dropEndWhile (p : Char → Bool) (text : List Char) : List Char :=
  (text.reverse.dropWhile p).reverse

/-- The text without the characters at either end that satisfy `p`. -/
def trimWhile (p : Char → Bool) (text : List Char) : List Char :=
  dropEndWhile p (text.dropWhile p)

/-- The text without white space at either end. -/
def trim (text : List Char) : List Char := trimWhile isBlank text

/-- The text without white space at its start. -/
def trimStart (text : List Char) : List Char := text.dropWhile isBlank

/-- Whether there is nothing but white space. -/
def isBlankText (text : String) : Bool := text.toList.all isBlank

theorem length_trimWhile_le (p : Char → Bool) (text : List Char) :
    (trimWhile p text).length ≤ text.length := by
  simp only [trimWhile, dropEndWhile, List.length_reverse]
  refine Nat.le_trans (List.dropWhile_suffix p).length_le ?_
  simpa using (List.dropWhile_suffix p (l := text)).length_le

theorem length_trim_le (text : List Char) : (trim text).length ≤ text.length :=
  length_trimWhile_le isBlank text

end Workflow.Text
