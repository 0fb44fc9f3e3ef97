/-!
# Characters in their places

The structure of a YAML document is in its layout, so its characters are read together with the line
and the column where they stand. The ways to end a line are made one before that.

Lines inside a scalar are folded: a single line break between two words is a blank, and of several
the first one is dropped.
-/

namespace Workflow.Yaml

/-- A character and the place where it stands. -/
structure Glyph where
  char : Char
  line : Nat
  column : Nat
  /-- The number of bytes in front of it on its line. -/
  offset : Nat
deriving DecidableEq, Repr

/-! ## Classes of characters -/

/-- The characters that a document may consist of. -/
def isAllowed (c : Char) : Bool :=
  c = '\t' || c = '\n' || c = '\r' || (0x20 ≤ c.toNat && c.toNat ≤ 0x7E) || c.toNat = 0x85
    || (0xA0 ≤ c.toNat && c.toNat ≤ 0xFFFD) || 0x10000 ≤ c.toNat

/-- The mark that may stand in front of a line. -/
def byteOrderMark : Char := Char.ofNat 0xFEFF

/-- Line breaks, in a text where they are uniform. -/
def isBreak (c : Char) : Bool := c = '\n' || c.toNat = 0x2028 || c.toNat = 0x2029

/-- Blanks inside a line. -/
def isSpace (c : Char) : Bool := c = ' ' || c = '\t'

/-- What separates words: blanks and line breaks. -/
def isGap (c : Char) : Bool := isSpace c || isBreak c

/-- Letters, digits, `_` and `-`: the characters of anchors, of tag handles and of the names of
directives. -/
def isWord (c : Char) : Bool := c.isAlphanum || c = '_' || c = '-'

/-! ## Placing -/

/-- The text with a line feed for every carriage return, for every pair of the two, and for every
next-line character. -/
def uniformBreaks : List Char → List Char
  | [] => []
  | '\r' :: '\n' :: rest => '\n' :: uniformBreaks rest
  | c :: rest => (if c = '\r' || c.toNat = 0x85 then '\n' else c) :: uniformBreaks rest

/-- The characters of a text that starts at a place. -/
def placeFrom (line column offset : Nat) : List Char → List Glyph
  | [] => []
  | c :: rest =>
      ⟨c, line, column, offset⟩ ::
        (if isBreak c then placeFrom (line + 1) 0 0 rest
        else placeFrom line (column + 1) (offset + c.utf8Size) rest)

/-- The characters of a document in their places; there are none if it has a forbidden character. -/
def place? (text : List Char) : Option (List Glyph) :=
  if text.all isAllowed then some (placeFrom 0 0 0 (uniformBreaks text)) else none

/-! ## Looking ahead -/

/-- The characters without their places. -/
def chars (text : List Glyph) : List Char := text.map (·.char)

/-- Whether a gap or the end of the document comes next. -/
def gapNext : List Glyph → Bool
  | [] => true
  | g :: _ => isGap g.char

/-- Whether the end of a line or of the document comes next. -/
def lineEnds : List Glyph → Bool
  | [] => true
  | g :: _ => isBreak g.char

/-- Whether the text starts a line with three times `c`, as a line that separates documents does. -/
def marksDocument (c : Char) (text : List Glyph) : Bool :=
  text.head?.any (·.column = 0) && chars (text.take 3) == [c, c, c] && gapNext (text.drop 3)

/-- Whether the text starts with a line that separates documents. -/
def atDocumentMark (text : List Glyph) : Bool := marksDocument '-' text || marksDocument '.' text

/-! ## Folding -/

/-- What a gap between two words of a folded scalar stands for: blanks for themselves, one line
break for a blank, and several for all but the first. -/
def foldedGap (gap : List Char) : List Char :=
  match gap.filter isBreak with
  | [] => gap
  | '\n' :: [] => [' ']
  | '\n' :: more => more
  | breaks => breaks

example : foldedGap [' ', '\n', ' '] = [' '] := by decide
example : foldedGap ['\n', ' ', '\n', '\n'] = ['\n', '\n'] := by decide

/-- The gap at the start of the text, and what follows it. -/
def splitGap (text : List Glyph) : List Glyph × List Glyph :=
  (text.takeWhile fun g => isGap g.char, text.dropWhile fun g => isGap g.char)

end Workflow.Yaml
