import Workflow.Number.Layout
import Workflow.Text.Quoted
import Workflow.Yaml.Glyph
import Workflow.Yaml.Meaning

/-!
# Writing YAML text

Values are written in block style. The items of a list that is the value of an entry stand at the
column of its key, all other collections two columns deeper than what is around them, and empty
collections are written as brackets.

A text is written plainly if it is read back as that text. A text with several lines is written as a
literal block. What cannot be written in either way is put between single quotes, and between double
quotes if that is not possible either.
-/

namespace Workflow.Yaml

/-! ## Numbers -/

/-- Doubles always show a fraction or an exponent, and an exponent has no plus sign. -/
def numberLayout : NumberLayout where
  positional := some (-5, 16)
  keepFraction := true
  exponentSign := ""
  infinity := ".inf"
  notANumber := ".nan"

/-! ## What a text allows -/

/-- Whether a character can stand for itself in every kind of scalar. -/
def isPrintable (c : Char) : Bool :=
  c = '\n' || (0x20 ≤ c.toNat && c.toNat ≤ 0x7E)
    || (0xA0 ≤ c.toNat && c.toNat ≤ 0xFFFD && c ≠ byteOrderMark) || 0x10000 ≤ c.toNat

/-- Whether the characters `first` and `second` stand next to each other somewhere. -/
def hasPair (first second : Char → Bool) : List Char → Bool
  | a :: b :: rest => (first a && second b) || hasPair first second (b :: rest)
  | _ => false

/-- Whether a gap or the end comes next. -/
def gapFollows (text : List Char) : Bool := text.head?.all isGap

/-- The characters that a plain scalar cannot begin with. -/
def isLeadingIndicator (c : Char) : Bool := c ∈ "#,[]\x7b\x7d&*!|>'\"%@\x60".toList

/-- Whether the text begins in a way that means something else than a plain scalar. -/
def startsOtherwise : List Char → Bool
  | [] => false
  | c :: rest =>
      isLeadingIndicator c || ((c = '?' || c = ':' || c = '-') && gapFollows rest)
        || (c :: rest).take 3 == ['-', '-', '-'] || (c :: rest).take 3 == ['.', '.', '.']

/-- Whether the rest of a text has a colon before a gap or a number sign after one; `previous` is
the character before it. -/
def hasInnerIndicator (previous : Char) : List Char → Bool
  | [] => false
  | c :: rest =>
      (c = ':' && gapFollows rest) || (c = '#' && isGap previous) || hasInnerIndicator c rest

/-- Whether there is a line break in a text. -/
def hasBreak (text : List Char) : Bool := text.any isBreak

/-- Whether a text begins or ends with a blank or a line break. -/
def hasOuterGap (text : List Char) : Bool :=
  let isOuter := fun c => c = ' ' || isBreak c
  text.head?.any isOuter || text.getLast?.any isOuter

/-- Whether a text consists of printable characters and no line ends with a blank. -/
def isRegular (text : List Char) : Bool :=
  text.all isPrintable && !hasPair (· = ' ') isBreak text

/-- Whether the characters of a text allow a plain scalar. -/
def allowsPlain : List Char → Bool
  | [] => true
  | c :: rest =>
      let text := c :: rest
      isRegular text && !hasBreak text && !hasOuterGap text && !startsOtherwise text
        && !hasInnerIndicator c rest

/-- Whether the characters of a text allow single quotes. -/
def allowsSingleQuotes (text : List Char) : Bool :=
  isRegular text && !hasPair isBreak (· = ' ') text

/-- Whether the characters of a text allow a literal block. -/
def allowsBlock (text : List Char) : Bool :=
  !text.isEmpty && isRegular text && text.getLast? ≠ some ' '

/-- Whether a plain scalar is read back as the text that it shows. -/
def readsAsText (text : String) : Bool :=
  plainValue? text = some (.text text) && !hasLeadingZero text.toList

/-! ## Scalars -/

/-- A text between single quotes; line breaks, which are not line feeds, are followed by the
indentation. -/
def singleQuotedChars (indent : Nat) : List Char → List Char
  | [] => []
  | '\'' :: rest => '\'' :: '\'' :: singleQuotedChars indent rest
  | c :: rest =>
      let margin :=
        if isBreak c && rest.head?.all (!isBreak ·) then List.replicate indent ' ' else []
      c :: (margin ++ singleQuotedChars indent rest)

/-- A number in hexadecimal digits, in capitals and with leading zeros up to a width. -/
def paddedHex (width n : Nat) : List Char :=
  let digits := (Text.hexDigits n).map Char.toUpper
  List.replicate (width - digits.length) '0' ++ digits

/-- A character between double quotes. -/
def doubleQuotedChar (c : Char) : List Char :=
  let short? : Option Char :=
    match c.toNat with
    | 0x00 => some '0'
    | 0x07 => some 'a'
    | 0x08 => some 'b'
    | 0x09 => some 't'
    | 0x0A => some 'n'
    | 0x0B => some 'v'
    | 0x0C => some 'f'
    | 0x0D => some 'r'
    | 0x1B => some 'e'
    | 0x22 => some '"'
    | 0x5C => some '\\'
    | 0x85 => some 'N'
    | 0xA0 => some '_'
    | 0x2028 => some 'L'
    | 0x2029 => some 'P'
    | _ => none
  if isPrintable c && !isBreak c && c ≠ '"' && c ≠ '\\' then [c]
  else
    match short? with
    | some letter => ['\\', letter]
    | none =>
        if c.toNat ≤ 0xFF then '\\' :: 'x' :: paddedHex 2 c.toNat
        else if c.toNat ≤ 0xFFFF then '\\' :: 'u' :: paddedHex 4 c.toNat
        else '\\' :: 'U' :: paddedHex 8 c.toNat

/-- The lines of a literal block, each after its indentation; empty lines have none. -/
def literalChars (indent : Nat) (atStart : Bool) : List Char → List Char
  | [] => []
  | c :: rest =>
      if isBreak c then c :: literalChars indent true rest
      else (if atStart then List.replicate indent ' ' else [])
        ++ c :: literalChars indent false rest

/-- The indicators of a literal block: the indentation if the text does not show it, and what
becomes of the line breaks at its end. -/
def literalHints (text : List Char) : List Char :=
  let shown := text.head?.any fun c => c = ' ' || isBreak c
  let chomping :=
    match text.reverse with
    | [] => ['-']
    | [last] => if isBreak last then ['+'] else ['-']
    | last :: before :: _ => if !isBreak last then ['-'] else if isBreak before then ['+'] else []
  (if shown then ['2'] else []) ++ chomping

/-- A text as a scalar whose further lines are indented, without a line break at its end unless it
is a block that ends with one. -/
def textScalar (indent : Nat) (text : String) : List Char :=
  let chars := text.toList
  if '\n' ∈ chars && allowsBlock chars then
    '|' :: (literalHints chars ++ '\n' :: literalChars indent true chars)
  else if !('\n' ∈ chars) && readsAsText text && allowsPlain chars then chars
  else if !('\n' ∈ chars) && allowsSingleQuotes chars then
    '\'' :: (singleQuotedChars indent chars ++ ['\''])
  else '"' :: (chars.flatMap doubleQuotedChar ++ ['"'])

/-- A scalar with the end of its line. -/
def endLine (scalar : List Char) : List Char :=
  if scalar.getLast?.any isBreak then scalar else scalar ++ ['\n']

/-- The line of a value that is no collection, or an empty one. -/
def scalarLine (indent : Nat) : Json → List Char
  | .null => "null\n".toList
  | .bool value => if value then "true\n".toList else "false\n".toList
  | .int value => endLine (toString value).toList
  | .float value => endLine (numberLayout.text value).toList
  | .text value => endLine (textScalar indent value)
  | .array _ => "[]\n".toList
  | .object _ => "\x7b\x7d\n".toList

/-! ## Collections -/

/-- Whether a character ends a line in one of the ways that there are to do so. -/
def endsLine (c : Char) : Bool := isBreak c || c = '\r' || c.toNat = 0x85

/-- Whether a key stands on one line with its colon. -/
def isShortKey (key : String) : Bool := !key.toList.any endsLine && key.utf8ByteSize ≤ 128

/-- The blanks in front of a line, which the first line of a collection already has. -/
def lead (first : Bool) (indent : Nat) : List Char :=
  if first then [] else List.replicate indent ' '

mutual

/-- A value after an indicator in a collection at the column `indent`, with the ends of
its lines. -/
def afterIndicator (indent : Nat) : Json → List Char
  | .array (item :: rest) => ' ' :: blockItems (indent + 2) true (item :: rest)
  | .object (entry :: rest) => ' ' :: blockEntries (indent + 2) true (entry :: rest)
  | .array [] => " []\n".toList
  | .object [] => " \x7b\x7d\n".toList
  | .null => " null\n".toList
  | .bool value => ' ' :: scalarLine (indent + 2) (.bool value)
  | .int value => ' ' :: scalarLine (indent + 2) (.int value)
  | .float value => ' ' :: scalarLine (indent + 2) (.float value)
  | .text value => ' ' :: scalarLine (indent + 2) (.text value)

/-- A value after a key in a map at the column `indent`, with the ends of its lines. -/
def afterKey (indent : Nat) : Json → List Char
  | .array (item :: rest) => '\n' :: (lead false indent ++ blockItems indent true (item :: rest))
  | .object (entry :: rest) =>
      '\n' :: (lead false (indent + 2) ++ blockEntries (indent + 2) true (entry :: rest))
  | .array [] => " []\n".toList
  | .object [] => " \x7b\x7d\n".toList
  | .null => " null\n".toList
  | .bool value => ' ' :: scalarLine (indent + 2) (.bool value)
  | .int value => ' ' :: scalarLine (indent + 2) (.int value)
  | .float value => ' ' :: scalarLine (indent + 2) (.float value)
  | .text value => ' ' :: scalarLine (indent + 2) (.text value)

/-- The items of a list at the column `indent`. -/
def blockItems (indent : Nat) (first : Bool) : List Json → List Char
  | [] => []
  | item :: rest =>
      lead first indent ++ '-' :: (afterIndicator indent item ++ blockItems indent false rest)

/-- The entries of a map at the column `indent`. -/
def blockEntries (indent : Nat) (first : Bool) : List (String × Json) → List Char
  | [] => []
  | (key, value) :: rest =>
      let entry :=
        if isShortKey key then textScalar (indent + 2) key ++ ':' :: afterKey indent value
        else
          '?' :: ' ' :: (scalarLine (indent + 2) (.text key)
            ++ lead false indent ++ ':' :: afterIndicator indent value)
      lead first indent ++ entry ++ blockEntries indent false rest

end

/-- The text of a document. -/
def write (value : Json) : String :=
  String.ofList <|
    match value with
    | .array (item :: rest) => blockItems 0 true (item :: rest)
    | .object (entry :: rest) => blockEntries 0 true (entry :: rest)
    | value => scalarLine 2 value

end Workflow.Yaml
