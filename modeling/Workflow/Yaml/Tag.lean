import Workflow.Source.JsonText
import Workflow.Yaml.Glyph

/-!
# The text of tags

In a tag a character may be written as the bytes of its UTF-8 form, each as a percent sign and two
hexadecimal digits. The first byte says how many there are. A tag ends at the first NUL in it, and
NUL stands in it for bytes that look like a character but are none.
-/

namespace Workflow.Yaml

/-- The characters of tags. Some indicators are allowed only where the tag stands between
brackets. -/
def isTagChar (bracketed : Bool) (c : Char) : Bool :=
  isWord c || c ∈ ";/?:@&=+$.%!~*'()".toList || (bracketed && c ∈ ",[]".toList)

/-- The byte that is written at the start of the text, and what follows it. -/
def readByte? : List Char → Option (Nat × List Char)
  | '%' :: a :: b :: rest => do
      let a ← Source.JsonText.hexValue? a
      let b ← Source.JsonText.hexValue? b
      return (16 * a + b, rest)
  | _ => none

/-- How many bytes follow the first byte of a character, and its share of the character. -/
def leadingByte? (byte : Nat) : Option (Nat × Nat) :=
  if byte < 0x80 then some (0, byte)
  else if byte < 0xC0 then none
  else if byte < 0xE0 then some (1, byte - 0xC0)
  else if byte < 0xF0 then some (2, byte - 0xE0)
  else if byte < 0xF8 then some (3, byte - 0xF0)
  else none

/-- Reads the further bytes of a character, of which `value` is known. -/
def readFurther? (value : Nat) (text : List Char) : Nat → Option (Nat × List Char)
  | 0 => some (value, text)
  | count + 1 => do
      let (byte, rest) ← readByte? text
      if byte / 0x40 = 2 then readFurther? (0x40 * value + byte % 0x40) rest count else none

/-- The character with a number, if there is one and it takes as many as `count` bytes after the
first. -/
def charOfBytes? (count value : Nat) : Option Char :=
  let least := [0, 0x80, 0x800, 0x10000].getD count 0
  if least ≤ value ∧ value.isValidChar then some (Char.ofNat value) else none

/-- Reads a character that is written as bytes, which may be none. -/
def readBytes? (text : List Char) : Option (Option Char × List Char) := do
  let (byte, rest) ← readByte? text
  let (count, share) ← leadingByte? byte
  let (value, rest) ← readFurther? share rest count
  return (charOfBytes? count value, rest)

/-- The text with the characters for what is written as bytes. -/
def unescape? (text : List Char) : Option (List (Option Char)) :=
  match text with
  | [] => some []
  | c :: rest =>
      if c = '%' then
        match readBytes? (c :: rest) with
        | some (c, after) =>
            if _h : after.length < rest.length + 1 then (unescape? after).map (c :: ·) else none
        | none => none
      else (unescape? rest).map (some c :: ·)
termination_by text.length

/-- Stands in a tag for what is no character. -/
def noCharacter : Char := Char.ofNat 0

/-- The text of a tag, or of a part of one. -/
def tagText? (written : List Char) : Option String :=
  (unescape? written).map fun text =>
    String.ofList ((text.takeWhile (· ≠ some (Char.ofNat 0))).map (·.getD noCharacter))

example : tagText? "%C3%A9t%41".toList = some "étA" := by cbv
example : tagText? "%C3%41".toList = none := by cbv

end Workflow.Yaml
