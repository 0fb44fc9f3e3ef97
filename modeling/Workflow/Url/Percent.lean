import Workflow.Source.JsonText

/-!
# Percent encoding

In an address a byte is written as a percent sign and two hexadecimal digits wherever its character
could be taken for something else. Which characters that are depends on the part of the address.
-/

namespace Workflow.Url

/-- Whether a character is encoded in every part: controls and all that is not ASCII. -/
def isControl (c : Char) : Bool := c.toNat < 0x20 || 0x7F ≤ c.toNat

/-- Whether a character is encoded in a fragment. -/
def isEncodedInFragment (c : Char) : Bool := isControl c || c ∈ " \"<>\x60".toList

/-- Whether a character is encoded in a query; where the scheme is a common one, so is a quote. -/
def isEncodedInQuery (common : Bool) (c : Char) : Bool :=
  isControl c || c ∈ " \"#<>".toList || (common && c = '\'')

/-- Whether a character is encoded in a path. -/
def isEncodedInPath (c : Char) : Bool := isEncodedInFragment c || c ∈ "#?\x7b\x7d".toList

/-- Whether a character is encoded in a user name or a password. -/
def isEncodedInUser (c : Char) : Bool := isEncodedInPath c || c ∈ "/:;=@[\\]^|".toList

/-- A byte in percent encoding. -/
def encodedByte (byte : UInt8) : List Char :=
  let digits := (Nat.toDigits 16 byte.toNat).map Char.toUpper
  '%' :: (List.replicate (2 - digits.length) '0' ++ digits)

/-- The text with the characters encoded that `isEncoded` is true of. -/
def encode (isEncoded : Char → Bool) (text : List Char) : List Char :=
  text.flatMap fun c =>
    if isEncoded c then (String.utf8EncodeChar c).flatMap encodedByte else [c]

/-- The bytes of a text, encoded ones decoded. -/
def decodedBytes : List Char → List UInt8
  | [] => []
  | '%' :: a :: b :: rest =>
      match Source.JsonText.hexValue? a, Source.JsonText.hexValue? b with
      | some a, some b => UInt8.ofNat (16 * a + b) :: decodedBytes rest
      | _, _ => String.utf8EncodeChar '%' ++ decodedBytes (a :: b :: rest)
  | c :: rest => String.utf8EncodeChar c ++ decodedBytes rest

/-- The text that a text with encoded bytes stands for, if these are well-formed UTF-8. -/
def decode? (text : List Char) : Option (List Char) :=
  (String.fromUTF8? ⟨(decodedBytes text).toArray⟩).map String.toList

end Workflow.Url
