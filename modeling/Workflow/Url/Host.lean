import Workflow.Number.Reading
import Workflow.Text.Search
import Workflow.Url.Domain
import Workflow.Url.Percent

/-!
# Hosts

The host of an address is a domain name, a number of four bytes, or a number of eight groups between
square brackets. It is written in one way only: names in small letters and in ASCII, the four bytes
in decimal, and the longest run of zero groups as two colons.
-/

namespace Workflow.Url

/-- Why a text is no address. -/
inductive UrlError where
  | emptyHost
  | invalidDomain
  | invalidPort
  | invalidIpv4
  | invalidIpv6
  | invalidHostCharacter
  /-- The text does not start with a scheme. -/
  | relative
deriving DecidableEq, Repr

/-- The message for a text that is no address. -/
def UrlError.message : UrlError → String
  | emptyHost => "empty host"
  | invalidDomain => "invalid international domain name"
  | invalidPort => "invalid port number"
  | invalidIpv4 => "invalid IPv4 address"
  | invalidIpv6 => "invalid IPv6 address"
  | invalidHostCharacter => "invalid domain character"
  | relative => "relative URL without a base"

/-- The characters that a host cannot have. -/
def isForbiddenInHost (c : Char) : Bool := c.toNat = 0 || c ∈ "\t\n\r #/:<>?@[\\]^|".toList

/-- The characters that a domain name cannot have. -/
def isForbiddenInDomain (c : Char) : Bool :=
  isForbiddenInHost c || c.toNat < 0x20 || c = '%' || c.toNat = 0x7F

/-! ## Four bytes -/

/-- The number that a part of an address of four bytes denotes, in base 16, 8 or 10. -/
def readByteNumber? (part : List Char) : Option Nat :=
  let inBase (base : Nat) (digits : List Char) : Option Nat :=
    (digits.mapM fun c => (Source.JsonText.hexValue? c).filter (· < base)).map fun values =>
      values.foldl (fun n d => base * n + d) 0
  match part with
  | [] => none
  | '0' :: 'x' :: digits => inBase 16 digits
  | '0' :: 'X' :: digits => inBase 16 digits
  | '0' :: digit :: digits => inBase 8 (digit :: digits)
  | digits => inBase 10 digits

/-- The parts of a name between its points, a last empty one left out. -/
def nameParts (name : List Char) : List (List Char) :=
  let parts := name.splitOn '.'
  if 1 < parts.length && parts.getLast? = some [] then parts.dropLast else parts

/-- Whether a name ends in a number, so that it has to be an address of four bytes. -/
def endsInNumber (name : List Char) : Bool :=
  match (nameParts name).getLast? with
  | some [] | none => false
  | some part => part.all Char.isDigit || (readByteNumber? part).isSome

/-- The value of the parts of an address: one byte each, and the last one fills what remains. -/
def joinByteNumbers (width : Nat) : List Nat → Option Nat
  | [] => none
  | [last] => if last < Nat.pow 256 width then some last else none
  | byte :: rest =>
      if byte < 256 then
        (joinByteNumbers (width - 1) rest).map fun n => byte * Nat.pow 256 (width - 1) + n
      else none

/-- The four bytes that a name denotes, as one number. -/
def readIpv4? (name : List Char) : Option Nat :=
  let parts := nameParts name
  if 4 < parts.length then none else (parts.mapM readByteNumber?).bind (joinByteNumbers 4)

/-- Four bytes in decimal. -/
def ipv4Text (address : Nat) : String :=
  ".".intercalate
    ([Nat.pow 256 3, Nat.pow 256 2, 256, 1].map fun unit => toString (address / unit % 256))

/-! ## Eight groups -/

/-- The groups that four bytes at the end of an address stand for. They are in decimal, without
leading zeros. -/
def readByteGroups? (text : List Char) : Option (List Nat) :=
  let readByte (part : List Char) : Option Nat :=
    if 1 < part.length && part.head? = some '0' then none else (readNat? part).filter (· < 256)
  match (text.splitOn '.').mapM readByte with
  | some [a, b, c, d] => some [256 * a + b, 256 * c + d]
  | _ => none

/-- A group of one to four hexadecimal digits. -/
def readGroup? (text : List Char) : Option Nat :=
  if text.isEmpty || 4 < text.length then none
  else (text.mapM Source.JsonText.hexValue?).map fun values =>
      values.foldl (fun n d => 16 * n + d) 0

/-- The groups between colons; the last two may be written as four bytes. -/
def readGroups? : List (List Char) → Option (List Nat)
  | [] => some []
  | [last] => if '.' ∈ last then readByteGroups? last else (readGroup? last).map ([·])
  | part :: rest => do
      let group ← readGroup? part
      let groups ← readGroups? rest
      return group :: groups

/-- The groups on one side of two colons, none if nothing is there. -/
def readSideGroups? (text : List Char) : Option (List Nat) :=
  if text.isEmpty then some [] else readGroups? (text.splitOn ':')

/-- What stands before and after the first two colons that touch. -/
def splitAtGap : List Char → Option (List Char × List Char)
  | ':' :: ':' :: rest => some ([], rest)
  | c :: rest => (splitAtGap rest).map fun (before, after) => (c :: before, after)
  | [] => none

/-- The eight groups that a text denotes. Two colons that touch stand for one zero group or more. -/
def readIpv6? (text : List Char) : Option (List Nat) :=
  match splitAtGap text with
  | none => (readGroups? (text.splitOn ':')).filter (·.length = 8)
  | some (before, after) => do
      let left ← if '.' ∈ before then none else readSideGroups? before
      let right ← readSideGroups? after
      if left.length + right.length < 8 then
        return left ++ List.replicate (8 - left.length - right.length) 0 ++ right
      else none

/-- The length of the run of zeros at the start of the groups. -/
def zeroRun (groups : List Nat) : Nat := (groups.takeWhile (· = 0)).length

/-- The length of the longest run of zeros in the groups. -/
def longestZeroRun : List Nat → Nat
  | [] => 0
  | group :: rest => max (zeroRun (group :: rest)) (longestZeroRun rest)

/-- The groups with colons between them; the first run of zeros with the length `run` is left out
between two colons. -/
def groupTexts (run : Nat) (start : Bool) : List Nat → String
  | [] => ""
  | group :: rest =>
      let colon := if start then "" else ":"
      let hex (n : Nat) := String.ofList (Nat.toDigits 16 n)
      if zeroRun (group :: rest) = run then
        "::" ++ ":".intercalate (((group :: rest).drop run).map hex)
      else colon ++ hex group ++ groupTexts run false rest

/-- Eight groups in hexadecimal. A single zero group is written out. -/
def ipv6Text (groups : List Nat) : String :=
  let run := longestZeroRun groups
  "[" ++ groupTexts (if run < 2 then groups.length + 1 else run) true groups ++ "]"

example : ipv6Text [0, 0, 0, 0, 0, 0, 0, 1] = "[::1]" := by decide +kernel
example : ipv6Text [0x2001, 0xDB8, 0, 1, 0, 0, 0, 5] = "[2001:db8:0:1::5]" := by decide +kernel

/-! ## Hosts -/

/-- An address of eight groups between square brackets. -/
def readBracketed (text : List Char) : Except UrlError String :=
  match Text.beforeEnd? ']' text with
  | none => .error .invalidIpv6
  | some inner =>
      match readIpv6? inner with
      | some groups => .ok (ipv6Text groups)
      | none => .error .invalidIpv6

/-- The host of an address with a common scheme. -/
def readHost (text : List Char) : Except UrlError String :=
  match text with
  | [] => .error .emptyHost
  | '[' :: rest => readBracketed rest
  | _ =>
      match (decode? text).bind asciiDomain? with
      | none => .error .invalidDomain
      | some [] => .error .emptyHost
      | some domain =>
          if domain.any isForbiddenInDomain then .error .invalidDomain
          else if endsInNumber domain then
            match readIpv4? domain with
            | some address => .ok (ipv4Text address)
            | none => .error .invalidIpv4
          else .ok (String.ofList domain)

/-- The host of an address with another scheme, which is not interpreted. -/
def readOpaqueHost (text : List Char) : Except UrlError String :=
  match text with
  | '[' :: rest => readBracketed rest
  | _ =>
      if text.any isForbiddenInHost then .error .invalidHostCharacter
      else .ok (String.ofList (encode isControl text))

end Workflow.Url
