import Workflow.Url.Percent

/-!
# Paths

A path is a sequence of segments, each with a slash in front of it. The segment `.` stands for the
place where it is and `..` for the place above, and both are resolved when a path is read. A segment
that starts with a drive letter cannot be left upwards.

The path of a file is never empty at its start: slashes there count as one. If it starts with a
drive letter, the colon after the letter may be written as a vertical bar.
-/

namespace Workflow.Url

/-- What kind of address a path belongs to. -/
inductive Kind where
  /-- The common schemes except that for files. -/
  | common
  | file
  | other
deriving DecidableEq, Repr

/-- Whether a character separates the segments of a path. -/
def isSlash (kind : Kind) (c : Char) : Bool := c = '/' || (kind ≠ .other && c = '\\')

/-- The segments of a path. -/
def segments (kind : Kind) : List Char → List (List Char)
  | [] => [[]]
  | c :: rest =>
      if isSlash kind c then [] :: segments kind rest
      else
        match segments kind rest with
        | segment :: more => (c :: segment) :: more
        | [] => [[c]]

/-! ## Segments with a meaning -/

/-- Segments that stand for the place where they are. -/
def isSingleDot (segment : String) : Bool := segment ∈ [".", "%2e", "%2E"]

/-- Segments that stand for the place above. -/
def isDoubleDot (segment : String) : Bool :=
  segment ∈ ["..", "%2e%2e", "%2e%2E", "%2E%2e", "%2E%2E", "%2e.", "%2E.", ".%2e", ".%2E"]

/-- The letter of a drive: a letter followed by a colon or a vertical bar. -/
def driveLetter? : List Char → Option Char
  | [letter, mark] => if letter.isAlpha && (mark = ':' || mark = '|') then some letter else none
  | _ => none

/-- Whether a segment is a drive letter, or starts with one and a backslash. -/
def startsWithDrive (segment : List Char) : Bool :=
  (driveLetter? (segment.take 2)).isSome && (segment.drop 2).head?.all (· = '\\')

/-- The place above the segments so far, the last of which comes first. -/
def placeAbove : List String → List String
  | [] => []
  | last :: above => if startsWithDrive last.toList then last :: above else above

/-- The segments with the dots resolved; `above` are the segments so far, the last one first. -/
def resolveDots (above : List String) : List String → List String
  | [] => above.reverse
  | [last] =>
      if isDoubleDot last then ("" :: placeAbove above).reverse
      else if isSingleDot last then ("" :: above).reverse
      else (last :: above).reverse
  | segment :: rest =>
      if isDoubleDot segment then resolveDots (placeAbove above) rest
      else if isSingleDot segment then resolveDots above rest
      else resolveDots (segment :: above) rest

/-- The segments without empty ones at the start, except that the last one is kept. -/
def dropEmpty : List String → List String
  | [] => []
  | [last] => [last]
  | segment :: next :: rest =>
      if segment.isEmpty then dropEmpty (next :: rest) else segment :: next :: rest

/-! ## Normal form -/

/-- Segments in writing, each with a slash in front of it. -/
def pathText (segments : List String) : String := "/" ++ "/".intercalate segments

/-- A path in normal form, from the text after its first slash. -/
def normalPath (kind : Kind) (input : List Char) : String :=
  let parts := (segments kind input).map fun s => String.ofList (encode isEncodedInPath s)
  let resolved := resolveDots [] parts
  pathText (if kind = .file then dropEmpty resolved else resolved)

/-- The text of a path after its first slash, with a colon after the drive letter at its start.
There is none if it does not start with a drive letter. -/
def afterDriveLetter? (input : List Char) : Option (List Char) :=
  (driveLetter? (input.takeWhile fun c => !isSlash .file c)).map fun letter =>
    letter :: ':' :: input.drop 2

/-- The path after a host. Except in an uncommon scheme there always is one. -/
def readPath (kind : Kind) (input : List Char) : String :=
  match input with
  | [] => if kind = .other then "" else "/"
  | c :: rest => if isSlash kind c then normalPath kind rest else normalPath kind input

example : normalPath .common "a/./b/../c".toList = "/a/c" := by decide +kernel
example : normalPath .file "C:/../..".toList = "/C:/" := by decide +kernel
example : normalPath .other "a/..//p".toList = "//p" := by decide +kernel

end Workflow.Url
