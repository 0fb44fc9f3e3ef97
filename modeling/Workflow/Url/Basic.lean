import Workflow.Text.Blank
import Workflow.Url.Authority

/-!
# Addresses

An address names a resource by a scheme, a host with an optional port, a path, a query and a
fragment. Reading it brings it into a normal form: scheme and host in small letters, the port left
out where it is the usual one, `.` and `..` taken out of the path, and the characters encoded that
do not belong.
-/

namespace Workflow

/-- An address in normal form. -/
structure Url where
  scheme : String
  /-- User, host and port. -/
  authority : Option String
  path : String
  query : Option String
  fragment : Option String
deriving DecidableEq, Repr

namespace Url

/-- The address in writing. -/
def text (url : Url) : String :=
  url.scheme ++ ":" ++ (url.authority.map ("//" ++ ·)).getD "" ++ url.path
    ++ (url.query.map ("?" ++ ·)).getD "" ++ (url.fragment.map ("#" ++ ·)).getD ""

/-! ## Schemes -/

/-- Whether a character may stand in a scheme after its first letter. -/
def isSchemeChar (c : Char) : Bool := c.isAlphanum || c = '+' || c = '-' || c = '.'

/-- The scheme in small letters, and what follows its colon. -/
def splitScheme (input : List Char) : Option (String × List Char) :=
  let name := input.takeWhile isSchemeChar
  match input.dropWhile isSchemeChar with
  | ':' :: rest =>
      if name.head?.any Char.isAlpha then
        some (String.ofList (name.map Char.toLower), rest)
      else none
  | _ => none

/-! ## Query and fragment -/

/-- What is left of the query and the fragment, and these two. -/
def splitTail (kind : Kind) (input : List Char) : List Char × Option String × Option String :=
  let (input, fragment) := splitAt? '#' input
  let (input, query) := splitAt? '?' input
  (input, query.map fun q => String.ofList (encode (isEncodedInQuery (kind ≠ .other)) q),
    fragment.map fun f => String.ofList (encode isEncodedInFragment f))

/-! ## Addresses -/

/-- The text without what is ignored: blanks and controls around it, tabs and line breaks inside. -/
def relevant (text : String) : List Char :=
  (Text.trimWhile (·.toNat ≤ 0x20) text.toList).filter fun c => !(c = '\t' || c = '\n' || c = '\r')

/-- The parts of an address after its scheme. -/
structure Location where
  authority : Option String
  path : String

/-- Reads what follows the scheme of a file. A drive letter at the start of the path takes the place
of a host. -/
def readFile (input : List Char) : Except UrlError Location :=
  match input.takeWhile (isSlash .file) with
  | [] => .ok ⟨some "", normalPath .file ((afterDriveLetter? input).getD input)⟩
  | [_] => .ok ⟨some "", readPath .file input⟩
  | _ =>
      let input := input.drop 2
      let host := input.takeWhile fun c => !isSlash .file c
      let rest := input.drop host.length
      if let some input := afterDriveLetter? input then .ok ⟨some "", normalPath .file input⟩
      else do
        let host ← readFileHost host
        match afterDriveLetter? rest.tail with
        | some path =>
            if host.isEmpty then return ⟨some "", readPath .file rest⟩
            else return ⟨some "", normalPath .file path⟩
        | none => return ⟨some host, readPath .file rest⟩

/-- Reads what follows the slashes after a scheme other than that of files; `ends` says whether the
address has neither query nor fragment. -/
def readRemote (scheme : String) (ends : Bool) (input : List Char) : Except UrlError Location := do
  let (authority, rest) ← readAuthority scheme ends input
  return ⟨some authority, readPath (kindOf scheme) rest⟩

/-- Reads what follows an uncommon scheme where there is no authority. Two slashes at the start of a
path would look like one, so a single dot is put in front of them. -/
def readLocal (input : List Char) : Location :=
  match input with
  | '/' :: rest =>
      let path := normalPath .other rest
      ⟨none, if path.toList.take 2 = ['/', '/'] then "/." ++ path else path⟩
  | _ => ⟨none, String.ofList (encode isControl input)⟩

/-- Reads an address. -/
def read (text : String) : Except UrlError Url :=
  match splitScheme (relevant text) with
  | none => .error .relative
  | some (scheme, input) => do
      let kind := kindOf scheme
      let (input, query, fragment) := splitTail kind input
      let ends := query.isNone && fragment.isNone
      let location ←
        match kind, input with
        | .file, _ => readFile input
        | .common, _ => readRemote scheme ends (input.dropWhile (isSlash .common))
        | .other, '/' :: '/' :: rest => readRemote scheme ends rest
        | .other, _ => pure (readLocal input)
      return { scheme, authority := location.authority, path := location.path, query, fragment }

end Url

end Workflow
