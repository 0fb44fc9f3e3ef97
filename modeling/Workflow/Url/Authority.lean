import Workflow.Url.Host
import Workflow.Url.Path

/-!
# Authorities

Between two slashes and the path stand a host, in front of it a user with an optional password, and
after it a port. The port is left out where it is the usual one of the scheme.
-/

namespace Workflow.Url

/-! ## Schemes -/

/-- The common schemes, with their usual ports. -/
def commonSchemes : List (String × Nat) :=
  [("http", 80), ("https", 443), ("ws", 80), ("wss", 443), ("ftp", 21)]

/-- The kind of addresses with a scheme. -/
def kindOf (scheme : String) : Kind :=
  if scheme = "file" then .file
  else if (commonSchemes.lookup scheme).isSome then .common
  else .other

/-! ## Users -/

/-- Splits the text at a character that is not part of either side. -/
def splitAt? (c : Char) (input : List Char) : List Char × Option (List Char) :=
  match input.dropWhile (· ≠ c) with
  | [] => (input, none)
  | _ :: rest => (input.takeWhile (· ≠ c), some rest)

/-- The text up to the last sign `@`, and what follows it. -/
def splitUser (input : List Char) : Option (List Char × List Char) :=
  match input.reverse.dropWhile (· ≠ '@') with
  | [] => none
  | _ :: before => some (before.reverse, (input.reverse.takeWhile (· ≠ '@')).reverse)

/-- User and password in normal form, with the sign that separates them from the host. -/
def userText (input : List Char) : String :=
  let (user, password) := splitAt? ':' input
  let user := String.ofList (encode isEncodedInUser user)
  let password :=
    match password with
    | some (c :: rest) => ":" ++ String.ofList (encode isEncodedInUser (c :: rest))
    | _ => ""
  if user.isEmpty && password.isEmpty then "" else user ++ password ++ "@"

/-! ## Ports -/

/-- The text up to the colon before the port, and what follows it. A colon between square brackets
is part of the host. -/
def splitPort (bracketed : Bool) : List Char → List Char × Option (List Char)
  | [] => ([], none)
  | c :: rest =>
      if c = ':' && !bracketed then ([], some rest)
      else
        let (host, port) := splitPort (c = '[' || (bracketed && c ≠ ']')) rest
        (c :: host, port)

/-- The port with the colon before it, and what follows it. Only a backslash can, where it does not
separate. The usual port of the scheme is left out. -/
def readPort (scheme : String) (input : List Char) : Except UrlError (String × List Char) :=
  let digits := input.takeWhile Char.isDigit
  let rest := input.drop digits.length
  if rest.head?.any (· ≠ '\\') then .error .invalidPort
  else if digits.isEmpty then .ok ("", rest)
  else
    match (readNat? digits).filter (· < Nat.pow 2 16) with
    | none => .error .invalidPort
    | some port =>
        if commonSchemes.lookup scheme = some port then .ok ("", rest)
        else .ok (":" ++ toString port, rest)

/-! ## User, host and port -/

/-- Reads user, host and port in normal form, and gives them with what follows them; `ends` says
whether the address ends there. A host must follow the user, and the port a host. -/
def readAuthority (scheme : String) (ends : Bool) (input : List Char) :
    Except UrlError (String × List Char) := do
  let kind := kindOf scheme
  let text := input.takeWhile fun c => !isSlash kind c
  let path := input.drop text.length
  if text = ['@'] && !(ends && path.isEmpty) then throw .emptyHost
  let (user, text) := (splitUser text).getD ([], text)
  let user := userText user
  let (host, port) := splitPort false text
  let name ← if kind = .other then readOpaqueHost host else readHost host
  if name.isEmpty && (port.isSome || !user.isEmpty) then throw .emptyHost
  match port with
  | none => return (user ++ name, path)
  | some port =>
      let (port, rest) ← readPort scheme port
      return (user ++ name ++ port, rest ++ path)

/-- The host of a file, which may be missing and is left out if it is this machine. -/
def readFileHost (input : List Char) : Except UrlError String :=
  if input.isEmpty then .ok ""
  else (readHost input).map fun host => if host = "localhost" then "" else host

end Workflow.Url
