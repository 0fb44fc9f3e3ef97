import Workflow.Dict
import Workflow.Text.Alphanumeric
import Workflow.Text.Blank

/-!
# Files of variables

Variables of the environment may be kept in a file with one assignment on a line. A value may stand
in quotes, may use other variables and ends before a comment. The environment wins over the file,
and an earlier line over a later one; nothing is read after the first line that is not understood.
-/

namespace Workflow.Command

/-! ## Values -/

/-- What the next character of a value belongs to. -/
inductive ValueMode where
  | text
  /-- The character after a backslash. -/
  | escape
  /-- A part in single quotes. -/
  | literal
  /-- The name of a variable, as far as it has been read. -/
  | name (sofar : List Char)
  /-- The name of a variable in braces, as far as it has been read. -/
  | braced (sofar : List Char)
  /-- What follows the value. -/
  | ended
deriving DecidableEq, Repr

/-- A value that is being read. -/
structure ValueReading where
  /-- What the value begins with. -/
  output : List Char
  mode : ValueMode
  /-- Whether the next character is in double quotes. -/
  quoted : Bool
deriving DecidableEq, Repr

namespace ValueReading

/-- The reading with more text in the value. -/
def push (r : ValueReading) (text : List Char) : ValueReading :=
  { r with output := r.output ++ text }

/-- The reading in another mode. -/
def enter (r : ValueReading) (mode : ValueMode) : ValueReading := { r with mode }

/-- A character that stands for itself or begins something. -/
def readText (r : ValueReading) (c : Char) : ValueReading :=
  if c = '$' then r.enter (.name [])
  else if c = '\\' then r.enter .escape
  else if c = '"' then { r with quoted := !r.quoted }
  else if r.quoted then r.push [c]
  else if c = '\'' then r.enter .literal
  else if c = ' ' || c = '\t' then r.enter .ended
  else r.push [c]

/-- The character that a backslash with this one after it stands for. -/
def escaped? (c : Char) : Option Char :=
  if c ∈ ['\\', '\'', '"', '$', ' '] then some c else if c = 'n' then some '\n' else none

/-- The character after a variable's name, which ends it. -/
def endName (lookup : String → List Char) (r : ValueReading) (sofar : List Char) (c : Char) :
    ValueReading :=
  let r := (r.push (lookup (String.ofList sofar))).enter .text
  if c = '$' then r.enter (.name []) else r.push [c]

/-- The value that the characters lead to, if they are understood. -/
def run (lookup : String → List Char) (r : ValueReading) : List Char → Option String
  | [] =>
      match r.mode with
      | .braced _ | .literal => none
      | .name sofar =>
          if r.quoted then none
          else some (String.ofList (r.output ++ lookup (String.ofList sofar)))
      | .text | .escape | .ended => if r.quoted then none else some (String.ofList r.output)
  | c :: rest =>
      match r.mode with
      | .ended =>
          if c = ' ' || c = '\t' then r.run lookup rest
          else if c = '#' then some (String.ofList r.output)
          else none
      | .escape =>
          match escaped? c with
          | some c => ((r.push [c]).enter .text).run lookup rest
          | none => none
      | .literal => (if c = '\'' then r.enter .text else r.push [c]).run lookup rest
      | .name sofar =>
          (if Text.isAlphanumeric c then r.enter (.name (sofar ++ [c]))
            else if c = '\x7b' && sofar.isEmpty then r.enter (.braced [])
            else r.endName lookup sofar c).run lookup rest
      | .braced sofar =>
          (if c = '\x7d' then (r.push (lookup (String.ofList sofar))).enter .text
            else r.enter (.braced (sofar ++ [c]))).run lookup rest
      | .text => (r.readText c).run lookup rest

end ValueReading

/-! ## Lines -/

/-- What a line says. -/
inductive Line where
  | nothing
  | assignment (name value : String)
deriving DecidableEq, Repr

/-- A name, and what follows it and the white space after it. -/
def readName? (text : List Char) : Option (String × List Char) :=
  if text.head?.any fun c => c.isAlpha || c = '_' then
    let isNameChar (c : Char) := c.isAlphanum || c = '_' || c = '.'
    some (String.ofList (text.takeWhile isNameChar), Text.trimStart (text.dropWhile isNameChar))
  else none

/-- What follows the sign `=`. -/
def afterEquals? : List Char → Option (List Char)
  | '=' :: rest => some (Text.trimStart rest)
  | _ => none

/-- The name that is assigned to, and the text of the value. The word `export` may stand before the
name. -/
def readAssignment? (text : List Char) : Option (String × List Char) := do
  let (name, rest) ← readName? text
  match afterEquals? rest with
  | some value => return (name, value)
  | none =>
      if name = "export" then
        let (name, rest) ← readName? rest
        return (name, ← afterEquals? rest)
      else none

/-- Whether there is nothing or a comment. -/
def isComment (text : List Char) : Bool := text.isEmpty || text.head? = some '#'

/-- Reads a line; variables that it uses are looked up. -/
def Line.read? (lookup : String → List Char) (line : List Char) : Option Line :=
  let text := Text.trim line
  if isComment text then some .nothing
  else
    match readAssignment? text with
    | none => none
    | some (name, value) =>
        if isComment value then some (.assignment name "")
        else
          (ValueReading.run lookup ⟨[], .text, false⟩ value).map fun value => .assignment name value

/-- The variables after the lines of a file. -/
def loadLines (known : Dict String) : List (List Char) → Dict String
  | [] => known
  | line :: rest =>
      match Line.read? (fun name => ((known.get? name).getD "").toList) line with
      | none => known
      | some .nothing => loadLines known rest
      | some (.assignment name value) =>
          loadLines (if known.contains name then known else known.insert name value) rest

/-- The variables of an environment and those that a file adds to them. -/
def loadVariables (environment : Dict String) (file : String) : Dict String :=
  loadLines environment (file.toList.splitOn '\n')

/-! ## Names -/

/-- The runs of characters that belong together. -/
def runsOf (belongs : Char → Bool) (text : List Char) : List String :=
  ((text.splitBy fun a b => belongs a == belongs b).filter (·.any belongs)).map String.ofList

/-- The names that a file of variables may mention. A name that is assigned to may have signs that
end a name that is used. -/
def mentionedNames (file : String) : List String :=
  runsOf (fun c => c.isAlphanum || c = '_' || c = '.') file.toList
    ++ runsOf Text.isAlphanumeric file.toList

end Workflow.Command
