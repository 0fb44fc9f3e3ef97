import Workflow.Document.Catalog
import Workflow.Document.Plan
import Workflow.Source.JsonText
import Workflow.Text.Search
import Workflow.Yaml.Tree

/-!
# Documents from texts

A document is written in JSON or in YAML. A text that begins with a brace is JSON; where a document
comes from a file, the extension of its name decides, if it has one.
-/

namespace Workflow

/-- The formats of documents. -/
inductive Format where
  | json
  | yaml
deriving DecidableEq, Repr

/-- Why a document was not loaded. -/
inductive LoadError where
  /-- The text is not such a document in this format. -/
  | malformed (format : Format)
  /-- The document describes something that is not sound in itself. -/
  | rejected (report : Report)
  /-- The file cannot be read. -/
  | unreadable
deriving DecidableEq, Repr

namespace Format

/-- The format that a text appears to be in. -/
def ofText (text : String) : Format :=
  if (Text.trimStart text.toList).head? = some '{' then .json else .yaml

/-- The extension of a file name: what follows its last point, unless that is its
first character. -/
def extension? (name : String) : Option String :=
  let tail := (name.toList.reverse.takeWhile (· ≠ '.')).reverse
  let stem := name.toList.length - tail.length
  if stem ≤ 1 then none else some (String.ofList tail)

/-- The format of a file with this name and text. -/
def ofFile (name text : String) : Format :=
  match extension? name with
  | some extension =>
      if Text.eqIgnoringAsciiCase extension.toList "json".toList then .json else .yaml
  | none => ofText text

/-- The last part of a path. -/
def lastPart (path : String) : String :=
  let reversed := path.toList.reverse.dropWhile (· = '/')
  String.ofList (reversed.takeWhile (· ≠ '/')).reverse

/-- The format of the file at a path, with this text. -/
def ofPath (path text : String) : Format := ofFile (lastPart path) text

/-- The tree of a text in a format, and how many aliases may be followed in it. -/
def read? (format : Format) (text : String) : Option (Source × Nat) :=
  match format with
  | .json => (Source.JsonText.read? text).map fun source => (source, 0)
  | .yaml => Yaml.read? text

/-- What a text in a format says, read from its tree. -/
def load {α : Type} (format : Format) (read : Source → Reading α) (text : String) :
    Except LoadError α :=
  match (format.read? text).bind fun (source, allowed) => (read source).run allowed with
  | some (value, _) => .ok value
  | none => .error (.malformed format)

end Format

/-- A document that was read, turned into what it describes. -/
def LoadError.check {α β : Type} (make : α → Except Report β) (doc : Except LoadError α) :
    Except LoadError β :=
  doc.bind fun doc => (make doc).mapError .rejected

/-- The graph that a text in a format describes. -/
def loadGraph (format : Format) (text : String) : Except LoadError Graph :=
  LoadError.check GraphDocument.toGraph (format.load readGraph text)

/-- The fragment that a text in a format describes. -/
def loadFragment (format : Format) (text : String) : Except LoadError Fragment :=
  LoadError.check FragmentDocument.toFragment (format.load readFragment text)

/-- The plan that a text in a format describes. -/
def loadPlan (format : Format) (text : String) : Except LoadError Plan :=
  LoadError.check PlanDocument.toPlan (format.load readPlan text)

/-- The catalog that a YAML text describes. -/
def loadCatalog (text : String) : Except LoadError Catalog := Format.yaml.load readCatalog text

end Workflow
