import Workflow.Source.Basic

/-!
# Reading the parts of a document

A document is read field by field. A record is a map from field names, where unknown names are
passed over and a known one may occur once. In JSON, and in what is set aside, it may also be a list
of its fields in their order. In a YAML document an empty scalar stands for a record, list or map
without contents.

A reader gives nothing if the document does not have the expected shape.
-/

namespace Workflow.Source

/-! ## Scalars, lists and maps -/

/-- Reads a truth value. -/
def bool? : Source → Reading Bool := scalar? Scalar.truth

/-- Whether a part stands for the absence of something, where that is clear. Only scalars can. -/
def absent? : Source → Option Bool
  | .scalar readings => readings.absent
  | _ => some false

/-- Reads something that may be absent. -/
def option? {α : Type} (read : Source → Reading α) (source : Source) : Reading (Option α) := do
  let source ← source.follow
  if ← source.absent? then return none
  else
    let value ← read source
    return some value

/-- Whether a part stands for a collection without contents. -/
def isEmptyScalar : Source → Bool
  | .scalar readings => readings.isEmpty
  | _ => false

/-- Reads a list. -/
def list? {α : Type} (read : Source → Reading α) (source : Source) : Reading (List α) := do
  match ← source.follow with
  | .list _ items => items.mapM read
  | source => if source.isEmptyScalar then return [] else failure

/-- Reads the entries of a map with text keys. -/
def entries? {α : Type} (read : Source → Reading α) (entries : List (Source × Source)) :
    Reading (List (String × α)) :=
  entries.mapM fun (key, item) => do
    let key ← key.text?
    let value ← read item
    return (key, value)

/-- Reads a map with text keys; of entries with one key the last one counts. -/
def dict? {α : Type} (read : Source → Reading α) (source : Source) : Reading (Dict α) := do
  match ← source.follow with
  | .map _ entries =>
      let entries ← entries? read entries
      return Dict.ofList entries
  | source => if source.isEmptyScalar then return .empty else failure

/-- Reads a word, or the place of one in the order of the words. -/
def wordOrPlace? (words : List String) : Source → Reading String :=
  scalar? fun readings =>
    match readings.text, readings.place with
    | some word, _ => some word
    | none, some place => words[place]?
    | none, none => none

/-- Whether a part that was set aside holds nothing: null, or a map without entries. -/
def holdsNothing : Source → Bool
  | .map _ entries => entries.isEmpty
  | source => source.absent? = some true

/-- Reads one of several words. In JSON, and in what is set aside, it may also be written as a map
from the word to null. What is set aside may have the place of the word instead, and an empty map
instead of null. -/
def knownWord? (words : List String) (source : Source) : Reading String := do
  match ← source.follow with
  | .scalar readings => readings.word
  | .map .loose [(key, value)] => if value.absent? = some true then key.text? else failure
  | .map .aside [(key, value)] => if value.holdsNothing then wordOrPlace? words key else failure
  | _ => failure

/-- Reads what one of several words stands for. -/
def word? {α : Type} (words : List (String × α)) (source : Source) : Reading α := do
  let word ← knownWord? (words.map (·.1)) source
  words.lookup word

/-! ## Records -/

/-- The fields of a record that are present, by name. -/
abbrev FieldValues := List (String × Source)

/-- Which field a key names, by its name or by its place in the order of the fields: `none` for no
known one. A key is refused that is neither a text nor a place. -/
def fieldName? (names : List String) : Source → Reading (Option String) :=
  scalar? fun readings =>
    match readings.text, readings.place with
    | some key, _ => some (if key ∈ names then some key else none)
    | none, some place => some names[place]?
    | none, none => none

/-- The known fields among the entries of a map, none of them twice. -/
def collectFields (names : List String) (found : FieldValues) :
    List (Source × Source) → Reading FieldValues
  | [] => return found
  | (key, value) :: rest => do
      match ← fieldName? names key with
      | none => collectFields names found rest
      | some name =>
          if (found.lookup name).isSome then failure
          else collectFields names ((name, value) :: found) rest

/-- Reads the fields of a record. -/
def record? (names : List String) (source : Source) : Reading FieldValues := do
  match ← source.follow with
  | .map _ entries => collectFields names [] entries
  | .list standing items =>
      if (standing = .loose || standing = .aside) && items.length ≤ names.length then
        return names.zip items
      else failure
  | source => if source.isEmptyScalar then return [] else failure

namespace FieldValues

/-- Reads a field that has to be present. -/
def required {α : Type} (fields : FieldValues) (name : String) (read : Source → Reading α) :
    Reading α :=
  match fields.lookup name with
  | some source => read source
  | none => failure

/-- Reads a field that may be missing or null. -/
def optional {α : Type} (fields : FieldValues) (name : String) (read : Source → Reading α) :
    Reading (Option α) :=
  match fields.lookup name with
  | some source => option? read source
  | none => return none

/-- Reads a field that may be missing, but not null. -/
def default {α : Type} (fields : FieldValues) (name : String) (value : α)
    (read : Source → Reading α) : Reading α :=
  match fields.lookup name with
  | some source => read source
  | none => return value

end FieldValues

/-! ## Records inside records -/

/-- The entries of a map under the names of the outer record, none of them twice, and all other
entries set aside for the inner record. -/
def splitEntries (names : List String) (outer : FieldValues) (inner : List (Source × Source)) :
    List (Source × Source) → Reading (FieldValues × List (Source × Source))
  | [] => return (outer, inner.reverse)
  | (key, value) :: rest => do
      let name ← key.text?
      if name ∈ names then
        if (outer.lookup name).isSome then failure
        else splitEntries names ((name, value) :: outer) inner rest
      else
        let value ← value.setAside?
        splitEntries names outer ((.scalar (.ofValue (.text name)), value) :: inner) rest

/-- Reads a record whose fields stand among those of another one that is set aside. -/
def splitRecord? (names : List String) (source : Source) :
    Reading (FieldValues × List (Source × Source)) := do
  match ← source.follow with
  | .map _ entries => splitEntries names [] [] entries
  | source => if source.isEmptyScalar then return ([], []) else failure

end Workflow.Source
