import Workflow.Json.Basic

/-!
# What a document says

A document is read in two steps. First its text, JSON or YAML, becomes a tree of lists, maps and
scalars, in which nothing is decided yet: the entries of a map keep their order and their
repetitions. Then the parts of the tree are read as what the document is meant to hold.

A scalar can be read in several ways. As text it is what was written: the YAML scalar `5` is the
text `5` where a text is expected. As a value it is what the scalar denotes: the number five. A
scalar that lacks a reading is refused where that reading is needed, and only there.

Some parts of a document are set aside before it is known what they are. Such a part is read as a
value first, and what its scalars can be read as after that follows from their values.

A part of a document may stand for one that is written elsewhere. Such aliases of aliases make a
small document a large one, so only a limited number of them is followed.
-/

namespace Workflow

/-- A scalar in all the ways in which it can be read. -/
structure Scalar where
  text : Option String
  value : Option Json
  /-- Its reading as a truth value. -/
  truth : Option Bool
  /-- Its reading as one of several words. -/
  word : Option String
  /-- Its reading as a place in an order. -/
  place : Option Nat
  /-- Where something may be absent: whether it is. -/
  absent : Option Bool
  /-- Whether it stands for a collection without contents. -/
  isEmpty : Bool
deriving DecidableEq

namespace Scalar

/-- The scalar that can be read in no way. -/
def unreadable : Scalar where
  text := none
  value := none
  truth := none
  word := none
  place := none
  absent := none
  isEmpty := false

/-- The scalar that is nothing but a value. -/
def ofValue (value : Json) : Scalar where
  text := value.text?
  value := some value
  truth := value.bool?
  word := value.text?
  place := value.nat?
  absent := some (value = .null)
  isEmpty := false

end Scalar

/-- What a collection can be read as, besides the list or the map that it is. -/
inductive Standing where
  /-- A value; a list also as a record, and a map of one entry as a word. -/
  | loose
  /-- The same, in a part that was set aside. -/
  | aside
  /-- A value. -/
  | strict
  /-- Nothing else. -/
  | fixed
deriving DecidableEq, Repr

/-- The tree of a document. -/
inductive Source where
  | scalar (readings : Scalar)
  | list (standing : Standing) (items : List Source)
  | map (standing : Standing) (entries : List (Source × Source))
  /-- A part of the document that is written elsewhere. -/
  | alias (target : Unit → Source)

/-- What is read from a document, if it is there. The state is how many aliases may still be
followed. -/
abbrev Reading := StateT Nat Option

namespace Source

/-- The scalar that can be read in no way. -/
def unreadable : Source := .scalar .unreadable

/-- Follows one alias more. -/
def spend : Reading Unit := fun left =>
  match left with
  | 0 => none
  | left + 1 => some ((), left)

/-- The part itself, which is no alias. -/
def follow : Source → Reading Source
  | .alias target => do
      spend
      return target ()
  | source => return source

/-- Reads a scalar in one of its ways. -/
def scalar? {α : Type} (reading : Scalar → Option α) (source : Source) : Reading α := do
  match ← source.follow with
  | .scalar readings => reading readings
  | _ => failure

/-- Reads a text. -/
def text? : Source → Reading String := scalar? Scalar.text

/-! ## Reading as a value -/

/-- A number that is not finite has no place among the values and is read as null. -/
def finite : Json → Json
  | .float x => if x.isFinite then .float x else .null
  | value => value

mutual

/-- Reads a value. Of entries with one key the last one counts. -/
def value? : Source → Reading Json
  | .scalar readings => do
      let value ← readings.value
      return finite value
  | .list standing items => do
      if standing = .fixed then failure
      let values ← values? items
      return .array values
  | .map standing entries => do
      if standing = .fixed then failure
      let fields ← fields? entries
      return .ofFields (Dict.ofList fields)
  | .alias target => do
      spend
      value? (target ())

/-- Reads a list of values. -/
def values? : List Source → Reading (List Json)
  | [] => return []
  | item :: rest => do
      let value ← value? item
      let values ← values? rest
      return value :: values

/-- Reads the entries of a map, its keys as text. -/
def fields? : List (Source × Source) → Reading (List (String × Json))
  | [] => return []
  | (key, item) :: rest => do
      let key ← key.text?
      let value ← value? item
      let fields ← fields? rest
      return (key, value) :: fields

end

/-! ## Setting a part aside -/

/-- The scalar in which only its value counts, and whether it was written as a place. -/
def setAsideScalar? (readings : Scalar) : Option Scalar :=
  readings.value.map fun value => { Scalar.ofValue value with place := readings.place }

mutual

/-- Sets a part aside: the same tree without aliases, in which the scalars are nothing but values.
It is refused if a scalar in it has no value. -/
def setAside? : Source → Reading Source
  | .scalar readings => do
      let readings ← setAsideScalar? readings
      return .scalar readings
  | .list standing items => do
      if standing = .fixed then failure
      let items ← setAsideItems? items
      return .list .aside items
  | .map standing entries => do
      if standing = .fixed then failure
      let entries ← setAsideEntries? entries
      return .map .aside entries
  | .alias target => do
      spend
      setAside? (target ())

/-- Sets the items of a list aside. -/
def setAsideItems? : List Source → Reading (List Source)
  | [] => return []
  | item :: rest => do
      let item ← setAside? item
      let items ← setAsideItems? rest
      return item :: items

/-- Sets the entries of a map aside, each with its key. -/
def setAsideEntries? : List (Source × Source) → Reading (List (Source × Source))
  | [] => return []
  | (key, item) :: rest => do
      let key ← setAside? key
      let item ← setAside? item
      let entries ← setAsideEntries? rest
      return (key, item) :: entries

end

/-! ## Values as documents -/

mutual

/-- The tree of a value. -/
def ofJson : Json → Source
  | .array items => .list .loose (ofItems items)
  | .object fields => .map .loose (ofFields fields)
  | .null => .scalar (.ofValue .null)
  | .bool value => .scalar (.ofValue (.bool value))
  | .int value => .scalar (.ofValue (.int value))
  | .float value => .scalar (.ofValue (.float value))
  | .text value => .scalar (.ofValue (.text value))

/-- The trees of the items of an array. -/
def ofItems : List Json → List Source
  | [] => []
  | item :: rest => ofJson item :: ofItems rest

/-- The trees of the fields of an object. -/
def ofFields : List (String × Json) → List (Source × Source)
  | [] => []
  | (key, value) :: rest => (.scalar (.ofValue (.text key)), ofJson value) :: ofFields rest

end

end Source

/-- What is read from a document that has no aliases. -/
def Reading.result? {α : Type} (reading : Reading α) : Option α := (reading.run 0).map (·.1)

end Workflow
