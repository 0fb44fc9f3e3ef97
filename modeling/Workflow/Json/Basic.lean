import Workflow.Dict
import Workflow.Number.Binary64

/-!
# JSON values

Parameters, tool results and recorded outputs are JSON values. A number is an integer or a double,
and the two stay apart: `18` and `18.0` are different values. The fields of an object are a list;
objects that were read have ascending keys, and objects made to be written keep the order in which
their fields are to appear.
-/

namespace Workflow

/-- A JSON value. -/
inductive Json where
  | null
  | bool (value : Bool)
  | int (value : Int)
  | float (value : Binary64)
  | text (value : String)
  | array (items : List Json)
  | object (fields : List (String × Json))
deriving Inhabited

/-- The fields that a step or tool writes. -/
abbrev Fields := Dict Json

namespace Json

/-! ## Equality -/

mutual

/-- Whether two values are the same. -/
def beq : Json → Json → Bool
  | .null, .null => true
  | .bool a, .bool b => a = b
  | .int a, .int b => a = b
  | .float a, .float b => a = b
  | .text a, .text b => a = b
  | .array a, .array b => beqItems a b
  | .object a, .object b => beqFields a b
  | _, _ => false

/-- Whether two lists of values are the same. -/
def beqItems : List Json → List Json → Bool
  | [], [] => true
  | a :: as, b :: bs => beq a b && beqItems as bs
  | _, _ => false

/-- Whether two lists of fields are the same. -/
def beqFields : List (String × Json) → List (String × Json) → Bool
  | [], [] => true
  | (k, a) :: as, (l, b) :: bs => k = l && beq a b && beqFields as bs
  | _, _ => false

end

mutual

theorem beq_iff : ∀ a b : Json, beq a b = true ↔ a = b
  | .null, b => by cases b <;> simp [beq]
  | .bool _, b => by cases b <;> simp [beq]
  | .int _, b => by cases b <;> simp [beq]
  | .float _, b => by cases b <;> simp [beq]
  | .text _, b => by cases b <;> simp [beq]
  | .array as, b => by cases b <;> simp [beq, beqItems_iff as]
  | .object as, b => by cases b <;> simp [beq, beqFields_iff as]

theorem beqItems_iff : ∀ as bs : List Json, beqItems as bs = true ↔ as = bs
  | [], bs => by cases bs <;> simp [beqItems]
  | a :: as, bs => by cases bs <;> simp [beqItems, beq_iff a, beqItems_iff as]

theorem beqFields_iff : ∀ as bs : List (String × Json), beqFields as bs = true ↔ as = bs
  | [], bs => by cases bs <;> simp [beqFields]
  | (k, a) :: as, bs => by
      rcases bs with _ | ⟨⟨l, b⟩, bs⟩ <;> simp [beqFields, beq_iff a, beqFields_iff as]

end

instance : DecidableEq Json := fun a b => decidable_of_iff _ (beq_iff a b)

/-! ## Views -/

/-- An object with the entries of a dictionary. -/
def ofFields (fields : Fields) : Json := .object fields.entries

/-- The text of a string value. -/
def text? : Json → Option String
  | .text s => some s
  | _ => none

/-- The truth value, if it is one. -/
def bool? : Json → Option Bool
  | .bool b => some b
  | _ => none

/-- The natural number, if it is one. -/
def nat? : Json → Option Nat
  | .int n => if 0 ≤ n then some n.toNat else none
  | _ => none

/-- An object of those fields that are present, in the order given. -/
def record (fields : List (Option (String × Json))) : Json := .object (fields.filterMap id)

/-- A field that is always written. -/
def field (name : String) (value : Json) : Option (String × Json) := some (name, value)

/-- A field that is left out if it has no value. -/
def field? (name : String) (value : Option Json) : Option (String × Json) :=
  value.map fun v => (name, v)

/-- An array of strings. -/
def texts (items : List String) : Json := .array (items.map .text)

/-- A string, or null where there is none. -/
def textOrNull (value : Option String) : Json := (value.map .text).getD .null

end Json

end Workflow
