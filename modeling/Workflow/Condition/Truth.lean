import Workflow.Condition.Basic
import Workflow.Text.Lowercase

/-!
# When a condition holds

A condition is a truth value in every state. A path that leads to nothing reads like `null`.
Recorded texts that spell a number are compared as numbers, because answers in prose often are bare
numbers.
-/

namespace Workflow

/-- The number that a recorded value counts as: its own, or the one that its text spells. -/
def Json.asNumber? : Json → Option Binary64
  | .int n => some (.ofInt n)
  | .float x => some x
  | .text s => Binary64.read? (Text.trim s.toList)
  | _ => none

namespace Condition

/-- Whether a recorded value equals a literal. Numbers are equal if they are less than `2 ^ -52`
apart. -/
def equals (left : Option Json) (right : Literal) : Bool :=
  match left, right with
  | none, .null => true
  | some .null, .null => true
  | some (.text s), .text r => s = r
  | some (.bool b), .bool r => b = r
  | some value, .number r => (value.asNumber?.map (·.near r)).getD false
  | _, _ => false

/-- Whether a recorded value and a literal are numbers in the given order. -/
def ordered (order : Binary64 → Binary64 → Bool) (left : Option Json) (right : Literal) : Bool :=
  match left.bind Json.asNumber?, right with
  | some l, .number r => order l r
  | _, _ => false

/-- Whether a recorded text has a literal text as a part, letter case aside, or a recorded array has
the literal as an item. -/
def containsLiteral (left : Option Json) (right : Literal) : Bool :=
  match left, right with
  | some (.text s), .text needle =>
      Text.occursIn (Text.lowercase needle.toList) (Text.lowercase s.toList)
  | some (.array items), needle => items.any fun item => equals (some item) needle
  | _, _ => false

/-- Whether one comparison holds of a recorded value. -/
def compares (left : Option Json) (op : Comparison) (right : Literal) : Bool :=
  match op with
  | .eq => equals left right
  | .notEq => !equals left right
  | .gt => ordered (fun l r => r.lt l) left right
  | .gte => ordered (fun l r => r.le l) left right
  | .lt => ordered Binary64.lt left right
  | .lte => ordered Binary64.le left right
  | .contains => containsLiteral left right

/-- Whether a condition holds in a state. -/
def holds (state : State) : Condition → Bool
  | .const value => value
  | .compare path op right => compares (state.at? path) op right
  | .and left right => left.holds state && right.holds state
  | .or left right => left.holds state || right.holds state
  | .not inner => !inner.holds state

/-- Only the values at the paths of a condition decide whether it holds. -/
theorem holds_congr {s t : State} {c : Condition} (h : ∀ p ∈ c.paths, s.at? p = t.at? p) :
    c.holds s = c.holds t := by
  induction c with
  | compare path op right => simp [holds, h path (by simp [paths])]
  | and l r ihl ihr =>
      simp only [holds]
      rw [ihl fun p hp => h p (by simp [paths, hp]), ihr fun p hp => h p (by simp [paths, hp])]
  | or l r ihl ihr =>
      simp only [holds]
      rw [ihl fun p hp => h p (by simp [paths, hp]), ihr fun p hp => h p (by simp [paths, hp])]
  | not inner ih => simp only [holds]; rw [ih fun p hp => h p (by simpa [paths] using hp)]
  | const value => rfl

end Condition

end Workflow
