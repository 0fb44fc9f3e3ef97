import Workflow.Source.Basic

/-!
# Documents with aliases

The parts of a document before its aliases are resolved. An alias stands for what the number of its
anchor was given to last in the whole document, which may be a part that encloses it. What is nested
deeper than 128 levels is unreadable, so that the tree of a document is finite although its parts
may contain themselves.
-/

namespace Workflow.Yaml

/-- A part of a document. -/
inductive Node where
  | scalar (readings : Scalar)
  | list (standing : Standing) (items : List Node)
  | map (standing : Standing) (entries : List (Node × Node))
  /-- What the anchor with a number stands at. -/
  | alias (number : Nat)

namespace Node

/-! ## Size -/

mutual

/-- How much of a document a part takes: a scalar or alias counts once, a collection once more for
its end. -/
def size : Node → Nat
  | .scalar _ => 1
  | .list _ items => sizeOfItems items + 2
  | .map _ entries => sizeOfEntries entries + 2
  | .alias _ => 1

/-- How much the items of a list take. -/
def sizeOfItems : List Node → Nat
  | [] => 0
  | item :: rest => item.size + sizeOfItems rest

/-- How much the entries of a map take. -/
def sizeOfEntries : List (Node × Node) → Nat
  | [] => 0
  | (key, item) :: rest => key.size + item.size + sizeOfEntries rest

end

/-! ## Resolving aliases -/

/-- What the anchors stand at, by their numbers. -/
abbrev Anchors := Nat → Option Node

mutual

/-- The tree of a part in which collections may be nested `levels` deep. -/
def resolve (anchors : Anchors) (levels : Nat) (node : Node) : Source :=
  match node with
  | .scalar readings => .scalar readings
  | .list standing items =>
      if _h : levels = 0 then .unreadable
      else .list standing (resolveItems anchors (levels - 1) items)
  | .map standing entries =>
      if _h : levels = 0 then .unreadable
      else .map standing (resolveEntries anchors (levels - 1) entries)
  | .alias number => .alias fun _ =>
      match anchors number with
      | some (.scalar readings) => .scalar readings
      | some (.list standing items) =>
          if _h : levels = 0 then .unreadable
          else .list standing (resolveItems anchors (levels - 1) items)
      | some (.map standing entries) =>
          if _h : levels = 0 then .unreadable
          else .map standing (resolveEntries anchors (levels - 1) entries)
      | some (.alias _) | none => .unreadable
termination_by (levels, sizeOf node)

/-- The trees of the items of a list. -/
def resolveItems (anchors : Anchors) (levels : Nat) (items : List Node) : List Source :=
  match items with
  | [] => []
  | item :: rest => resolve anchors levels item :: resolveItems anchors levels rest
termination_by (levels, sizeOf items)

/-- The trees of the entries of a map. -/
def resolveEntries (anchors : Anchors) (levels : Nat) (entries : List (Node × Node)) :
    List (Source × Source) :=
  match entries with
  | [] => []
  | (key, item) :: rest =>
      (resolve anchors levels key, resolve anchors levels item)
        :: resolveEntries anchors levels rest
termination_by (levels, sizeOf entries)

end

/-- Collections may be nested this deep. -/
def maxDepth : Nat := 128

/-- So many aliases may be followed for each unit of a document. -/
def aliasesPerUnit : Nat := 100

end Node

end Workflow.Yaml
