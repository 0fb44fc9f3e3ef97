import Workflow.Yaml.Node
import Workflow.Yaml.Token

/-!
# Reading YAML text

The parts of a document from its tokens. An anchor gets as its number how many names of anchors
there were before it, also if its name is not new, and an alias has the number that its name has
where it stands.

Where an entry, an item or a document has no content, a plain scalar without text stands in its
place. A text is one document: anything after it is refused.
-/

namespace Workflow.Yaml

/-- A part of a document with an anchor. -/
structure Anchored where
  number : Nat
  /-- How many anchors there were before this one. -/
  order : Nat
  node : Node

/-- What remains of the tokens, and what is known of the document. -/
structure Progress where
  tokens : List Token
  /-- What the handles of tags stand for. -/
  handles : List (String × String)
  /-- The numbers of the anchors, by their names. -/
  numbers : List (String × Nat)
  /-- How many anchors there were. -/
  count : Nat
  /-- The parts with anchors that have ended. -/
  anchored : List Anchored

namespace Progress

/-- The start of a document. -/
def start (handles : List (String × String)) (tokens : List Token) : Progress :=
  ⟨tokens, handles, [], 0, []⟩

/-- The next token. -/
def next? (p : Progress) : Option Token := p.tokens.head?

/-- The document after the next token. -/
def skip (p : Progress) : Progress := { p with tokens := p.tokens.tail }

/-- Gives an anchor its number. -/
def name (anchor : Option String) (p : Progress) : Progress :=
  match anchor with
  | some name =>
      { p with
        numbers := (name, p.numbers.length) :: p.numbers.filter (·.1 ≠ name)
        count := p.count + 1 }
  | none => p

/-- Notes which part stands at an anchor, which was named after `before`. -/
def record (p : Progress) (anchor : Option String) (before : Progress) (node : Node) : Progress :=
  match anchor with
  | some _ => { p with anchored := ⟨before.numbers.length, before.count, node⟩ :: p.anchored }
  | none => p

/-- What stands at the last anchor with a number. -/
def anchors (p : Progress) : Node.Anchors := fun number =>
  let later (best : Option Anchored) (a : Anchored) :=
    if a.number = number && best.all (·.order < a.order) then some a else best
  (p.anchored.foldl later none).map (·.node)

end Progress

/-- The scalar for content that is missing. -/
def missing : Node := .scalar (scalar none .plain "")

/-! ## Anchors and tags -/

/-- What stands before a part of a document. -/
structure Properties where
  anchor : Option String
  tag : Option String

/-- The tag with a handle and a suffix, if the handle is known. -/
def Progress.fullTag? (p : Progress) (handle suffix : String) : Option String :=
  if handle = "" then some suffix else (p.handles.lookup handle).map (· ++ suffix)

/-- Reads an anchor and a tag, in any order, neither of them required. -/
def readProperties (p : Progress) : Option (Properties × Progress) :=
  match p.tokens with
  | .anchor name :: .tag handle suffix :: _ =>
      (p.fullTag? handle suffix).map fun tag => (⟨some name, some tag⟩, p.skip.skip)
  | .tag handle suffix :: .anchor name :: _ =>
      (p.fullTag? handle suffix).map fun tag => (⟨some name, some tag⟩, p.skip.skip)
  | .anchor name :: _ => some (⟨some name, none⟩, p.skip)
  | .tag handle suffix :: _ =>
      (p.fullTag? handle suffix).map fun tag => (⟨none, some tag⟩, p.skip)
  | _ => some (⟨none, none⟩, p)

/-- How a collection stands with a tag: a local one keeps it from being a value. -/
def standingOf (tag : Option String) : Standing :=
  if (tag.bind localName?).isSome then .fixed else .strict

/-! ## Parts of a document -/

mutual

/-- Reads a part of a document: in block style, where that is allowed, or in flow style. After the
key or the colon of an entry the items of a list need not be indented. -/
def readPart (fuel : Nat) (block unindented : Bool) (p : Progress) : Option (Node × Progress) :=
  match fuel with
  | 0 => none
  | fuel + 1 =>
      match p.next? with
      | some (.alias name) => (p.numbers.lookup name).map fun number => (.alias number, p.skip)
      | _ => do
          let (properties, p) ← readProperties p
          let standing := standingOf properties.tag
          let leaf (style : Style) (text : String) (p : Progress) :=
            let node := Node.scalar (scalar properties.tag style text)
            some (node, (p.name properties.anchor).record properties.anchor p node)
          let list (read : Progress → Option (List Node × Progress)) (start : Progress) := do
            let (items, p) ← read (start.name properties.anchor)
            let node := Node.list standing items
            return (node, p.record properties.anchor start node)
          let map (read : Progress → Option (List (Node × Node) × Progress))
              (start : Progress) := do
            let (entries, p) ← read (start.name properties.anchor)
            let node := Node.map standing entries
            return (node, p.record properties.anchor start node)
          let bare :=
            if properties.anchor.isSome || properties.tag.isSome then leaf .plain "" p else none
          match p.next? with
          | some (.scalar style text) => leaf style text p.skip
          | some .openFlowList => list (readFlowItems fuel true []) p.skip
          | some .openFlowMap => map (readFlowEntries fuel true []) p.skip
          | some .item => if unindented then list (readItems fuel false []) p else bare
          | some .openList => if block then list (readItems fuel true []) p.skip else bare
          | some .openMap => if block then map (readEntries fuel []) p.skip else bare
          | _ => bare

/-- Reads the items of a list in block style, which is closed if it is indented. -/
def readItems (fuel : Nat) (closed : Bool) (items : List Node) (p : Progress) :
    Option (List Node × Progress) :=
  match fuel with
  | 0 => none
  | fuel + 1 =>
      match p.next? with
      | some .item => do
          let p := p.skip
          let isMissing :=
            match p.next? with
            | some .item | some .close => true
            | some .key | some .value => !closed
            | _ => false
          let (item, p) ← if isMissing then some (missing, p) else readPart fuel true false p
          readItems fuel closed (item :: items) p
      | some .close => some (items.reverse, if closed then p.skip else p)
      | _ => if closed then none else some (items.reverse, p)

/-- Reads the entries of a map in block style. -/
def readEntries (fuel : Nat) (entries : List (Node × Node)) (p : Progress) :
    Option (List (Node × Node) × Progress) :=
  match fuel with
  | 0 => none
  | fuel + 1 => do
      match p.next? with
      | some .close => return (entries.reverse, p.skip)
      | some .key =>
          let (key, p) ← readSide fuel p.skip
          let (item, p) ←
            match p.next? with
            | some .value => readSide fuel p.skip
            | _ => some (missing, p)
          readEntries fuel ((key, item) :: entries) p
      | _ => none

/-- Reads the key or the value of an entry in block style. -/
def readSide (fuel : Nat) (p : Progress) : Option (Node × Progress) :=
  match fuel with
  | 0 => none
  | fuel + 1 =>
      match p.next? with
      | some .key | some .value | some .close => some (missing, p)
      | _ => readPart fuel true true p

/-- Reads the items of a list in flow style. An item may be a map of one entry without braces. -/
def readFlowItems (fuel : Nat) (first : Bool) (items : List Node) (p : Progress) :
    Option (List Node × Progress) :=
  match fuel with
  | 0 => none
  | fuel + 1 => do
      match p.next? with
      | some .closeFlowList => return (items.reverse, p.skip)
      | _ =>
          let p ← if first then some p else if p.next? = some .separator then some p.skip else none
          match p.next? with
          | some .closeFlowList => return (items.reverse, p.skip)
          | some .key =>
              let (entry, p) ← readPair fuel p.skip
              readFlowItems fuel false (entry :: items) p
          | _ =>
              let (item, p) ← readPart fuel false false p
              readFlowItems fuel false (item :: items) p

/-- Reads a map of one entry without braces, after what announces its key. -/
def readPair (fuel : Nat) (p : Progress) : Option (Node × Progress) :=
  match fuel with
  | 0 => none
  | fuel + 1 => do
      let (key, p) ←
        match p.next? with
        | some .value | some .separator | some .closeFlowList => some (missing, p.skip)
        | _ => readPart fuel false false p
      let (item, p) ←
        match p.next? with
        | some .value =>
            match p.skip.next? with
            | some .separator | some .closeFlowList => some (missing, p.skip)
            | _ => readPart fuel false false p.skip
        | _ => some (missing, p)
      return (.map .strict [(key, item)], p)

/-- Reads the entries of a map in flow style. A key without colon has no content as its value. -/
def readFlowEntries (fuel : Nat) (first : Bool) (entries : List (Node × Node)) (p : Progress) :
    Option (List (Node × Node) × Progress) :=
  match fuel with
  | 0 => none
  | fuel + 1 => do
      match p.next? with
      | some .closeFlowMap => return (entries.reverse, p.skip)
      | _ =>
          let p ← if first then some p else if p.next? = some .separator then some p.skip else none
          match p.next? with
          | some .closeFlowMap => return (entries.reverse, p.skip)
          | some .key =>
              let (key, p) ← readFlowSide fuel true p.skip
              let (item, p) ←
                match p.next? with
                | some .value => readFlowSide fuel false p.skip
                | _ => some (missing, p)
              readFlowEntries fuel false ((key, item) :: entries) p
          | _ =>
              let (key, p) ← readPart fuel false false p
              readFlowEntries fuel false ((key, missing) :: entries) p

/-- Reads the key or the value of an entry in flow style. -/
def readFlowSide (fuel : Nat) (isKey : Bool) (p : Progress) : Option (Node × Progress) :=
  match fuel with
  | 0 => none
  | fuel + 1 =>
      match p.next? with
      | some .separator | some .closeFlowMap => some (missing, p)
      | some .value => if isKey then some (missing, p) else readPart fuel false false p
      | _ => readPart fuel false false p

end

/-! ## Documents -/

/-- The handles of tags that every document knows. -/
def commonHandles : List (String × String) := [("!", "!"), ("!!", coreTag)]

/-- The directives at the start of a document, and the tokens after them. The version is stated at
most once, and each handle is declared at most once. -/
def readDirectives (versioned : Bool) (handles : List (String × String)) :
    List Token → Option (List (String × String) × List Token)
  | .version major minor :: rest =>
      if versioned || major ≠ 1 || (minor ≠ 1 && minor ≠ 2) then none
      else readDirectives true handles rest
  | .tagHandle handle stem :: rest =>
      if (handles.lookup handle).isSome then none
      else readDirectives versioned ((handle, stem) :: handles) rest
  | tokens => some (handles, tokens)

/-- The document that the tokens start with, and how it was read up to its end. -/
def readDocument (tokens : List Token) : Option (Node × Progress) := do
  let fuel := 4 * tokens.length + 4
  let (handles, after) ← readDirectives false [] tokens
  let isContent := fun token : Option Token =>
    match token with
    | none | some .documentStart | some .documentEnd | some (.version ..)
    | some (.tagHandle ..) => false
    | _ => true
  match after with
  | .documentStart :: rest =>
      let start := Progress.start (handles ++ commonHandles) rest
      if isContent rest.head? then readPart fuel true false start else return (missing, start)
  | _ =>
      if after.length = tokens.length then
        readPart fuel true false (Progress.start commonHandles tokens)
      else none

/-- The tree of a text that is one document, and how many aliases may be followed in it. A text
without content is an empty document. -/
def read? (text : String) : Option (Source × Nat) := do
  let tokens ← tokens? text.toList
  let (node, p) ←
    if tokens.isEmpty then some (missing, Progress.start [] []) else readDocument tokens
  if p.tokens.all (· = .documentEnd) then
    return (node.resolve p.anchors Node.maxDepth, Node.aliasesPerUnit * node.size)
  else none

end Workflow.Yaml
