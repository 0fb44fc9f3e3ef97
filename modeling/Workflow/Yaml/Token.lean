import Workflow.Yaml.Meaning
import Workflow.Yaml.Scalar
import Workflow.Yaml.Tag

/-!
# Tokens

The layout of a document is turned into brackets. Where a block collection begins, its first
character stands to the right of the collection around it, and it ends where something stands to the
left of it again.

That a scalar or a bracket was the key of an entry is known only when the colon after it is met. The
place before a token that may turn out to be a key is remembered until then, as long as the colon
can still come: on the same line, within 1024 bytes. The tokens that announce a key are put at
that place.
-/

namespace Workflow.Yaml

/-- A token of a document. -/
inductive Token where
  /-- `---` -/
  | documentStart
  /-- `...` -/
  | documentEnd
  | version (major minor : Nat)
  /-- A short form for the beginnings of tags. -/
  | tagHandle (handle stem : String)
  | openList
  | openMap
  /-- The end of a block collection. -/
  | close
  | openFlowList
  | closeFlowList
  | openFlowMap
  | closeFlowMap
  /-- `-` before an item of a list. -/
  | item
  /-- `,` -/
  | separator
  | key
  | value
  | alias (name : String)
  | anchor (name : String)
  | tag (handle suffix : String)
  | scalar (style : Style) (text : String)
deriving DecidableEq, Repr

/-- The place of a token that may turn out to be a key. -/
structure PendingKey where
  /-- The number of tokens before it. -/
  place : Nat
  line : Nat
  column : Nat
  offset : Nat
  /-- Whether only a key can stand here. -/
  required : Bool
deriving DecidableEq, Repr

/-- The tokens so far, and what the next ones depend on. -/
structure Lexer where
  /-- The tokens, the last one first. -/
  emitted : List Token
  count : Nat
  /-- The columns of the open block collections, the innermost one first. -/
  columns : List Nat
  /-- What may be a key inside the innermost brackets. -/
  pending : Option PendingKey
  /-- What may be a key inside the brackets around them; one for each open bracket. -/
  outer : List (Option PendingKey)
  /-- Whether a key may begin here. -/
  keyAllowed : Bool

namespace Lexer

/-- The start of a document. -/
def start : Lexer := ⟨[], 0, [], none, [], true⟩

/-- Whether there are open brackets. -/
def inFlow (lx : Lexer) : Bool := !lx.outer.isEmpty

/-- The first column inside the innermost block collection that is open. -/
def margin (lx : Lexer) : Nat :=
  match lx.columns with
  | [] => 0
  | column :: _ => column + 1

/-! ## Emitting tokens -/

/-- Adds a token. -/
def emit (token : Token) (lx : Lexer) : Lexer :=
  { lx with emitted := token :: lx.emitted, count := lx.count + 1 }

/-- Puts a token before all but the first `place` ones. -/
def emitAt (place : Nat) (token : Token) (lx : Lexer) : Lexer :=
  let later := lx.count - place
  { lx with
    emitted := lx.emitted.take later ++ token :: lx.emitted.drop later
    count := lx.count + 1 }

/-- Opens a block collection at a column, unless it is inside brackets or one is open there. -/
def openAt (place column : Nat) (token : Token) (lx : Lexer) : Lexer :=
  if lx.inFlow || column < lx.margin then lx
  else { lx.emitAt place token with columns := column :: lx.columns }

/-- Ends the innermost block collections, given by their columns, that `ends` is true of. -/
def closeWhile (ends : Nat → Bool) (lx : Lexer) : List Nat → Lexer
  | [] => { lx with columns := [] }
  | column :: rest =>
      if ends column then (lx.emit .close).closeWhile ends rest
      else { lx with columns := column :: rest }

/-- Ends the block collections to the right of a column, unless inside brackets. -/
def closeBeyond (column : Nat) (lx : Lexer) : Lexer :=
  if lx.inFlow then lx else lx.closeWhile (column < ·) lx.columns

/-- Ends all block collections, unless inside brackets. -/
def closeAll (lx : Lexer) : Lexer :=
  if lx.inFlow then lx else lx.closeWhile (fun _ => true) lx.columns

/-! ## Pending keys -/

/-- Gives up the pending key, which must not be required. -/
def dropKey (lx : Lexer) : Option Lexer :=
  if lx.pending.any (·.required) then none else some { lx with pending := none }

/-- Whether the colon of a pending key can no longer come at a place. -/
def PendingKey.isStale (key : PendingKey) (g : Glyph) : Bool :=
  key.line < g.line || key.offset + 1024 < g.offset

/-- Gives up a pending key that is stale. -/
def refresh (g : Glyph) (key : Option PendingKey) : Option (Option PendingKey) :=
  match key with
  | none => some none
  | some key =>
      if PendingKey.isStale key g then if key.required then none else some none else some (some key)

/-- Gives up all pending keys that are stale. -/
def dropStale (g : Glyph) (lx : Lexer) : Option Lexer := do
  let pending ← refresh g lx.pending
  let outer ← lx.outer.mapM (refresh g)
  return { lx with pending, outer }

/-- Notes that a key may begin here. It is required at the column of the innermost block. -/
def noteKey (g : Glyph) (lx : Lexer) : Option Lexer :=
  if lx.keyAllowed then do
    let required := !lx.inFlow && lx.columns.head? = some g.column
    let lx ← lx.dropKey
    return { lx with pending := some ⟨lx.count, g.line, g.column, g.offset, required⟩ }
  else some lx

/-! ## Indicators -/

/-- A token that stands for itself, after which a key may begin or not. -/
def mark (token : Token) (keyAllowed : Bool) (lx : Lexer) : Option Lexer :=
  lx.dropKey.map fun lx => { lx.emit token with keyAllowed := keyAllowed }

/-- An opening bracket. -/
def openBracket (token : Token) (g : Glyph) (lx : Lexer) : Option Lexer :=
  (lx.noteKey g).map fun lx =>
    { lx.emit token with pending := none, outer := lx.pending :: lx.outer, keyAllowed := true }

/-- A closing bracket. -/
def closeBracket (token : Token) (lx : Lexer) : Option Lexer :=
  (lx.mark token false).map fun lx =>
    match lx.outer with
    | [] => lx
    | pending :: outer => { lx with pending := pending, outer := outer }

/-- An indicator that opens a block collection, and in brackets stands for itself. -/
def blockMark (collection token : Token) (keyAllowed : Bool) (g : Glyph) (lx : Lexer) :
    Option Lexer :=
  if !lx.inFlow && !lx.keyAllowed then none
  else (lx.openAt lx.count g.column collection).mark token keyAllowed

/-- The colon before a value. A key that waits for it is announced at its place. -/
def colon (g : Glyph) (lx : Lexer) : Option Lexer :=
  match lx.pending with
  | some key =>
      let lx := (lx.emitAt key.place .key).openAt key.place key.column .openMap
      some { lx.emit .value with pending := none, keyAllowed := false }
  | none =>
      if lx.inFlow then some { lx.emit .value with keyAllowed := false }
      else if lx.keyAllowed then
        some { (lx.openAt lx.count g.column .openMap).emit .value with keyAllowed := true }
      else none

/-- A line that separates documents, or a directive. -/
def boundary (token : Token) (lx : Lexer) : Option Lexer := lx.closeAll.mark token false

/-- A scalar, anchor, alias or tag, with which a key may begin. -/
def content (token : Token) (g : Glyph) (lx : Lexer) : Option Lexer :=
  (lx.noteKey g).map fun lx => { lx.emit token with keyAllowed := false }

/-- All tokens, at the end of the document. -/
def finish (lx : Lexer) : Option (List Token) := lx.closeAll.dropKey.map (·.emitted.reverse)

end Lexer

/-! ## Names -/

/-- The word at the start of the text, and what follows it. -/
def splitWord (text : List Glyph) : List Char × List Glyph :=
  (chars (text.takeWhile fun g => isWord g.char), text.dropWhile fun g => isWord g.char)

/-- The name of an anchor or alias, and what follows it. -/
def readAnchor (text : List Glyph) : Option (String × List Glyph) :=
  let (name, rest) := splitWord text
  let ended := gapNext rest || rest.head?.any fun g => g.char ∈ "?:,]\x7d%@\x60".toList
  if name.isEmpty || !ended then none else some (String.ofList name, rest)

/-- The characters of a tag at the start of the text, and what follows them. -/
def splitTag (bracketed : Bool) (text : List Glyph) : List Char × List Glyph :=
  (chars (text.takeWhile fun g => isTagChar bracketed g.char),
    text.dropWhile fun g => isTagChar bracketed g.char)

/-- A tag after its exclamation mark: in full between angle brackets, or with a handle, or local. -/
def readTagName (text : List Glyph) : Option (Token × List Glyph) :=
  if text.head?.any (·.char = '<') then do
    let (name, rest) := splitTag true text.tail
    if name.isEmpty || !rest.head?.any (·.char = '>') then none
    else return (.tag "" (← tagText? name), rest.tail)
  else
    let (word, rest) := splitWord text
    if rest.head?.any (·.char = '!') then do
      let (suffix, rest) := splitTag false rest.tail
      if suffix.isEmpty then none
      else return (.tag (String.ofList ('!' :: (word ++ ['!']))) (← tagText? suffix), rest)
    else do
      let (suffix, rest) := splitTag false text
      let suffix ← tagText? suffix
      if suffix.isEmpty then return (.tag "" "!", rest) else return (.tag "!" suffix, rest)

/-- A tag after its exclamation mark, which a gap ends, or a comma inside brackets. -/
def readTag (inFlow : Bool) (text : List Glyph) : Option (Token × List Glyph) :=
  (readTagName text).filter fun (_, rest) =>
    gapNext rest || (inFlow && rest.head?.any (·.char = ','))

/-! ## Directives -/

/-- The text after the blanks of the line. -/
def skipSpaces (text : List Glyph) : List Glyph := text.dropWhile fun g => isSpace g.char

/-- A number of at most nine digits. -/
def readSmallNumber (text : List Glyph) : Option (Nat × List Glyph) :=
  let digits := chars (text.takeWhile fun g => g.char.isDigit)
  if digits.isEmpty || 9 < digits.length then none
  else some (digitsValue digits, text.dropWhile fun g => g.char.isDigit)

/-- The version that a document states. -/
def readVersion (text : List Glyph) : Option (Token × List Glyph) := do
  let (major, rest) ← readSmallNumber (skipSpaces text)
  if !rest.head?.any (·.char = '.') then none
  else
    let (minor, rest) ← readSmallNumber rest.tail
    return (.version major minor, rest)

/-- The handle of tags and what it stands for. -/
def readTagHandle (text : List Glyph) : Option (Token × List Glyph) :=
  let text := skipSpaces text
  if !text.head?.any (·.char = '!') then none
  else
    let (word, rest) := splitWord text.tail
    let closed := rest.head?.any (·.char = '!')
    let rest := if closed then rest.tail else rest
    if (!closed && !word.isEmpty) || !rest.head?.any (fun g => isSpace g.char) then none
    else do
      let handle := '!' :: (word ++ if closed then ['!'] else [])
      let (stem, rest) := splitTag true (skipSpaces rest)
      if stem.isEmpty || !gapNext rest then none
      else return (.tagHandle (String.ofList handle) (← tagText? stem), rest)

/-- A directive after its percent sign, with its line. -/
def readDirective (text : List Glyph) : Option (Token × List Glyph) := do
  let (name, rest) := splitWord text
  if name.isEmpty || !gapNext rest then none
  else
    let (token, rest) ←
      match String.ofList name with
      | "YAML" => readVersion rest
      | "TAG" => readTagHandle rest
      | _ => none
    return (token, ← endOfLine? rest)

/-! ## The next token -/

/-- Whether a plain scalar may begin with this character, whatever follows it. -/
def startsPlain (c : Char) : Bool := !isGap c && c ∉ "-?:,[]\x7b\x7d#&*!|>'\"%@\x60".toList

/-- Reads the token at the start of the text, whose first character is `g`. -/
def Lexer.token (lx : Lexer) (g : Glyph) (rest : List Glyph) : Option (Lexer × List Glyph) :=
  let text := g :: rest
  let separate := gapNext rest
  let content (token : Token) (rest : List Glyph) := (lx.content token g).map fun lx => (lx, rest)
  let scalar (style : Style) (value : List Char) := Token.scalar style (String.ofList value)
  if g.column = 0 && g.char = '%' then do
    let (token, rest) ← readDirective rest
    return (← lx.boundary token, rest)
  else if marksDocument '-' text then (lx.boundary .documentStart).map fun lx => (lx, text.drop 3)
  else if marksDocument '.' text then (lx.boundary .documentEnd).map fun lx => (lx, text.drop 3)
  else
    match g.char with
    | '[' => (lx.openBracket .openFlowList g).map fun lx => (lx, rest)
    | '{' => (lx.openBracket .openFlowMap g).map fun lx => (lx, rest)
    | ']' => (lx.closeBracket .closeFlowList).map fun lx => (lx, rest)
    | '}' => (lx.closeBracket .closeFlowMap).map fun lx => (lx, rest)
    | ',' => (lx.mark .separator true).map fun lx => (lx, rest)
    | '*' => (readAnchor rest).bind fun (name, rest) => content (.alias name) rest
    | '&' => (readAnchor rest).bind fun (name, rest) => content (.anchor name) rest
    | '!' => (readTag lx.inFlow rest).bind fun (token, rest) => content token rest
    | '\'' => (readQuoted false rest).bind fun (value, rest) => content (scalar .quoted value) rest
    | '"' => (readQuoted true rest).bind fun (value, rest) => content (scalar .quoted value) rest
    | c =>
        if c = '-' && separate then
          (lx.blockMark .openList .item true g).map fun lx => (lx, rest)
        else if c = '?' && (lx.inFlow || separate) then
          (lx.blockMark .openMap .key (!lx.inFlow) g).map fun lx => (lx, rest)
        else if c = ':' && (lx.inFlow || separate) then (lx.colon g).map fun lx => (lx, rest)
        else if (c = '|' || c = '>') && !lx.inFlow then do
          let (value, rest) ← readBlock (c = '>') lx.margin rest
          return (← lx.mark (scalar (if c = '>' then .folded else .literal) value) true, rest)
        else if startsPlain c || c = '-' || (!lx.inFlow && (c = '?' || c = ':')) then do
          let plain ← readPlain lx.inFlow lx.margin text
          let lx ← lx.content (scalar .plain plain.text) g
          return ({ lx with keyAllowed := plain.atNewLine }, plain.rest)
        else none

/-! ## All tokens -/

/-- The text after blanks, comments and line breaks, and whether a key may begin there. A line may
begin with a byte order mark. A new line may begin with a key, except inside brackets; where one may
begin there must be no tab before it. -/
def skipToToken (inFlow keyAllowed : Bool) (text : List Glyph) : Bool × List Glyph :=
  let marked := text.head?.any fun g => g.column = 0 && g.char = byteOrderMark
  let after := (if marked then text.tail else text).dropWhile fun g =>
    g.char = ' ' || (g.char = '\t' && (inFlow || !keyAllowed))
  let after :=
    if after.head?.any (·.char = '#') then after.dropWhile fun g => !isBreak g.char else after
  match after with
  | [] => (keyAllowed, [])
  | g :: rest =>
      if isBreak g.char then
        if _h : rest.length < text.length then skipToToken inFlow (!inFlow || keyAllowed) rest
        else (keyAllowed, rest)
      else (keyAllowed, g :: rest)
termination_by text.length

/-- Reads all tokens. -/
def Lexer.run (lx : Lexer) (text : List Glyph) : Option (List Token) :=
  let (keyAllowed, after) := skipToToken lx.inFlow lx.keyAllowed text
  match after with
  | [] => lx.finish
  | g :: rest =>
      let next := (({ lx with keyAllowed := keyAllowed }).dropStale g).bind fun lx =>
        (lx.closeBeyond g.column).token g rest
      match next with
      | none => none
      | some (lx, rest) => if _h : rest.length < text.length then lx.run rest else none
termination_by text.length

/-- The tokens of a document. -/
def tokens? (text : List Char) : Option (List Token) := (place? text).bind Lexer.start.run

end Workflow.Yaml
