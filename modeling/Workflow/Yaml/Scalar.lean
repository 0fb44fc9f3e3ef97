import Workflow.Yaml.Glyph
import Workflow.Source.JsonText

/-!
# Scalars

There are three ways to write a text. Plain scalars end where the layout or an indicator says so.
Quoted scalars end with their quote; in double quotes a backslash starts an escape. Block scalars
keep the lines below their header.

Each reader gives the text of the scalar and what follows it.
-/

namespace Workflow.Yaml

/-! ## Plain scalars -/

/-- Whether a character ends a plain scalar inside brackets. -/
def isFlowIndicator (c : Char) : Bool := c = ',' || c = '[' || c = ']' || c = '{' || c = '}'

/-- A word of a plain scalar. A colon ends it at the end of a word; between brackets a colon must
not touch an indicator that follows it. -/
def plainWord (inFlow : Bool) : List Glyph → Option (List Char × List Glyph)
  | [] => some ([], [])
  | g :: rest =>
      if isGap g.char then some ([], g :: rest)
      else if inFlow && g.char = ':' &&
          rest.head?.any (fun n => isFlowIndicator n.char || n.char = '?')
      then none
      else if (g.char = ':' && gapNext rest) || (inFlow && isFlowIndicator g.char)
      then some ([], g :: rest)
      else (plainWord inFlow rest).map fun (word, rest) => (g.char :: word, rest)

/-- Whether a line of the gap starts with a tab left of the column `margin`. -/
def hasTabbedMargin (margin : Nat) (gap : List Glyph) : Bool :=
  (gap.dropWhile fun g => !isBreak g.char).any fun g => g.char = '\t' && g.column < margin

/-- A plain scalar. -/
structure PlainText where
  text : List Char
  /-- Whether a line break was passed after the last word. -/
  atNewLine : Bool
  rest : List Glyph

/-- Whether a plain scalar cannot go on here. -/
def plainEnds (text : List Glyph) : Bool := atDocumentMark text || text.head?.any (·.char = '#')

/-- A plain scalar whose lines after the first stand at `margin` or to the right of it. Brackets
around it free it from the margin. -/
def readPlain (inFlow : Bool) (margin : Nat) (text : List Glyph) : Option PlainText :=
  if plainEnds text then some ⟨[], false, text⟩
  else
    match plainWord inFlow text with
    | none => none
    | some (word, rest) =>
        let (gap, after) := splitGap rest
        if gap.isEmpty then some ⟨word, false, rest⟩
        else if hasTabbedMargin margin gap then none
        else
          let here : PlainText := ⟨word, gap.any fun g => isBreak g.char, after⟩
          if !inFlow && after.head?.any (·.column < margin) then some here
          else if _h : after.length < text.length then
            match readPlain inFlow margin after with
            | none => none
            | some more =>
                if more.text.isEmpty then some here
                else some { more with text := word ++ foldedGap (chars gap) ++ more.text }
          else some here
termination_by text.length

/-! ## Quoted scalars -/

/-- The character for a letter after a backslash. -/
def escapedChar? (c : Char) : Option Char :=
  match c with
  | '0' => some (Char.ofNat 0)
  | 'a' => some (Char.ofNat 7)
  | 'b' => some (Char.ofNat 8)
  | 't' | '\t' => some '\t'
  | 'n' => some '\n'
  | 'v' => some (Char.ofNat 0xB)
  | 'f' => some (Char.ofNat 0xC)
  | 'r' => some '\r'
  | 'e' => some (Char.ofNat 0x1B)
  | ' ' => some ' '
  | '"' => some '"'
  | '/' => some '/'
  | '\\' => some '\\'
  | 'N' => some (Char.ofNat 0x85)
  | '_' => some (Char.ofNat 0xA0)
  | 'L' => some (Char.ofNat 0x2028)
  | 'P' => some (Char.ofNat 0x2029)
  | _ => none

/-- How many hexadecimal digits follow a letter after a backslash. -/
def escapeLength? (c : Char) : Option Nat :=
  match c with
  | 'x' => some 2
  | 'u' => some 4
  | 'U' => some 8
  | _ => none

/-- The character whose number is given by hexadecimal digits. -/
def charOfHex? (digits : List Char) : Option Char := do
  let values ← digits.mapM Source.JsonText.hexValue?
  let n := values.foldl (fun n d => 16 * n + d) 0
  if n < 0xD800 ∨ (0xDFFF < n ∧ n ≤ 0x10FFFF) then some (Char.ofNat n) else none

/-- A piece of a quoted scalar, the characters that it stands for and what follows it. A line break
that is escaped joins what stands before it and after it, line breaks in between kept. -/
def escapedPiece? (text : List Glyph) : Option (List Char × List Glyph) :=
  match text with
  | [] => none
  | g :: rest =>
      if isBreak g.char then
        let (gap, after) := splitGap rest
        if atDocumentMark after then none else some ((chars gap).filter isBreak, after)
      else
        match escapeLength? g.char with
        | some n =>
            if (rest.take n).length = n then
              (charOfHex? (chars (rest.take n))).map fun c => ([c], rest.drop n)
            else none
        | none => (escapedChar? g.char).map fun c => ([c], rest)

/-- The piece of a quoted scalar at the start of the text, none of it at the closing quote. -/
def quotedPiece? (double : Bool) (text : List Glyph) : Option (List Char × List Glyph) :=
  match text with
  | [] => none
  | g :: rest =>
      if isGap g.char then
        let (gap, after) := splitGap text
        if atDocumentMark after then none else some (foldedGap (chars gap), after)
      else if double then
        if g.char = '\\' then escapedPiece? rest
        else if g.char = '"' then some ([], text)
        else some ([g.char], rest)
      else if g.char = '\'' then
        match rest with
        | n :: after => if n.char = '\'' then some (['\''], after) else some ([], text)
        | [] => some ([], text)
      else some ([g.char], rest)

/-- A quoted scalar after its opening quote. -/
def readQuoted (double : Bool) (text : List Glyph) : Option (List Char × List Glyph) :=
  match quotedPiece? double text with
  | none => none
  | some (piece, rest) =>
      if _h : rest.length < text.length then
        (readQuoted double rest).map fun (more, rest) => (piece ++ more, rest)
      else some ([], text.tail)
termination_by text.length

/-! ## Block scalars -/

/-- What becomes of the line breaks at the end of a block scalar. -/
inductive Chomping where
  | strip
  | clip
  | keep
deriving DecidableEq, Repr

/-- The header of a block scalar. -/
structure BlockHeader where
  chomping : Chomping
  /-- By how much the lines are indented, if the header says so. -/
  indentation : Option Nat
deriving DecidableEq, Repr

/-- The chomping that an indicator stands for. -/
def chomping? : Char → Option Chomping
  | '+' => some .keep
  | '-' => some .strip
  | _ => none

/-- The indicators after `|` or `>`: one for chomping and a digit, each at most once. -/
def readIndicators (header : BlockHeader) (chomped : Bool) :
    List Glyph → Option (BlockHeader × List Glyph)
  | [] => some (header, [])
  | g :: rest =>
      match chomping? g.char with
      | some chomping =>
          if chomped then some (header, g :: rest)
          else readIndicators { header with chomping := chomping } true rest
      | none =>
          if g.char.isDigit && header.indentation.isNone then
            if g.char = '0' then none
            else
              let width := g.char.toNat - '0'.toNat
              if chomped then some ({ header with indentation := some width }, rest)
              else readIndicators { header with indentation := some width } chomped rest
          else some (header, g :: rest)

/-- What follows blanks, a comment and the end of the line; there must be nothing else. -/
def endOfLine? (text : List Glyph) : Option (List Glyph) :=
  let after := text.dropWhile fun g => isSpace g.char
  let after :=
    if after.head?.any (·.char = '#') then after.dropWhile fun g => !isBreak g.char else after
  if lineEnds after then some after.tail else none

/-- Empty lines in front of a line of a block scalar. -/
structure Leading where
  breaks : List Char
  /-- The largest column at which one of the lines or the line after them starts. -/
  widest : Nat
  rest : List Glyph

/-- Passes the empty lines, and on the next line the indentation, which goes up to the column
`margin` if that is known. A tab must not stand in the indentation. -/
def readLeading (margin : Option Nat) (text : List Glyph) : Option Leading :=
  let isMargin := fun g : Glyph => margin.all (g.column < ·)
  let after := text.dropWhile fun g => g.char = ' ' && isMargin g
  match _h : after with
  | [] => some ⟨[], 0, []⟩
  | g :: rest =>
      if g.char = '\t' && isMargin g then none
      else if isBreak g.char then
        (readLeading margin rest).map fun more =>
          ⟨g.char :: more.breaks, max g.column more.widest, more.rest⟩
      else some ⟨[], g.column, after⟩
termination_by text.length
decreasing_by
  have : after.length ≤ text.length := (List.dropWhile_suffix _).length_le
  simp only [_h, List.length_cons] at this
  omega

/-- A line of a block scalar, and the line breaks from its end up to the next line. -/
structure BlockLine where
  text : List Char
  breaks : List Char
deriving DecidableEq, Repr

/-- The lines that start at the column `margin`. -/
def readLines (margin : Nat) (text : List Glyph) : Option (List BlockLine × List Glyph) :=
  match text with
  | [] => some ([], [])
  | g :: more =>
      if g.column ≠ margin then some ([], g :: more)
      else
        let line := chars (text.takeWhile fun g => !isBreak g.char)
        match text.dropWhile fun g => !isBreak g.char with
        | [] => some ([⟨line, []⟩], [])
        | lineEnd :: after =>
            match readLeading (some margin) after with
            | none => none
            | some leading =>
                if _h : leading.rest.length ≤ more.length then
                  (readLines margin leading.rest).map fun (lines, rest) =>
                    (⟨line, lineEnd.char :: leading.breaks⟩ :: lines, rest)
                else some ([⟨line, lineEnd.char :: leading.breaks⟩], leading.rest)
termination_by text.length
decreasing_by
  simp only [List.length_cons]
  omega

/-- Whether a line starts with a blank. -/
def BlockLine.isIndented (line : BlockLine) : Bool := line.text.head?.any isSpace

/-- The line breaks between two lines. They are folded unless one of the lines starts with a
blank. -/
def joint (folded : Bool) (line next : BlockLine) : List Char :=
  if folded && !line.isIndented && !next.isIndented then foldedGap line.breaks else line.breaks

/-- The line breaks that are left of those at the end. -/
def Chomping.ending : Chomping → List Char → List Char
  | .strip, _ => []
  | .clip, breaks => breaks.take 1
  | .keep, breaks => breaks

/-- The text of the lines of a block scalar. -/
def joinLines (folded : Bool) (chomping : Chomping) : List BlockLine → List Char
  | [] => []
  | [last] => last.text ++ chomping.ending last.breaks
  | line :: next :: rest =>
      line.text ++ joint folded line next ++ joinLines folded chomping (next :: rest)

/-- A block scalar after its first indicator, inside a block that is indented to the column before
`margin`. Where the header does not say it, the first line says how far the lines are indented. -/
def readBlock (folded : Bool) (margin : Nat) (text : List Glyph) :
    Option (List Char × List Glyph) := do
  let (header, after) ← readIndicators ⟨.clip, none⟩ false text
  let after ← endOfLine? after
  let stated := header.indentation.map fun width => margin - 1 + width
  let leading ← readLeading stated after
  let column := stated.getD (max leading.widest (max margin 1))
  let (lines, rest) ← readLines column leading.rest
  match lines with
  | [] => return (if header.chomping = .keep then leading.breaks else [], rest)
  | _ => return (leading.breaks ++ joinLines folded header.chomping lines, rest)

end Workflow.Yaml
