/-!
# Quotes and parentheses in labels

A label is read with an eye on two things: whether the current character stands between quotes, and
how many parentheses are open around it. Between quotes only the closing quote counts. The balance
of a label is checked with a count that stops at the first parenthesis that closes nothing; the
search for a connective outside quotes and parentheses has a count of its own, which does not.

Main statement: `append_of_findTopAt`, the parts and the needle make up the text.
-/

namespace Workflow.Condition

/-- A character that opens and closes a quoted run. -/
def isQuote (c : Char) : Bool := c = '\'' || c = '"'

/-- Where in the nesting of a label a character stands. -/
structure Nesting where
  /-- The quote that is open. -/
  quote : Option Char
  /-- The number of parentheses that are open. -/
  depth : Nat
deriving DecidableEq, Repr

namespace Nesting

/-- Outside all quotes and parentheses. -/
def outside : Nesting := ⟨none, 0⟩

/-- The nesting after a character; there is none after a parenthesis that closes what is not
open. -/
def step (n : Nesting) (c : Char) : Option Nesting :=
  match n.quote with
  | some q => some (if c = q then ⟨none, n.depth⟩ else n)
  | none =>
      if isQuote c then some ⟨some c, n.depth⟩
      else if c = '(' then some ⟨none, n.depth + 1⟩
      else if c = ')' then if n.depth = 0 then none else some ⟨none, n.depth - 1⟩
      else some n

/-- The nesting after a text. -/
def after (n : Nesting) (text : List Char) : Option Nesting := text.foldlM step n

end Nesting

/-- Whether quotes and, outside them, parentheses come in pairs. -/
def balanced (text : List Char) : Bool := Nesting.outside.after text = some .outside

/-- A character that is neither a quote nor a parenthesis. -/
def isPlain (c : Char) : Bool := !isQuote c && c ≠ '(' && c ≠ ')'

/-! ## Looking for a connective -/

/-- What is open where a connective is looked for. No parenthesis is refused here: the depth goes on
below zero. -/
structure Tally where
  /-- The quote that is open. -/
  quote : Option Char
  /-- The number of parentheses that were opened, less those that were closed. -/
  depth : Int
deriving DecidableEq, Repr

namespace Tally

/-- At the start of a text. -/
def zero : Tally := ⟨none, 0⟩

/-- The tally after a character. -/
def step (t : Tally) (c : Char) : Tally :=
  match t.quote with
  | some q => if c = q then ⟨none, t.depth⟩ else t
  | none =>
      if isQuote c then ⟨some c, t.depth⟩
      else if c = '(' then ⟨none, t.depth + 1⟩
      else if c = ')' then ⟨none, t.depth - 1⟩
      else t

/-- The tally after a text. -/
def after (t : Tally) (text : List Char) : Tally := text.foldl step t

end Tally

/-- The parts before and after the first occurrence of `needle` where the tally is as at the start
of a text, for a text that starts at a given one. -/
def findTopAt (needle : List Char) (t : Tally) : List Char → Option (List Char × List Char)
  | [] => none
  | c :: rest =>
      if t = .zero ∧ isPlain c ∧ needle.isPrefixOf (c :: rest) then
        some ([], (c :: rest).drop needle.length)
      else (findTopAt needle (t.step c) rest).map fun parts => (c :: parts.1, parts.2)

/-- The parts before and after the first occurrence of `needle` outside quotes and parentheses. -/
def findTop (needle text : List Char) : Option (List Char × List Char) :=
  findTopAt needle .zero text

theorem append_of_findTopAt {needle : List Char} {t : Tally} {text : List Char}
    {parts : List Char × List Char} (h : findTopAt needle t text = some parts) :
    text = parts.1 ++ needle ++ parts.2 := by
  induction text generalizing t parts with
  | nil => cases h
  | cons c rest ih =>
      rw [findTopAt] at h
      split at h
      · next hc =>
          cases h
          exact (List.prefix_iff_eq_append.1 (List.isPrefixOf_iff_prefix.1 hc.2.2)).symm
      · obtain ⟨parts', h', rfl⟩ := Option.map_eq_some_iff.1 h
        rw [ih h']
        rfl

theorem length_of_findTop {needle text : List Char} {parts : List Char × List Char}
    (hn : needle ≠ []) (h : findTop needle text = some parts) :
    parts.1.length < text.length ∧ parts.2.length < text.length := by
  have := List.length_pos_iff.2 hn
  rw [append_of_findTopAt h, List.length_append, List.length_append]
  omega

/-! ## Outer parentheses -/

/-- The text between an opening parenthesis at the start and a closing one at the end, provided that
these two belong together. -/
def stripParens (text : List Char) : Option (List Char) :=
  match text with
  | '(' :: rest =>
      if rest.getLast? = some ')' ∧ balanced rest.dropLast then some rest.dropLast else none
  | _ => none

theorem length_of_stripParens {text inner : List Char} (h : stripParens text = some inner) :
    inner.length < text.length := by
  unfold stripParens at h
  split at h
  · split at h
    · cases h
      simp only [List.length_dropLast, List.length_cons]
      omega
    · cases h
  · cases h

/-! ## Quoted runs -/

/-- Applies `f` to every stretch of text between quoted runs and copies the quoted runs with their
quotes. `quote` is the quote that is open and `pending` the stretch read so far, in reverse. -/
def mapUnquotedFrom (f : List Char → List Char) (quote : Option Char) (pending : List Char) :
    List Char → List Char
  | [] => if quote.isSome then [] else f pending.reverse
  | c :: rest =>
      match quote with
      | some q => c :: mapUnquotedFrom f (if c = q then none else some q) [] rest
      | none =>
          if isQuote c then f pending.reverse ++ c :: mapUnquotedFrom f (some c) [] rest
          else mapUnquotedFrom f none (c :: pending) rest

/-- Applies `f` to every stretch of text outside quotes and copies all else. -/
def mapUnquoted (f : List Char → List Char) (text : List Char) : List Char :=
  mapUnquotedFrom f none [] text

end Workflow.Condition
