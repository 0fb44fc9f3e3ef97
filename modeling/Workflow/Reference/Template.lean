import Workflow.Condition.Parser
import Workflow.Text.Name

/-!
# Placeholders in texts

Prompts, string parameters and labels refer to values produced elsewhere by placeholders: braces
around `step.field` for the output of a step, around a single name for an artifact of another
fragment. A text with placeholders is read as a template, a list of literal characters and
references; whatever looks almost like a placeholder is literal.

Main statement: `render_ofChars`, a template is nothing but a reading of its text.
-/

namespace Workflow

/-- A value that a placeholder refers to. -/
inductive Reference where
  /-- A field of the output of a step. -/
  | output (step field : String)
  /-- A named value exchanged between fragments. -/
  | artifact (name : String)
deriving DecidableEq, Repr

namespace Reference

open Text

/-- The placeholder in writing. -/
def chars : Reference → List Char
  | .output step field => '{' :: (step.toList ++ '.' :: (field.toList ++ ['}']))
  | .artifact name => '{' :: (name.toList ++ ['}'])

/-- The placeholder in writing. -/
def placeholder (reference : Reference) : String := String.ofList reference.chars

/-- The placeholder at the start of the text, and what follows it. -/
def read? (text : List Char) : Option (Reference × List Char) :=
  match text with
  | '{' :: rest =>
      if leadingName rest = [] then none
      else
        match afterName rest with
        | '}' :: tail => some (.artifact (String.ofList (leadingName rest)), tail)
        | '.' :: tail =>
            if leadingName tail = [] then none
            else
              match afterName tail with
              | '}' :: tail' =>
                  some (.output (String.ofList (leadingName rest))
                    (String.ofList (leadingName tail)), tail')
              | _ => none
        | _ => none
  | _ => none

theorem read?_append {text rest : List Char} {reference : Reference}
    (h : read? text = some (reference, rest)) : text = reference.chars ++ rest := by
  unfold read? at h
  split at h
  · next body =>
      split at h
      · cases h
      · have hb := leadingName_append_afterName body
        split at h
        · next tail ht =>
            cases h
            rw [ht] at hb
            simp only [chars, String.toList_ofList, List.cons_append, List.append_assoc,
              List.nil_append, hb]
        · next tail ht =>
            split at h
            · cases h
            · have hc := leadingName_append_afterName tail
              split at h
              · next tail' ht' =>
                  cases h
                  rw [ht'] at hc
                  rw [ht] at hb
                  simp only [chars, String.toList_ofList, List.cons_append, List.append_assoc,
                    List.nil_append, hc, hb]
              · cases h
        · cases h
  · cases h

theorem chars_ne_nil (reference : Reference) : reference.chars ≠ [] := by
  cases reference <;> simp [chars]

end Reference

/-- A piece of a text with placeholders. -/
inductive Piece where
  | literal (c : Char)
  | reference (r : Reference)
deriving DecidableEq, Repr

/-- A text with its placeholders recognised. -/
abbrev Template := List Piece

namespace Template

/-- Reads a text, given as its characters, from left to right. -/
def ofChars : List Char → Template
  | [] => []
  | c :: rest =>
      match _h : Reference.read? (c :: rest) with
      | some (reference, tail) => .reference reference :: ofChars tail
      | none => .literal c :: ofChars rest
termination_by text => text.length
decreasing_by
  · have := congrArg List.length (Reference.read?_append _h)
    have := List.length_pos_iff.2 (Reference.chars_ne_nil reference)
    simp only [List.length_append, List.length_cons] at *
    omega
  · simp

/-- Reads a text. -/
def ofText (text : String) : Template := ofChars text.toList

/-- The text of a template. -/
def render : Template → List Char
  | [] => []
  | .literal c :: rest => c :: render rest
  | .reference r :: rest => r.chars ++ render rest

theorem render_ofChars (text : List Char) : render (ofChars text) = text := by
  fun_induction ofChars text with
  | case1 => rfl
  | case2 c rest reference tail h ih => simp [render, ih, Reference.read?_append h]
  | case3 c rest h ih => simp [render, ih]

/-- The references of a template, in order of appearance. -/
def references (template : Template) : List Reference :=
  template.filterMap fun piece =>
    match piece with
    | .reference r => some r
    | .literal _ => none

/-- Replaces references; one for which `replace` gives nothing is kept. -/
def substitute (replace : Reference → Option Reference) (template : Template) : Template :=
  template.map fun piece =>
    match piece with
    | .reference r => .reference ((replace r).getD r)
    | .literal c => .literal c

end Template

/-- The references in a text, in order of appearance. -/
def referencesInText (text : String) : List Reference := (Template.ofText text).references

/-- The text with its placeholders replaced; one for which `replace` gives nothing is kept. -/
def substituteText (replace : Reference → Option Reference) (text : String) : String :=
  String.ofList ((Template.ofText text).substitute replace).render

/-- What a transition label reads: its placeholders, and then the fields at the start of the paths
of its condition that are not among them. A catch-all label reads nothing. -/
def labelReferences (label : String) : List Reference :=
  if isCatchAll label then []
  else
    let paths := ((Condition.parse? label).map Condition.paths).getD []
    paths.foldl
      (fun found path =>
        let reference := Reference.output path.step path.field
        if reference ∈ found then found else found ++ [reference])
      (referencesInText label)

end Workflow
