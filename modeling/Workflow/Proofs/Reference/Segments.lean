import Workflow.Proofs.Reference.Substitution

/-!
# Texts between placeholders

A text is cut at its placeholders, whatever stands around them: a placeholder starts with the only
opening brace in it and ends with the only closing one, so that two of them never overlap. There is
one way to do so, and it is found without reading from left to right: the text is made of readable
placeholders and of pieces in which none stands. What is done to the placeholders of a text is then
said by writing something else between the same pieces.

Main statements: `cuts_ofChars` and `Cuts.eq_ofTemplate`, reading a text cuts it, and there is no
other way to cut it.
-/

namespace Workflow

/-- A text cut at placeholders: what stands before the first one, and each of them with what stands
between it and the next one. -/
structure Segments where
  lead : List Char
  parts : List (Reference × List Char)

namespace Segments

/-- The placeholders, in order of appearance. -/
def references (s : Segments) : List Reference := s.parts.map (·.1)

/-- The pieces between the placeholders. -/
def pieces (s : Segments) : List (List Char) := s.lead :: s.parts.map (·.2)

/-- The text with `spelled` written for each placeholder, and the pieces as they are. -/
def write (spelled : Reference → List Char) (s : Segments) : List Char :=
  s.lead ++ s.parts.flatMap fun part => spelled part.1 ++ part.2

/-- No placeholder stands anywhere in the text. -/
def IsLiteral (text : List Char) : Prop :=
  ∀ r : Reference, r.isReadable = true → ¬ r.chars <:+: text

/-- The segments make up the text: their placeholders are placeholders, and there are no others. -/
structure Cuts (s : Segments) (text : List Char) : Prop where
  write_eq : s.write Reference.chars = text
  readable : ∀ r ∈ s.references, r.isReadable = true
  literal : ∀ piece ∈ s.pieces, IsLiteral piece

/-! ## Segments of a template -/

/-- The characters and references one by one. -/
def template (s : Segments) : Template :=
  s.lead.map .literal ++ s.parts.flatMap fun part => .reference part.1 :: part.2.map .literal

/-- The literal characters of a template gathered to pieces. -/
def ofTemplate : Template → Segments
  | [] => ⟨[], []⟩
  | .literal c :: rest => ⟨c :: (ofTemplate rest).lead, (ofTemplate rest).parts⟩
  | .reference r :: rest => ⟨[], (r, (ofTemplate rest).lead) :: (ofTemplate rest).parts⟩

theorem ofTemplate_literals_append (text : List Char) (rest : Template) :
    ofTemplate (text.map .literal ++ rest) =
      ⟨text ++ (ofTemplate rest).lead, (ofTemplate rest).parts⟩ := by
  induction text with
  | nil => rfl
  | cons c text ih => rw [List.map_cons, List.cons_append, ofTemplate, ih, List.cons_append]

theorem ofTemplate_template (s : Segments) : ofTemplate s.template = s := by
  obtain ⟨lead, parts⟩ := s
  have gathered : ofTemplate
      (parts.flatMap fun part => .reference part.1 :: part.2.map .literal) = ⟨[], parts⟩ := by
    induction parts with
    | nil => rfl
    | cons part rest ih =>
        rw [List.flatMap_cons, List.cons_append, ofTemplate, ofTemplate_literals_append, ih,
          List.append_nil]
  rw [template, ofTemplate_literals_append, gathered, List.append_nil]

theorem write_ofTemplate_literal (spelled : Reference → List Char) (c : Char) (rest : Template) :
    (ofTemplate (.literal c :: rest)).write spelled = c :: (ofTemplate rest).write spelled := rfl

theorem write_ofTemplate_reference (spelled : Reference → List Char) (r : Reference)
    (rest : Template) :
    (ofTemplate (.reference r :: rest)).write spelled =
      spelled r ++ (ofTemplate rest).write spelled := by
  simp [ofTemplate, write]

theorem references_ofTemplate (t : Template) : (ofTemplate t).references = t.references := by
  induction t with
  | nil => rfl
  | cons piece rest ih =>
      cases piece with
      | literal c => exact ih
      | reference r => exact congrArg (r :: ·) ih

theorem write_chars_ofTemplate (t : Template) :
    (ofTemplate t).write Reference.chars = t.render := by
  induction t with
  | nil => rfl
  | cons piece rest ih =>
      cases piece with
      | literal c => rw [write_ofTemplate_literal, ih, Template.render]
      | reference r => rw [write_ofTemplate_reference, ih, Template.render]

/-! ## Reading -/

theorem isLiteral_nil : IsLiteral [] := by
  intro r _ h
  exact r.chars_ne_nil (List.infix_nil.1 h)

theorem IsLiteral.tail {c : Char} {text : List Char} (h : IsLiteral (c :: text)) :
    IsLiteral text :=
  fun r readable inside => h r readable (inside.trans (List.suffix_cons c text).isInfix)

theorem IsLiteral.read?_eq_none {text : List Char} (h : IsLiteral text) :
    Reference.read? text = none := by
  cases hread : Reference.read? text with
  | none => rfl
  | some found =>
      obtain ⟨r, rest⟩ := found
      have start : r.chars <+: text := ⟨rest, (Reference.read?_append hread).symm⟩
      exact absurd start.isInfix (h r (Reference.isReadable_of_read? hread))

/-- A placeholder after a piece without placeholders does not make it the start of one. -/
theorem ofChars_literal_append {text rest : List Char} (h : IsLiteral text)
    (opens : ∀ c ∈ rest.head?, c = '{') :
    Template.ofChars (text ++ rest) = text.map .literal ++ Template.ofChars rest := by
  have alone : Template.ofChars text = text.map .literal := by
    clear opens
    induction text with
    | nil => rw [Template.ofChars]; rfl
    | cons c text ih =>
        rw [Template.ofChars_of_read?_none h.read?_eq_none, ih h.tail, List.map_cons]
  cases rest with
  | nil => rw [List.append_nil, alone, Template.ofChars, List.append_nil]
  | cons c rest =>
      obtain rfl := opens c rfl
      rw [Template.ofChars_append_stop (by decide), alone]

/-- A placeholder starts with an opening brace, and so does the text from the first one on. -/
theorem eq_brace_of_mem_head? {parts : List (Reference × List Char)} :
    ∀ c ∈ (parts.flatMap fun part => part.1.chars ++ part.2).head?, c = '{' := by
  intro c hc
  cases parts with
  | nil => cases hc
  | cons part rest =>
      obtain ⟨tail, htail⟩ := part.1.head_chars
      simpa [htail, eq_comm] using hc

theorem ofChars_parts {parts : List (Reference × List Char)}
    (readable : ∀ part ∈ parts, part.1.isReadable = true)
    (literal : ∀ part ∈ parts, IsLiteral part.2) :
    Template.ofChars (parts.flatMap fun part => part.1.chars ++ part.2) =
      parts.flatMap fun part => .reference part.1 :: part.2.map .literal := by
  induction parts with
  | nil => rw [List.flatMap_nil, Template.ofChars, List.flatMap_nil]
  | cons part rest ih =>
      obtain ⟨readableHere, readableThere⟩ := List.forall_mem_cons.1 readable
      obtain ⟨literalHere, literalThere⟩ := List.forall_mem_cons.1 literal
      rw [List.flatMap_cons, List.flatMap_cons, List.append_assoc,
        Template.ofChars_of_read? (Reference.read?_chars_append readableHere _),
        ofChars_literal_append literalHere eq_brace_of_mem_head?, ih readableThere literalThere,
        List.cons_append]

/-- Reading a text finds the placeholders at which it is cut. -/
theorem Cuts.ofChars_eq {s : Segments} {text : List Char} (cuts : s.Cuts text) :
    Template.ofChars text = s.template := by
  obtain ⟨rfl, readable, literal⟩ := cuts
  rw [references, List.forall_mem_map] at readable
  rw [pieces, List.forall_mem_cons, List.forall_mem_map] at literal
  rw [write, ofChars_literal_append literal.1 eq_brace_of_mem_head?,
    ofChars_parts readable literal.2, template]

theorem isLiteral_of_mem_pieces (text : List Char) :
    ∀ piece ∈ (ofTemplate (Template.ofChars text)).pieces, IsLiteral piece := by
  fun_induction Template.ofChars text with
  | case1 => exact List.forall_mem_cons.2 ⟨isLiteral_nil, List.forall_mem_nil _⟩
  | case2 c rest r tail hread ih => exact List.forall_mem_cons.2 ⟨isLiteral_nil, ih⟩
  | case3 c rest hread ih =>
      rw [ofTemplate, pieces, List.forall_mem_cons]
      rw [pieces, List.forall_mem_cons] at ih
      refine ⟨fun r readable inside => ?_, ih.2⟩
      rcases List.infix_cons_iff.1 inside with start | inside
      · -- The lead is where the text starts, so that the placeholder would have been read there.
        have leads : (ofTemplate (Template.ofChars rest)).lead <+: rest :=
          ⟨_, (write_chars_ofTemplate _).trans (Template.render_ofChars rest)⟩
        obtain ⟨after, hafter⟩ := start.trans ((List.prefix_cons_inj c).2 leads)
        rw [← hafter, Reference.read?_chars_append readable] at hread
        cases hread
      · exact ih.1 r readable inside

/-- Every text is cut at its placeholders, and reading it does so. -/
theorem cuts_ofChars (text : List Char) : (ofTemplate (Template.ofChars text)).Cuts text where
  write_eq := by rw [write_chars_ofTemplate, Template.render_ofChars]
  readable := by
    rw [references_ofTemplate]
    exact fun r hr => Template.isReadable_of_mem_ofChars hr
  literal := isLiteral_of_mem_pieces text

/-- There is no other way to cut a text. -/
theorem Cuts.eq_ofTemplate {s : Segments} {text : List Char} (cuts : s.Cuts text) :
    s = ofTemplate (Template.ofChars text) := by
  rw [cuts.ofChars_eq, ofTemplate_template]

end Segments

end Workflow
