import Mathlib.Data.List.Basic
import Workflow.Proofs.Dict
import Workflow.Proofs.Reference.Resolution

/-!
# Replacing references

A placeholder that is written is read again as the same reference if its names are made of the
characters that placeholders may hold. Nothing else has to be known of the text around it: whatever
looks almost like a placeholder breaks off at the next opening brace, and the placeholder put in
there starts with one too. So a text whose references are replaced by readable ones is read as its
template with the references replaced, two replacements in a row are one, and to resolve the new
text is to resolve the old one with other values.

Main statements: `ofChars_substitute`, `substituteText_substituteText`, and
`resolveText_substituteText` with its counterpart for values.
-/

namespace Workflow

open Text

/-! ## Names and readable references -/

/-- Whether a name can be spelled in a placeholder. -/
def isName (name : String) : Bool := name.toList ≠ [] ∧ name.toList.all isNameChar

theorem isName_iff (name : String) :
    isName name = true ↔ name.toList ≠ [] ∧ ∀ c ∈ name.toList, isNameChar c = true := by
  simp [isName]

theorem isName_ofList_leadingName {text : List Char} (h : leadingName text ≠ []) :
    isName (String.ofList (leadingName text)) = true := by
  rw [isName_iff, String.toList_ofList]
  refine ⟨h, fun c hc => ?_⟩
  exact List.all_eq_true.1 List.all_takeWhile c hc

theorem leadingName_eq_nil_iff (text : List Char) :
    leadingName text = [] ↔ ∀ c ∈ text.head?, isNameChar c = false := by
  cases text with
  | nil => simp [leadingName]
  | cons c rest => simp [leadingName, List.takeWhile_cons]

theorem leadingName_cons {c : Char} (h : isNameChar c = false) (rest : List Char) :
    leadingName (c :: rest) = [] :=
  List.takeWhile_cons_of_neg (by simp [h])

theorem leadingName_afterName (text : List Char) : leadingName (afterName text) = [] := by
  rw [leadingName_eq_nil_iff]
  intro c hc
  have h := List.head?_dropWhile_not isNameChar text
  rw [show (text.dropWhile isNameChar).head? = some c from hc] at h
  exact h

section Append

variable {rest : List Char} (hrest : leadingName rest = [])
include hrest

/-- A name ends where no name follows. -/
theorem leadingName_append (text : List Char) : leadingName (text ++ rest) = leadingName text := by
  induction text with
  | nil => exact hrest
  | cons c text ih =>
      rw [leadingName, leadingName, List.cons_append, List.takeWhile_cons, List.takeWhile_cons]
      split
      · exact congrArg _ ih
      · rfl

theorem afterName_append (text : List Char) :
    afterName (text ++ rest) = afterName text ++ rest := by
  have whole := leadingName_append_afterName (text ++ rest)
  rw [leadingName_append hrest] at whole
  refine List.append_cancel_left (whole.trans ?_)
  rw [← List.append_assoc, leadingName_append_afterName]

theorem leadingName_isName_append {name : String} (h : isName name = true) :
    leadingName (name.toList ++ rest) = name.toList ∧ afterName (name.toList ++ rest) = rest := by
  have all := ((isName_iff name).1 h).2
  rw [leadingName, afterName, List.takeWhile_append_of_pos all, List.dropWhile_append_of_pos all]
  have after := afterName_append hrest []
  rw [List.nil_append, afterName, afterName, List.dropWhile_nil, List.nil_append] at after
  exact ⟨by rw [show rest.takeWhile isNameChar = [] from hrest, List.append_nil], after⟩

end Append

namespace Reference

/-- Whether the placeholder of the reference is read as the reference. -/
def isReadable : Reference → Bool
  | .output step field => isName step && isName field
  | .artifact name => isName name

/-- The reference that stands in the place of another one. -/
def replacedBy (replace : Reference → Option Reference) (r : Reference) : Reference :=
  (replace r).getD r

/-- Two replacements in a row. -/
def replaceTwice (first second : Reference → Option Reference) (r : Reference) :
    Option Reference :=
  some ((r.replacedBy first).replacedBy second)

theorem head_chars (r : Reference) : ∃ rest, r.chars = '{' :: rest := by
  cases r <;> exact ⟨_, rfl⟩

theorem read?_chars_append {r : Reference} (h : r.isReadable = true) (rest : List Char) :
    read? (r.chars ++ rest) = some (r, rest) := by
  cases r with
  | artifact name =>
      have hname : isName name = true := h
      have hne := ((isName_iff name).1 hname).1
      obtain ⟨leading, after⟩ :=
        leadingName_isName_append (leadingName_cons (c := '}') (by decide) rest) hname
      simp only [chars, List.cons_append, List.append_assoc, List.nil_append, read?]
      rw [leading, after, if_neg hne]
      simp
  | output step field =>
      obtain ⟨hstep, hfield⟩ : isName step = true ∧ isName field = true := by
        simpa [isReadable] using h
      have hne := ((isName_iff step).1 hstep).1
      have hne' := ((isName_iff field).1 hfield).1
      obtain ⟨leading, after⟩ := leadingName_isName_append
        (leadingName_cons (c := '.') (by decide) (field.toList ++ '}' :: rest)) hstep
      obtain ⟨leading', after'⟩ :=
        leadingName_isName_append (leadingName_cons (c := '}') (by decide) rest) hfield
      simp only [chars, List.cons_append, List.append_assoc, List.nil_append, read?]
      rw [leading, after, if_neg hne]
      simp [leading', after', hne']

/-- Only readable references are read. -/
theorem isReadable_of_read? {text rest : List Char} {r : Reference}
    (h : read? text = some (r, rest)) : r.isReadable = true := by
  unfold read? at h
  split at h
  · split at h
    · cases h
    · next hname =>
        split at h
        · cases h
          exact isName_ofList_leadingName hname
        · split at h
          · cases h
          · next hfield =>
              split at h
              · cases h
                rw [isReadable, isName_ofList_leadingName hname, isName_ofList_leadingName hfield]
                rfl
              · cases h
        · cases h
  · cases h

/-! ### Reading up to a character that no placeholder goes on with -/

/-- A placeholder that has begun does not go on with this character. -/
def isStop (c : Char) : Bool := !isNameChar c && c ≠ '.' && c ≠ '}'

section Stop

variable {stop : Char} (hstop : isStop stop = true)
include hstop

theorem not_isNameChar_of_isStop : isNameChar stop = false := by
  simp only [isStop, Bool.and_eq_true, Bool.not_eq_true'] at hstop
  exact hstop.1.1

/-- Whether a placeholder starts here is known before the next such character. -/
theorem read?_append_stop (c : Char) (text rest : List Char) :
    read? (c :: (text ++ stop :: rest)) =
      (read? (c :: text)).map fun found => (found.1, found.2 ++ stop :: rest) := by
  obtain ⟨⟨-, hdot⟩, hclose⟩ : (isNameChar stop = false ∧ stop ≠ '.') ∧ stop ≠ '}' := by
    simpa [isStop] using hstop
  have ended := leadingName_cons (not_isNameChar_of_isStop hstop) rest
  by_cases hc : c = '{'
  · subst hc
    simp only [read?, leadingName_append ended, afterName_append ended]
    by_cases hname : leadingName text = []
    · simp [hname]
    · simp only [if_neg hname]
      rcases afterName text with _ | ⟨d, tail⟩
      · simp [hdot, hclose]
      · rw [List.cons_append]
        by_cases hd : d = '}'
        · subst hd
          simp
        · by_cases hd' : d = '.'
          · subst hd'
            simp only [leadingName_append ended, afterName_append ended]
            by_cases hfield : leadingName tail = []
            · simp [hfield]
            · simp only [if_neg hfield]
              rcases afterName tail with _ | ⟨e, tail'⟩
              · simp [hclose]
              · rw [List.cons_append]
                by_cases he : e = '}'
                · subst he
                  simp
                · simp [he]
          · simp [hd, hd']
  · simp [read?, hc]

end Stop

end Reference

/-! ## Templates -/

namespace Template

theorem ofChars_of_read? {text rest : List Char} {r : Reference}
    (h : Reference.read? text = some (r, rest)) : ofChars text = .reference r :: ofChars rest := by
  cases text with
  | nil => simp [Reference.read?] at h
  | cons c tail =>
      rw [ofChars]
      split
      · next h' =>
          rw [h] at h'
          cases h'
          rfl
      · next h' =>
          rw [h] at h'
          cases h'

theorem ofChars_of_read?_none {c : Char} {rest : List Char}
    (h : Reference.read? (c :: rest) = none) :
    ofChars (c :: rest) = .literal c :: ofChars rest := by
  rw [ofChars]
  split
  · next h' =>
      rw [h] at h'
      cases h'
  · rfl

theorem ofChars_cons_of_ne {c : Char} (h : c ≠ '{') (rest : List Char) :
    ofChars (c :: rest) = .literal c :: ofChars rest :=
  ofChars_of_read?_none (by simp [Reference.read?, h])

/-- What stands before a character that no placeholder goes on with is read by itself. -/
theorem ofChars_append_stop {stop : Char} (hstop : Reference.isStop stop = true)
    (text rest : List Char) :
    ofChars (text ++ stop :: rest) = ofChars text ++ ofChars (stop :: rest) := by
  fun_induction ofChars text with
  | case1 => rfl
  | case2 c text r tail hread ih =>
      have hread' : Reference.read? (c :: (text ++ stop :: rest)) =
          some (r, tail ++ stop :: rest) := by
        rw [Reference.read?_append_stop hstop, hread]
        rfl
      rw [List.cons_append, ofChars_of_read? hread', ih, List.cons_append]
  | case3 c text hread ih =>
      have hread' : Reference.read? (c :: (text ++ stop :: rest)) = none := by
        rw [Reference.read?_append_stop hstop, hread]
        rfl
      rw [List.cons_append, ofChars_of_read?_none hread', ih, List.cons_append]

theorem render_append (a b : Template) : render (a ++ b) = render a ++ render b := by
  induction a with
  | nil => rfl
  | cons piece rest ih => cases piece <;> simp [render, ih]

theorem render_literals (text : List Char) : render (text.map .literal) = text := by
  induction text with
  | nil => rfl
  | cons c rest ih => rw [List.map_cons, render, ih]

/-- A template starts with literal text, up to its first reference if it has one. -/
theorem exists_literals (template : Template) :
    ∃ text : List Char, template = text.map .literal ∨
      ∃ r rest, template = text.map .literal ++ .reference r :: rest := by
  induction template with
  | nil => exact ⟨[], .inl rfl⟩
  | cons piece rest ih =>
      cases piece with
      | reference r => exact ⟨[], .inr ⟨r, rest, rfl⟩⟩
      | literal c =>
          obtain ⟨text, rfl | ⟨r, rest, rfl⟩⟩ := ih
          · exact ⟨c :: text, .inl rfl⟩
          · exact ⟨c :: text, .inr ⟨r, rest, rfl⟩⟩

variable (replace : Reference → Option Reference)

theorem substitute_append (a b : Template) :
    (a ++ b : Template).substitute replace = a.substitute replace ++ b.substitute replace :=
  List.map_append

theorem substitute_literals (text : List Char) :
    Template.substitute replace (text.map .literal) = text.map .literal := by
  rw [substitute, List.map_map]
  rfl

theorem substitute_cons_reference (r : Reference) (rest : Template) :
    Template.substitute replace (.reference r :: rest) =
      .reference (r.replacedBy replace) :: rest.substitute replace := rfl

theorem read?_cons_render_substitute (c : Char) (template : Template)
    (h : Reference.read? (c :: template.render) = none) :
    Reference.read? (c :: (template.substitute replace).render) = none := by
  obtain ⟨text, rfl | ⟨r, rest, rfl⟩⟩ := exists_literals template
  · rwa [substitute_literals]
  · rw [substitute_append, substitute_literals, substitute_cons_reference, render_append,
      render_literals, render]
    rw [render_append, render_literals, render] at h
    obtain ⟨tail, htail⟩ := r.head_chars
    obtain ⟨tail', htail'⟩ := (r.replacedBy replace).head_chars
    -- Both texts are the same up to the brace of the first reference, where reading stops.
    have brace : Reference.isStop '{' = true := by decide
    rw [htail, List.cons_append, Reference.read?_append_stop brace] at h
    rw [htail', List.cons_append, Reference.read?_append_stop brace, Option.map_eq_none_iff.1 h]
    rfl

/-- Replacing references behind a character does not make it the start of a placeholder. -/
theorem ofChars_cons_render_substitute {c : Char} {rest : List Char}
    (h : Reference.read? (c :: rest) = none) :
    ofChars (c :: ((ofChars rest).substitute replace).render) =
      .literal c :: ofChars ((ofChars rest).substitute replace).render := by
  refine ofChars_of_read?_none (read?_cons_render_substitute replace c (ofChars rest) ?_)
  rwa [render_ofChars]

theorem mem_references_iff (template : Template) (r : Reference) :
    r ∈ template.references ↔ .reference r ∈ template := by
  simp only [references, List.mem_filterMap]
  constructor
  · rintro ⟨piece, hmem, hpiece⟩
    cases piece with
    | literal c => cases hpiece
    | reference r' =>
        cases hpiece
        exact hmem
  · intro h
    exact ⟨_, h, rfl⟩

theorem references_substitute (template : Template) :
    (template.substitute replace).references =
      template.references.map (Reference.replacedBy replace) := by
  induction template with
  | nil => rfl
  | cons piece rest ih =>
      cases piece with
      | literal c => exact ih
      | reference r => exact congrArg _ ih

/-- The references that a text holds are readable. -/
theorem isReadable_of_mem_ofChars {text : List Char} {r : Reference}
    (h : r ∈ (ofChars text).references) : r.isReadable = true := by
  rw [mem_references_iff] at h
  fun_induction ofChars text with
  | case1 => cases h
  | case2 c rest reference tail hread ih =>
      rcases List.mem_cons.1 h with h | h
      · cases h
        exact Reference.isReadable_of_read? hread
      · exact ih h
  | case3 c rest hread ih =>
      rcases List.mem_cons.1 h with h | h
      · cases h
      · exact ih h

/-- No placeholder begins in a text without opening braces. -/
theorem references_append_of_not_mem {text : List Char} (h : '{' ∉ text) (rest : List Char) :
    (ofChars (text ++ rest)).references = (ofChars rest).references := by
  induction text with
  | nil => rfl
  | cons c text ih =>
      rw [List.mem_cons, not_or] at h
      rw [List.cons_append, ofChars_cons_of_ne (Ne.symm h.1)]
      exact ih h.2

theorem references_ofChars_of_not_mem {text : List Char} (h : '{' ∉ text) :
    (ofChars text).references = [] := by
  have whole := references_append_of_not_mem h []
  rwa [List.append_nil, ofChars] at whole

/-- A text whose references are replaced by readable ones is read as its template with the
references replaced. -/
theorem ofChars_substitute {text : List Char}
    (readable : ∀ r ∈ (ofChars text).references, (r.replacedBy replace).isReadable = true) :
    ofChars ((ofChars text).substitute replace).render = (ofChars text).substitute replace := by
  fun_induction ofChars text with
  | case1 => rw [substitute, List.map_nil, render, ofChars]
  | case2 c rest r tail hread ih =>
      have here := readable r ((mem_references_iff _ r).2 (List.mem_cons_self ..))
      have there : ∀ s ∈ (ofChars tail).references, (s.replacedBy replace).isReadable = true := by
        intro s hs
        refine readable s ((mem_references_iff _ s).2 (List.mem_cons_of_mem _ ?_))
        exact (mem_references_iff _ s).1 hs
      rw [substitute_cons_reference, render,
        ofChars_of_read? (Reference.read?_chars_append here _), ih there]
  | case3 c rest hread ih =>
      have there : ∀ s ∈ (ofChars rest).references, (s.replacedBy replace).isReadable = true := by
        intro s hs
        refine readable s ((mem_references_iff _ s).2 (List.mem_cons_of_mem _ ?_))
        exact (mem_references_iff _ s).1 hs
      have rewritten := ofChars_cons_render_substitute replace hread
      rw [ih there] at rewritten
      exact rewritten

theorem substitute_substitute (first second : Reference → Option Reference)
    (template : Template) :
    (template.substitute first).substitute second =
      template.substitute (Reference.replaceTwice first second) := by
  simp only [substitute, List.map_map]
  refine List.map_congr_left fun piece _ => ?_
  cases piece <;> rfl

theorem substitute_congr {first second : Reference → Option Reference} {template : Template}
    (h : ∀ r ∈ template.references, r.replacedBy first = r.replacedBy second) :
    template.substitute first = template.substitute second := by
  refine List.map_congr_left fun piece hmem => ?_
  cases piece with
  | literal c => rfl
  | reference r => exact congrArg _ (h r ((mem_references_iff _ r).2 hmem))

theorem substitute_none (template : Template) : template.substitute (fun _ => none) = template := by
  refine (List.map_congr_left fun piece _ => ?_).trans (List.map_id _)
  cases piece <;> rfl

theorem substitute_eq_self {template : Template} (h : template.references = []) :
    template.substitute replace = template :=
  (substitute_congr (by simp [h])).trans (substitute_none template)

theorem fill_substitute (resolve : Reference → Except ResolveError Json) (template : Template) :
    (template.substitute replace).fill resolve =
      template.fill fun r => resolve (r.replacedBy replace) := by
  induction template with
  | nil => rfl
  | cons piece rest ih =>
      cases piece with
      | literal c => exact congrArg (Except.map (c :: ·)) ih
      | reference r =>
          rw [substitute_cons_reference, fill, fill, ih]

end Template

/-! ## Texts -/

section Texts

variable {replace : Reference → Option Reference} {text : String}

theorem isReadable_of_mem_referencesInText {r : Reference} (h : r ∈ referencesInText text) :
    r.isReadable = true :=
  Template.isReadable_of_mem_ofChars h

theorem ofText_substituteText
    (readable : ∀ r ∈ referencesInText text, (r.replacedBy replace).isReadable = true) :
    Template.ofText (substituteText replace text) = (Template.ofText text).substitute replace := by
  rw [substituteText, Template.ofText, String.toList_ofList]
  exact Template.ofChars_substitute replace readable

theorem referencesInText_substituteText
    (readable : ∀ r ∈ referencesInText text, (r.replacedBy replace).isReadable = true) :
    referencesInText (substituteText replace text) =
      (referencesInText text).map (Reference.replacedBy replace) := by
  rw [referencesInText, ofText_substituteText readable, Template.references_substitute]
  rfl

/-- Two replacements in a row are one. -/
theorem substituteText_substituteText (second : Reference → Option Reference)
    (readable : ∀ r ∈ referencesInText text, (r.replacedBy replace).isReadable = true) :
    substituteText second (substituteText replace text) =
      substituteText (Reference.replaceTwice replace second) text := by
  rw [substituteText, ofText_substituteText readable, Template.substitute_substitute]
  rfl

theorem substituteText_congr {first second : Reference → Option Reference}
    (h : ∀ r ∈ referencesInText text, r.replacedBy first = r.replacedBy second) :
    substituteText first text = substituteText second text :=
  congrArg (fun template => String.ofList (Template.render template)) (Template.substitute_congr h)

theorem substituteText_eq_self (h : referencesInText text = []) :
    substituteText replace text = text := by
  rw [substituteText, Template.substitute_eq_self _ h, Template.ofText,
    Template.render_ofChars, String.ofList_toList]

end Texts

/-- Trimming takes away nothing but white space. -/
theorem mem_trim {c : Char} {text : List Char} (h : c ∈ text) (hc : isBlank c = false) :
    c ∈ trim text := by
  have kept : ∀ l : List Char, c ∈ l → c ∈ l.dropWhile isBlank := by
    intro l hl
    rw [← List.takeWhile_append_dropWhile (p := isBlank) (l := l)] at hl
    refine (List.mem_append.1 hl).resolve_left fun hmem => ?_
    have := List.all_eq_true.1 List.all_takeWhile c hmem
    simp [hc] at this
  rw [trim, trimWhile, dropEndWhile, List.mem_reverse]
  exact kept _ (List.mem_reverse.2 (kept text h))

/-- What stands in no catch-all word stands in no catch-all label. -/
theorem not_mem_of_isCatchAll {label : String} (h : isCatchAll label = true) {c : Char}
    (hc : isBlank c = false)
    (free : ∀ word ∈ catchAllWords, c.toLower ∉ word.toList.map Char.toLower) :
    c ∉ label.toList := by
  obtain ⟨word, hword, heq⟩ := List.any_eq_true.1 h
  intro hmem
  have lower := List.mem_map_of_mem (f := Char.toLower) (mem_trim hmem hc)
  rw [of_decide_eq_true heq] at lower
  exact free word hword lower

theorem referencesInText_of_isCatchAll {label : String} (h : isCatchAll label = true) :
    referencesInText label = [] :=
  Template.references_ofChars_of_not_mem (not_mem_of_isCatchAll h (by decide) (by decide))

/-! ## Values -/

theorem Json.mapFieldStrings_eq_map (f : String → String) (fields : List (String × Json)) :
    Json.mapFieldStrings f fields = fields.map fun p => (p.1, p.2.mapStrings f) := by
  induction fields with
  | nil => rfl
  | cons field rest ih => rw [Json.mapFieldStrings, ih, List.map_cons]

mutual

theorem Json.strings_mapStrings (f : String → String) : ∀ value : Json,
    (value.mapStrings f).strings = value.strings.map f
  | .null | .bool _ | .int _ | .float _ | .text _ => rfl
  | .array items => Json.itemStrings_mapItemStrings f items
  | .object fields => Json.fieldStrings_mapFieldStrings f fields

theorem Json.itemStrings_mapItemStrings (f : String → String) : ∀ items : List Json,
    Json.itemStrings (Json.mapItemStrings f items) = (Json.itemStrings items).map f
  | [] => rfl
  | item :: rest => by
      rw [Json.mapItemStrings, Json.itemStrings, Json.itemStrings, List.map_append,
        Json.strings_mapStrings f item, Json.itemStrings_mapItemStrings f rest]

theorem Json.fieldStrings_mapFieldStrings (f : String → String) :
    ∀ fields : List (String × Json),
      Json.fieldStrings (Json.mapFieldStrings f fields) = (Json.fieldStrings fields).map f
  | [] => rfl
  | (key, value) :: rest => by
      rw [Json.mapFieldStrings, Json.fieldStrings, Json.fieldStrings, List.map_append,
        Json.strings_mapStrings f value, Json.fieldStrings_mapFieldStrings f rest]

end

mutual

theorem Json.mapStrings_mapStrings (f g : String → String) : ∀ value : Json,
    (value.mapStrings f).mapStrings g = value.mapStrings (g ∘ f)
  | .null | .bool _ | .int _ | .float _ | .text _ => rfl
  | .array items => congrArg Json.array (Json.mapItemStrings_mapItemStrings f g items)
  | .object fields => congrArg Json.object (Json.mapFieldStrings_mapFieldStrings f g fields)

theorem Json.mapItemStrings_mapItemStrings (f g : String → String) : ∀ items : List Json,
    Json.mapItemStrings g (Json.mapItemStrings f items) = Json.mapItemStrings (g ∘ f) items
  | [] => rfl
  | item :: rest => by
      simp only [Json.mapItemStrings, Json.mapStrings_mapStrings f g item,
        Json.mapItemStrings_mapItemStrings f g rest]

theorem Json.mapFieldStrings_mapFieldStrings (f g : String → String) :
    ∀ fields : List (String × Json),
      Json.mapFieldStrings g (Json.mapFieldStrings f fields) = Json.mapFieldStrings (g ∘ f) fields
  | [] => rfl
  | (key, value) :: rest => by
      simp only [Json.mapFieldStrings, Json.mapStrings_mapStrings f g value,
        Json.mapFieldStrings_mapFieldStrings f g rest]

end

mutual

/-- Only the strings of a value count for what replaces them. -/
theorem Json.mapStrings_congr {f g : String → String} : ∀ value : Json,
    (∀ s ∈ value.strings, f s = g s) → value.mapStrings f = value.mapStrings g
  | .null, _ | .bool _, _ | .int _, _ | .float _, _ => rfl
  | .text s, h => congrArg Json.text (h s (List.mem_singleton_self s))
  | .array items, h => congrArg Json.array (Json.mapItemStrings_congr items h)
  | .object fields, h => congrArg Json.object (Json.mapFieldStrings_congr fields h)

theorem Json.mapItemStrings_congr {f g : String → String} : ∀ items : List Json,
    (∀ s ∈ Json.itemStrings items, f s = g s) →
      Json.mapItemStrings f items = Json.mapItemStrings g items
  | [], _ => rfl
  | item :: rest, h => by
      rw [Json.mapItemStrings, Json.mapItemStrings,
        Json.mapStrings_congr item fun s hs => h s (List.mem_append_left _ hs),
        Json.mapItemStrings_congr rest fun s hs => h s (List.mem_append_right _ hs)]

theorem Json.mapFieldStrings_congr {f g : String → String} : ∀ fields : List (String × Json),
    (∀ s ∈ Json.fieldStrings fields, f s = g s) →
      Json.mapFieldStrings f fields = Json.mapFieldStrings g fields
  | [], _ => rfl
  | (key, value) :: rest, h => by
      rw [Json.mapFieldStrings, Json.mapFieldStrings,
        Json.mapStrings_congr value fun s hs => h s (List.mem_append_left _ hs),
        Json.mapFieldStrings_congr rest fun s hs => h s (List.mem_append_right _ hs)]

end

section Values

variable {replace : Reference → Option Reference} {value : Json}

theorem mem_referencesInText_of_mem_strings {s : String} {r : Reference} (hs : s ∈ value.strings)
    (hr : r ∈ referencesInText s) : r ∈ referencesInValue value :=
  List.mem_flatMap.2 ⟨s, hs, hr⟩

theorem referencesInValue_substituteValue
    (readable : ∀ r ∈ referencesInValue value, (r.replacedBy replace).isReadable = true) :
    referencesInValue (substituteValue replace value) =
      (referencesInValue value).map (Reference.replacedBy replace) := by
  rw [referencesInValue, substituteValue, Json.strings_mapStrings, List.flatMap_map,
    referencesInValue, List.map_flatMap]
  refine List.flatMap_congr fun s hs => referencesInText_substituteText fun r hr => ?_
  exact readable r (mem_referencesInText_of_mem_strings hs hr)

theorem substituteValue_substituteValue (second : Reference → Option Reference)
    (readable : ∀ r ∈ referencesInValue value, (r.replacedBy replace).isReadable = true) :
    substituteValue second (substituteValue replace value) =
      substituteValue (Reference.replaceTwice replace second) value := by
  rw [substituteValue, substituteValue, Json.mapStrings_mapStrings, substituteValue]
  refine Json.mapStrings_congr value fun s hs => ?_
  refine substituteText_substituteText second fun r hr => ?_
  exact readable r (mem_referencesInText_of_mem_strings hs hr)

theorem substituteValue_congr {first second : Reference → Option Reference}
    (h : ∀ r ∈ referencesInValue value, r.replacedBy first = r.replacedBy second) :
    substituteValue first value = substituteValue second value := by
  refine Json.mapStrings_congr value fun s hs => substituteText_congr fun r hr => ?_
  exact h r (mem_referencesInText_of_mem_strings hs hr)

end Values

/-! ## Actions -/

section Actions

variable {replace : Reference → Option Reference} {action : Action}

theorem Action.substitute_eq_final_iff (action : Action)
    (replace : Reference → Option Reference) :
    action.substitute replace = .final ↔ action = .final := by
  cases action <;> simp [Action.substitute]

/-- The parameters of a tool keep their names. -/
theorem Action.exists_of_substitute_eq_tool {action : Action} {name : String} {parameters : Fields}
    (h : action.substitute replace = .tool name parameters) :
    ∃ original, action = .tool name original ∧
      ∀ key, parameters.contains key = original.contains key := by
  cases action with
  | reasoning prompt => cases h
  | final => cases h
  | tool name' original =>
      cases h
      exact ⟨original, rfl, Dict.contains_map _ original⟩

theorem Action.isReadable_of_mem_references {r : Reference} (h : r ∈ action.references) :
    r.isReadable = true := by
  cases action with
  | final => cases h
  | reasoning prompt => exact isReadable_of_mem_referencesInText h
  | tool name parameters =>
      obtain ⟨value, _, hr⟩ := List.mem_flatMap.1 h
      obtain ⟨text, _, hr⟩ := List.mem_flatMap.1 hr
      exact isReadable_of_mem_referencesInText hr

theorem Action.references_substitute
    (readable : ∀ r ∈ action.references, (r.replacedBy replace).isReadable = true) :
    (action.substitute replace).references =
      action.references.map (Reference.replacedBy replace) := by
  cases action with
  | final => rfl
  | reasoning prompt => exact referencesInText_substituteText readable
  | tool name parameters =>
      simp only [Action.substitute, Action.references, Dict.values_map, List.flatMap_map,
        List.map_flatMap]
      refine List.flatMap_congr fun value hvalue => referencesInValue_substituteValue fun r hr => ?_
      exact readable r (List.mem_flatMap.2 ⟨value, hvalue, hr⟩)

theorem Action.substitute_substitute (second : Reference → Option Reference)
    (readable : ∀ r ∈ action.references, (r.replacedBy replace).isReadable = true) :
    (action.substitute replace).substitute second =
      action.substitute (Reference.replaceTwice replace second) := by
  cases action with
  | final => rfl
  | reasoning prompt =>
    exact congrArg Action.reasoning (substituteText_substituteText second readable)
  | tool name parameters =>
      simp only [Action.substitute, Dict.map_map]
      refine congrArg (Action.tool name) (Dict.map_congr fun value hvalue => ?_)
      refine substituteValue_substituteValue second fun r hr => ?_
      exact readable r (List.mem_flatMap.2 ⟨value, hvalue, hr⟩)

theorem Action.substitute_congr {first second : Reference → Option Reference}
    (h : ∀ r ∈ action.references, r.replacedBy first = r.replacedBy second) :
    action.substitute first = action.substitute second := by
  cases action with
  | final => rfl
  | reasoning prompt => exact congrArg Action.reasoning (substituteText_congr h)
  | tool name parameters =>
      refine congrArg (Action.tool name) (Dict.map_congr fun value hvalue => ?_)
      refine substituteValue_congr fun r hr => ?_
      exact h r (List.mem_flatMap.2 ⟨value, hvalue, hr⟩)

end Actions

end Workflow
