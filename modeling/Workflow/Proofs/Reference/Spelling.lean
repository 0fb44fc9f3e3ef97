import Workflow.Proofs.Reference.Substitution

/-!
# What is read where references were replaced

A reference that is written in place of another one is read again if its names are there and made of
characters of names. If one of them is empty, nothing is read from it, and its text takes part in no
other placeholder. So a text in which references were replaced holds only ones that were put in.

Main statement: `Action.exists_of_mem_references_substitute`.
-/

namespace Workflow

open Text

namespace Reference

/-- The names of the reference are made of characters of names, and may be empty. -/
def IsPlain : Reference → Prop
  | .output step field =>
      (∀ c ∈ step.toList, isNameChar c = true) ∧ ∀ c ∈ field.toList, isNameChar c = true
  | .artifact name => ∀ c ∈ name.toList, isNameChar c = true

theorem isPlain_of_isReadable {r : Reference} (h : r.isReadable = true) : r.IsPlain := by
  cases r with
  | artifact name => exact ((isName_iff name).1 h).2
  | output step field =>
      obtain ⟨hstep, hfield⟩ : isName step = true ∧ isName field = true := by
        simpa [isReadable] using h
      exact ⟨((isName_iff step).1 hstep).2, ((isName_iff field).1 hfield).2⟩

theorem toList_eq_nil_of_not_isName {name : String}
    (chars : ∀ c ∈ name.toList, isNameChar c = true) (h : isName name ≠ true) :
    name.toList = [] := by
  by_contra hne
  exact h ((isName_iff name).2 ⟨hne, chars⟩)

/-- Reading a plain reference that cannot be read stops at its empty name. -/
theorem read?_chars_append_of_not_readable {r : Reference} (plain : r.IsPlain)
    (h : r.isReadable ≠ true) (rest : List Char) : read? (r.chars ++ rest) = none := by
  have brace := leadingName_cons (c := '}') (by decide) rest
  cases r with
  | artifact name =>
      have empty := toList_eq_nil_of_not_isName plain h
      simp only [chars, empty, List.nil_append, List.cons_append, read?, if_pos brace]
  | output step field =>
      obtain ⟨hstep, hfield⟩ := plain
      have point := leadingName_cons (c := '.') (by decide) (field.toList ++ '}' :: rest)
      simp only [chars, List.cons_append, List.append_assoc, List.nil_append, read?]
      by_cases named : isName step = true
      · have unnamed : isName field ≠ true := by
          intro hname
          exact h (by simp [isReadable, named, hname])
        have empty := toList_eq_nil_of_not_isName hfield unnamed
        obtain ⟨leading, after⟩ := leadingName_isName_append point named
        rw [leading, after, if_neg ((isName_iff step).1 named).1, empty]
        exact if_pos brace
      · rw [toList_eq_nil_of_not_isName hstep named, List.nil_append, if_pos point]

/-- Only the first character of a plain reference can begin a placeholder. -/
theorem exists_chars_of_isPlain {r : Reference} (plain : r.IsPlain) :
    ∃ body, r.chars = '{' :: body ∧ '{' ∉ body := by
  have brace : isNameChar '{' = false := by decide
  have apart : ∀ {name : String}, (∀ c ∈ name.toList, isNameChar c = true) →
      '{' ∉ name.toList := by
    intro name hname hmem
    rw [hname _ hmem] at brace
    cases brace
  cases r with
  | artifact name => exact ⟨_, rfl, by simp [apart plain]⟩
  | output step field => exact ⟨_, rfl, by simp [apart plain.1, apart plain.2]⟩

end Reference

namespace Template

/-- A plain reference in writing is read as itself or not at all. -/
theorem references_ofChars_chars_append {r : Reference} (plain : r.IsPlain) (rest : List Char) :
    (ofChars (r.chars ++ rest)).references =
      if r.isReadable = true then r :: (ofChars rest).references
      else (ofChars rest).references := by
  split
  · next readable =>
      rw [ofChars_of_read? (Reference.read?_chars_append readable rest)]
      rfl
  · next unreadable =>
      have hread := Reference.read?_chars_append_of_not_readable plain unreadable rest
      obtain ⟨body, hchars, free⟩ := Reference.exists_chars_of_isPlain plain
      rw [hchars, List.cons_append] at hread ⊢
      rw [ofChars_of_read?_none hread]
      exact references_append_of_not_mem free rest

variable {replace : Reference → Option Reference}

/-- Where all references of a text are replaced by plain ones, the readable ones among these are
read. -/
theorem references_ofChars_substitute {text : List Char}
    (plain : ∀ r ∈ (ofChars text).references, (r.replacedBy replace).IsPlain) :
    (ofChars ((ofChars text).substitute replace).render).references =
      ((ofChars text).references.map (Reference.replacedBy replace)).filter
        (·.isReadable) := by
  fun_induction ofChars text with
  | case1 => simp [substitute, render, ofChars, references]
  | case2 c rest r tail hread ih =>
      have split : (Template.references (.reference r :: ofChars tail)) =
        r :: (ofChars tail).references := rfl
      rw [split] at plain ⊢
      obtain ⟨here, there⟩ := List.forall_mem_cons.1 plain
      rw [substitute_cons_reference, render, references_ofChars_chars_append here, ih there,
        List.map_cons, List.filter_cons]
  | case3 c rest hread ih =>
      have rewritten := ofChars_cons_render_substitute replace hread
      exact (congrArg references rewritten).trans (ih plain)

end Template

section Substitution

variable {replace : Reference → Option Reference}

theorem referencesInText_substituteText_of_isPlain {text : String}
    (plain : ∀ r ∈ referencesInText text, (r.replacedBy replace).IsPlain) :
    referencesInText (substituteText replace text) =
      ((referencesInText text).map (Reference.replacedBy replace)).filter (·.isReadable) := by
  rw [substituteText, referencesInText, Template.ofText, String.toList_ofList]
  exact Template.references_ofChars_substitute plain

theorem exists_of_mem_referencesInText {text : String} {s : Reference}
    (plain : ∀ r ∈ referencesInText text, (r.replacedBy replace).IsPlain)
    (h : s ∈ referencesInText (substituteText replace text)) :
    ∃ r ∈ referencesInText text, r.replacedBy replace = s := by
  rw [referencesInText_substituteText_of_isPlain plain] at h
  exact List.mem_map.1 (List.mem_filter.1 h).1

/-- Every reference of an action with its references replaced by plain ones is one of these. -/
theorem Action.exists_of_mem_references_substitute {action : Action} {s : Reference}
    (plain : ∀ r ∈ action.references, (r.replacedBy replace).IsPlain)
    (h : s ∈ (action.substitute replace).references) :
    ∃ r ∈ action.references, r.replacedBy replace = s := by
  cases action with
  | final => cases h
  | reasoning prompt => exact exists_of_mem_referencesInText plain h
  | tool name parameters =>
      simp only [Action.substitute, Action.references, Dict.values_map, List.flatMap_map] at h
      obtain ⟨value, hvalue, h⟩ := List.mem_flatMap.1 h
      rw [referencesInValue, substituteValue, Json.strings_mapStrings] at h
      obtain ⟨_, hwritten, h⟩ := List.mem_flatMap.1 h
      obtain ⟨text, htext, rfl⟩ := List.mem_map.1 hwritten
      have within : ∀ r ∈ referencesInText text, r ∈ (Action.tool name parameters).references :=
        fun r hr => List.mem_flatMap.2 ⟨value, hvalue, mem_referencesInText_of_mem_strings htext hr⟩
      obtain ⟨r, hr, hs⟩ := exists_of_mem_referencesInText (fun r hr => plain r (within r hr)) h
      exact ⟨r, within r hr, hs⟩

end Substitution

end Workflow
