import Workflow.Proofs.Condition.Placeholders
import Workflow.Proofs.Condition.Recovery
import Workflow.Proofs.Merge.Label

/-!
# Joined labels are told apart

A step of a joined graph must not have one label twice. Placeholders get their new names by an
injective rule, and that a text is a condition after that says that it was one before. The new names
of the other paths can be taken back with the paths that the joined label reads. So labels that
differ are joined to labels that differ, and a joined label reads nothing but what the label read,
under its new name.

Main statements: `scopedLabel_inj` and `exists_of_labelReads_scopedLabel`.
-/

namespace Workflow

open Condition

/-! ## Definitions -/

namespace Fragment

/-- The step of the fragment that has this new name. -/
def oldName? (fragment : Fragment) (position : Nat) (new : String) : Option String :=
  fragment.graph.ids.find? fun id => scopedName id (position + 1) = new

theorem oldName?_scopedName {fragment : Fragment} {id : String}
    (h : fragment.graph.contains id = true) (position : Nat) :
    fragment.oldName? position (scopedName id (position + 1)) = some id := by
  obtain ⟨old, hold⟩ :
      ∃ old, fragment.oldName? position (scopedName id (position + 1)) = some old :=
    Option.isSome_iff_exists.1
      (List.find?_isSome.2 ⟨id, (Graph.mem_ids_iff _ id).2 h, by simp⟩)
  have same : scopedName old (position + 1) = scopedName id (position + 1) := by
    simpa using List.find?_some hold
  rw [hold, (scopedName_inj same).1]

theorem isTame_oldName (paths : List Path) (fragment : Fragment) (position : Nat) :
    IsTame (renameWord paths (fragment.oldName? position)) := by
  refine isTame_renameWord fun {new old} hold hword c hc => hword c ?_
  have same : scopedName old (position + 1) = new := by simpa using List.find?_some hold
  rw [← same, toList_scopedName]
  exact List.mem_append_left _ hc

end Fragment

/-! ## The first pass -/

section Placeholders

variable (position : Nat)

theorem joinedOutput_inj (r s : Reference)
    (h : r.replacedBy (joinedOutput position) = s.replacedBy (joinedOutput position)) : r = s := by
  cases r with
  | artifact name => cases s <;> cases h; rfl
  | output step field =>
      cases s with
      | artifact name => cases h
      | output step' field' =>
          obtain ⟨hstep, rfl⟩ := Reference.output.inj h
          rw [(scopedName_inj hstep).1]

/-- What is undone is undone to something that can be spelled. -/
theorem isReadable_undo {label : String} {replace : Reference → Option Reference} (r : Reference)
    (readable : r.isReadable = true) :
    (r.replacedBy (undoAmong (referencesInText label) replace)).isReadable = true := by
  rw [Reference.replacedBy]
  cases hold : undoAmong (referencesInText label) replace r with
  | none => exact readable
  | some old => exact isReadable_of_mem_referencesInText (List.mem_of_find?_eq_some hold)

theorem restored_placeholders (label : String) :
    substituteText (undoAmong (referencesInText label) (joinedOutput position))
      (substituteText (joinedOutput position) label) = label :=
  substituteText_undoAmong
    (fun r hr => isReadable_joinedOutput position r (isReadable_of_mem_referencesInText hr))
    (joinedOutput_inj position)

/-- Different labels stay different. -/
theorem substituteText_joinedOutput_inj {a b : String}
    (h : substituteText (joinedOutput position) a = substituteText (joinedOutput position) b) :
    a = b := by
  have readable : ∀ label : String, ∀ r ∈ referencesInText label,
      (r.replacedBy (joinedOutput position)).isReadable = true := fun _ r hr =>
    isReadable_joinedOutput position r (isReadable_of_mem_referencesInText hr)
  -- They have the same placeholders, so that both are restored in one way.
  have same : referencesInText a = referencesInText b := by
    refine List.map_injective_iff.2 (joinedOutput_inj position) ?_
    rw [← referencesInText_substituteText (readable a), h,
      referencesInText_substituteText (readable b)]
  rw [← restored_placeholders position a, h, same, restored_placeholders]

/-- Placeholders with new names make no condition of a label. -/
theorem exists_parse_of_substituteText {label : String} {e : Condition}
    (h : parse (substituteText (joinedOutput position) label) = .ok e) :
    ∃ e', parse label = .ok e' := by
  have outputs : ∀ step field, ∃ step' field',
      (Reference.output step field).replacedBy
        (undoAmong (referencesInText label) (joinedOutput position)) = .output step' field' := by
    intro step field
    rw [Reference.replacedBy]
    cases hold :
      undoAmong (referencesInText label) (joinedOutput position) (.output step field) with
    | none => exact ⟨step, field, rfl⟩
    | some old =>
        have same : old.replacedBy (joinedOutput position) = .output step field := by
          simpa using List.find?_some hold
        cases old with
        | output step' field' => exact ⟨step', field', rfl⟩
        | artifact name => cases same
  obtain ⟨e', he'⟩ := exists_parse_substituteText (fun r => isReadable_undo r) outputs h
  rw [restored_placeholders] at he'
  exact ⟨e', he'⟩

end Placeholders

/-! ## The second pass -/

section Restored

variable {fragment : Fragment} {position : Nat}

/-- The paths of the condition, under their new names, suffice to take the new names back. -/
theorem restored_path {paths new : List Path} {path : Path} (names : HasNames path)
    (hstep : fragment.graph.contains path.step = true) {text : List Char}
    (h : SpellsPath path (Text.trim text))
    (told : ∀ path', HasNames path' →
      SpellsPath path' (Text.trim (firstPass position text)) → path' ∈ paths)
    (hnew : fragment.joinedPath position path ∈ new) :
    mapWords (renameWord new (fragment.oldName? position))
      (secondPass paths fragment position (firstPass position text)) = firstPass position text := by
  have names' := hasNames_joinedPath position names hstep
  have back : renameWord new (fragment.oldName? position) false
      (fragment.joinedPath position path).text.toList = path.text.toList := by
    refine renameTokens_text new _ names' hnew ?_
    rw [Fragment.joinedPath, Fragment.newName_of_contains hstep]
    exact Fragment.oldName?_scopedName hstep position
  refine restored_of_trim ?_
  have trimmed : Text.trim (firstPass position text) = firstPass position (Text.trim text) :=
    trim_mapWords (isTame_joinedOutput position) text
  rw [trimmed] at told ⊢
  generalize Text.trim text = raw at h told ⊢
  cases h with
  | bare =>
      rw [firstPass_bare position names] at told ⊢
      have there := renameWord_joinedPath position names hstep (told path names .bare)
      rw [mapWords_bare names there, mapWords_bare names' back]
  | placeholder hinner =>
      rw [firstPass_placeholder position names hstep,
        mapWords_placeholder names' (renameTokens_placeholder _ _ names' hinner),
        mapWords_placeholder names' (renameTokens_placeholder _ _ names' hinner)]
  | apart hbefore hafter blank blank' =>
      rw [firstPass_apart position names hbefore blank blank'] at told ⊢
      have there := renameWord_joinedPath position names hstep
        (told path names (.apart hbefore hafter blank blank'))
      obtain ⟨opening, closing⟩ := renameTokens_brace paths (fragment.newName? position)
      obtain ⟨opening', closing'⟩ := renameTokens_brace new (fragment.oldName? position)
      rw [mapWords_apart names opening closing there hbefore hafter blank blank',
        mapWords_apart names' opening' closing' back hbefore hafter blank blank']

theorem restored_literal {paths new all : List Path} (within : ∀ path ∈ paths, path ∈ all)
    (within' : ∀ path ∈ new, path ∈ all) {text : List Char} (h : IsSparedLiteral all text) :
    mapWords (renameWord new (fragment.oldName? position))
      (secondPass paths fragment position (firstPass position text)) = firstPass position text := by
  have tame := isTame_joinedOutput position
  rcases h with ⟨quote, inner, hquote, hinner, htrim⟩ | ⟨noReferences, absent⟩
  · have unquoted := quote_not_mem_render_substitute tame hquote hinner
    refine restored_of_trim ?_
    rw [firstPass, trim_mapWords tame, htrim, mapWords_substituteWord_quoted hquote,
      mapWords_renameWord_quoted hquote unquoted, mapWords_renameWord_quoted hquote unquoted]
  · rw [firstPass, mapWords_substituteWord_eq_self noReferences, secondPass,
      mapWords_renameWord_eq_self fun path hpath => absent path (within path hpath),
      mapWords_renameWord_eq_self fun path hpath => absent path (within' path hpath)]

/-- What the second pass does to a visible label can be taken back. -/
theorem restored_secondPass {label : String} {o : Outline} {e : Condition}
    (he : o.read? = some e)
    (visible : o.IsVisible (e.paths ++ e.paths.map (fragment.joinedPath position)))
    (own : ∀ path ∈ e.paths, fragment.graph.contains path.step = true)
    (outline : IsOutline label.toList o) :
    mapWords (renameWord (e.paths.map (fragment.joinedPath position)) (fragment.oldName? position))
      (fragment.scopedLabel position label).toList =
        (substituteText (joinedOutput position) label).toList := by
  obtain ⟨paths, within, told, outline₁, written⟩ :=
    exists_secondPass_scopedLabel he visible own outline
  rw [written, substituteText_eq_mapWords]
  refine outline₁.restored (isTame_newName ..) (Fragment.isTame_oldName ..) fun c' hc' => ?_
  rw [Outline.comparisons_map] at hc'
  obtain ⟨c, hc, rfl⟩ := List.mem_map.1 hc'
  obtain ⟨path, hmem, _, names, h⟩ := exists_path_of_isVisible he visible hc
  constructor
  · exact restored_path names (own path hmem) h (told c hc) (List.mem_map_of_mem hmem)
  · exact restored_literal within (fun path hpath => List.mem_append_right _ hpath) (visible c hc).2

end Restored

/-! ## Both passes -/

section Scoped

variable {fragment : Fragment} {position : Nat} {label : String}

/-- A visible label that is a condition is one with the new names, in its literals too. -/
theorem parse_scopedLabel (visible : fragment.IsVisibleLabel position label)
    (own : fragment.OwnsPaths label) {e : Condition} (h : parse label = .ok e) :
    parse (fragment.scopedLabel position label) = .ok (rewrite (fragment.joinedPath position)
      (mapText (substituteText (joinedOutput position))) e) := by
  obtain ⟨o, outline, visible⟩ := visible e h
  refine parse_scopedLabel_of_read (outline.read?_eq_some h) visible (own e h) outline ?_
  intro paths within c hc literal hliteral
  have spared : IsSparedLiteral paths c.2 :=
    (visible c hc).2.imp_right fun ⟨noReferences, absent⟩ =>
      ⟨noReferences, fun path hpath => absent path (within path hpath)⟩
  exact parseLiteral_of_spared (isTame_newName paths fragment position)
    (isTame_joinedOutput position) spared hliteral

/-- A label that is no condition has its placeholders replaced, and does not become one by that. -/
theorem scopedLabel_of_error {x : ParseError} (h : parse label = .error x) :
    fragment.scopedLabel position label = substituteText (joinedOutput position) label ∧
      ∀ e, parse (fragment.scopedLabel position label) ≠ .ok e := by
  have still : ∀ e, parse (substituteText (joinedOutput position) label) ≠ .ok e := by
    intro e he
    obtain ⟨e', he'⟩ := exists_parse_of_substituteText position he
    rw [h] at he'
    cases he'
  have same : fragment.scopedLabel position label =
      substituteText (joinedOutput position) label := by
    rw [Fragment.scopedLabel, renameSteps]
    split
    · next e he => exact absurd he (still e)
    · rfl
  exact ⟨same, same ▸ still⟩

/-- The label with its new names is a condition just if it was one. -/
theorem exists_parse_of_scopedLabel {e : Condition}
    (h : parse (fragment.scopedLabel position label) = .ok e) : ∃ e', parse label = .ok e' := by
  cases hparse : parse label with
  | ok e' => exact ⟨e', rfl⟩
  | error x => exact absurd h ((scopedLabel_of_error hparse).2 e)

theorem parse?_scopedLabel (visible : fragment.IsVisibleLabel position label)
    (own : fragment.OwnsPaths label) :
    parse? (fragment.scopedLabel position label) =
      (parse? label).map (rewrite (fragment.joinedPath position)
        (mapText (substituteText (joinedOutput position)))) := by
  rw [parse?, parse?]
  cases hparse : parse label with
  | ok e =>
      rw [parse_scopedLabel visible own hparse]
      rfl
  | error x =>
      cases hscoped : parse (fragment.scopedLabel position label) with
      | error y => rfl
      | ok e' => exact absurd hscoped ((scopedLabel_of_error hparse).2 e')

/-- What the label was before the second pass can be told from the label and what it reads. -/
theorem restored_scopedLabel (visible : fragment.IsVisibleLabel position label)
    (own : fragment.OwnsPaths label) {e' : Condition}
    (h : parse (fragment.scopedLabel position label) = .ok e') :
    mapWords (renameWord e'.paths (fragment.oldName? position))
      (fragment.scopedLabel position label).toList =
        (substituteText (joinedOutput position) label).toList := by
  obtain ⟨e, he⟩ := exists_parse_of_scopedLabel h
  rw [parse_scopedLabel visible own he] at h
  cases h
  obtain ⟨o, outline, hvisible⟩ := visible e he
  rw [paths_rewrite]
  exact restored_secondPass (outline.read?_eq_some he) hvisible (own e he) outline

/-- Labels that differ are still different with their new names. -/
theorem scopedLabel_inj {a b : String} (visible : fragment.IsVisibleLabel position a)
    (visible' : fragment.IsVisibleLabel position b) (own : fragment.OwnsPaths a)
    (own' : fragment.OwnsPaths b)
    (h : fragment.scopedLabel position a = fragment.scopedLabel position b) : a = b := by
  -- It is enough to have the placeholders of both labels back.
  refine substituteText_joinedOutput_inj position ?_
  have unread : ∀ {label : String}, fragment.IsVisibleLabel position label →
      fragment.OwnsPaths label → ∀ {x : ParseError},
      parse (fragment.scopedLabel position label) = .error x →
        fragment.scopedLabel position label = substituteText (joinedOutput position) label := by
    intro label visible own x hx
    cases hparse : parse label with
    | error y => exact (scopedLabel_of_error hparse).1
    | ok e =>
        rw [parse_scopedLabel visible own hparse] at hx
        cases hx
  cases hparse : parse (fragment.scopedLabel position a) with
  | error x => rw [← unread visible own hparse, ← unread visible' own' (h ▸ hparse), h]
  | ok e' =>
      apply String.toList_inj.1
      rw [← restored_scopedLabel visible own hparse,
        ← restored_scopedLabel visible' own' (h ▸ hparse), h]

/-- A catch-all label stays as it is. -/
theorem scopedLabel_of_isCatchAll (visible : fragment.IsVisibleLabel position label)
    (h : isCatchAll label = true) : fragment.scopedLabel position label = label := by
  rw [Fragment.scopedLabel, substituteText_eq_self (referencesInText_of_isCatchAll h), renameSteps]
  split
  · next e he => rw [if_pos (paths_of_isCatchAll visible h he)]
  · rfl

/-- With its new names a label reads what it read before, under the new names. -/
theorem exists_of_labelReads_scopedLabel (visible : fragment.IsVisibleLabel position label)
    (own : fragment.OwnsPaths label) {r' : Reference}
    (h : LabelReads (fragment.scopedLabel position label) r') :
    ∃ r, LabelReads label r ∧ r' = r.replacedBy (joinedOutput position) := by
  obtain ⟨not_catchAll, hread⟩ := h
  have reads : isCatchAll label = false := by
    by_contra hcatch
    rw [scopedLabel_of_isCatchAll visible (by simpa using hcatch)] at not_catchAll
    exact hcatch not_catchAll
  rcases hread with hread | ⟨e', he', path', hpath', rfl⟩
  · have keeps : ∀ {x y : String}, fragment.newName? position x = some y → '{' ∉ x.toList →
        '{' ∉ y.toList := by
      intro x y hnew hx hy
      obtain ⟨_, rfl⟩ := Fragment.newName?_eq_some hnew
      exact (mem_scopedName hy).elim hx (by decide)
    rw [Fragment.scopedLabel, references_renameSteps keeps,
      referencesInText_substituteText fun r hr =>
        isReadable_joinedOutput position r (isReadable_of_mem_referencesInText hr)] at hread
    obtain ⟨r, hr, rfl⟩ := List.mem_map.1 hread
    exact ⟨r, ⟨reads, .inl hr⟩, rfl⟩
  · have he' := toOption_eq_some_iff.1 he'
    obtain ⟨e, he⟩ := exists_parse_of_scopedLabel he'
    rw [parse_scopedLabel visible own he] at he'
    cases he'
    rw [paths_rewrite] at hpath'
    obtain ⟨path, hpath, rfl⟩ := List.mem_map.1 hpath'
    refine ⟨.output path.step path.field, ⟨reads, .inr ⟨e, ?_, path, hpath, rfl⟩⟩, ?_⟩
    · exact toOption_eq_some_iff.2 he
    · rw [Fragment.joinedPath, Fragment.newName_of_contains (own e he path hpath)]
      rfl

end Scoped

end Workflow
