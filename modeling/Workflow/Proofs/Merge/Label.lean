import Workflow.Proofs.Condition.Replacement
import Workflow.Proofs.Merge.Merged

/-!
# Conditions after joining

The label of a joined transition is the label of the original with its placeholders replaced and its
other state paths renamed, both by looking at the text. It reads as the condition of the original
with the new names of the steps if its paths are spelled in ways that this sees, and its literals
hold nothing that looks like a path or a placeholder. Paths whose names are not spelled in ASCII,
which conditions may read, are left alone.

Main statement: `joined_label_reads_renamed`.
-/

namespace Workflow

open Condition

/-! ## Definitions -/

/-- A path of the fragment at a position in the joined graph: a path whose step is a step of the
fragment follows it. -/
def Fragment.joinedPath (fragment : Fragment) (position : Nat) (path : Path) : Path :=
  { path with step := fragment.newName position path.step }

/-- The references to steps of the fragment at a position in the joined graph. -/
def joinedOutput (position : Nat) : Reference → Option Reference
  | .output step field => some (.output (scopedName step (position + 1)) field)
  | .artifact _ => none

/-- A text with its placeholders of steps replaced. -/
def firstPass (position : Nat) (text : List Char) : List Char :=
  mapWords (substituteWord (joinedOutput position)) text

/-- A text with the steps of these paths renamed outside quotes. -/
def secondPass (paths : List Path) (fragment : Fragment) (position : Nat) (text : List Char) :
    List Char :=
  mapWords (renameWord paths (fragment.newName? position)) text

/-- Renaming sees the paths of all comparisons, and keeps the literals where none of `paths` is to
be renamed. -/
def Condition.Outline.IsPlain (paths : List Path) (o : Outline) : Prop :=
  ∀ c ∈ o.comparisons, (∃ path, HasNames path ∧ SpellsPath path (Text.trim c.1)) ∧
    IsPlainLiteral paths c.2

/-- Renaming sees the paths of all comparisons, and touches nothing but placeholders in the literals
where none of `paths` is to be renamed. -/
def Condition.Outline.IsVisible (paths : List Path) (o : Outline) : Prop :=
  ∀ c ∈ o.comparisons, (∃ path, HasNames path ∧ SpellsPath path (Text.trim c.1)) ∧
    IsSparedLiteral paths c.2

theorem Condition.Outline.IsPlain.isVisible {paths : List Path} {o : Outline}
    (h : o.IsPlain paths) : o.IsVisible paths := fun c hc => ⟨(h c hc).1, (h c hc).2.isSpared⟩

namespace Fragment

/-- A label without artifacts with the steps of the fragment under their new names. -/
def scopedLabel (fragment : Fragment) (position : Nat) (label : String) : String :=
  renameSteps (fragment.newName? position) (substituteText (joinedOutput position) label)

/-- If the label is a condition, renaming sees its paths. -/
def IsVisibleLabel (fragment : Fragment) (position : Nat) (label : String) : Prop :=
  ∀ e, parse label = .ok e → ∃ o, IsOutline label.toList o ∧
    o.IsVisible (e.paths ++ e.paths.map (fragment.joinedPath position))

/-- The condition of the label reads steps of the fragment. -/
def OwnsPaths (fragment : Fragment) (label : String) : Prop :=
  ∀ e, parse label = .ok e → ∀ path ∈ e.paths, fragment.graph.contains path.step = true

end Fragment

/-! ## Both passes rewrite words -/

theorem isReadable_joinedOutput (position : Nat) (r : Reference) (readable : r.isReadable = true) :
    (r.replacedBy (joinedOutput position)).isReadable = true := by
  cases r with
  | artifact name => exact readable
  | output step field => exact isReadable_scopedName readable (position + 1)

theorem isTame_joinedOutput (position : Nat) : IsTame (substituteWord (joinedOutput position)) :=
  isTame_substituteWord (isReadable_joinedOutput position)

theorem isTame_newName (paths : List Path) (fragment : Fragment) (position : Nat) :
    IsTame (renameWord paths (fragment.newName? position)) := by
  refine isTame_renameWord fun {x y} hnew hword c hc => ?_
  obtain ⟨_, rfl⟩ := Fragment.newName?_eq_some hnew
  exact (mem_scopedName hc).elim (hword c) isWordChar_of_isNameChar

/-- Renaming the steps of a label is the second pass, told of the paths of its condition. -/
theorem toList_renameSteps {fragment : Fragment} {position : Nat} {label : String} {e : Condition}
    (h : parse label = .ok e) :
    (renameSteps (fragment.newName? position) label).toList =
      secondPass e.paths fragment position label.toList :=
  toList_renameSteps_eq_mapWords h

/-! ## One comparison -/

section Comparison

variable {fragment : Fragment} (position : Nat) {path : Path} (names : HasNames path)
  (hstep : fragment.graph.contains path.step = true)
include names

/-- The first pass sees no path that is not a placeholder. -/
theorem firstPass_bare : firstPass position path.text.toList = path.text.toList :=
  mapWords_substituteWord_eq_self (references_bare names)

theorem firstPass_apart {before after : List Char} (hbefore : before ≠ [])
    (blank : ∀ c ∈ before, Text.isBlank c = true) (blank' : ∀ c ∈ after, Text.isBlank c = true) :
    firstPass position ('{' :: (before ++ path.text.toList ++ after ++ ['}'])) =
      '{' :: (before ++ path.text.toList ++ after ++ ['}']) :=
  mapWords_substituteWord_eq_self (references_apart names hbefore blank blank')

include hstep

theorem hasNames_joinedPath : HasNames (fragment.joinedPath position path) := by
  intro part hpart
  rcases List.mem_cons.1 hpart with rfl | hpart
  · rw [Fragment.joinedPath, Fragment.newName_of_contains hstep]
    exact isName_scopedName ((isName_iff _).1 (isName_step names)).2 (position + 1)
  · exact isName_parts names part hpart

/-- The second pass gives a path that it is told of its new name. -/
theorem renameWord_joinedPath {paths : List Path} (hpath : path ∈ paths) :
    renameWord paths (fragment.newName? position) false path.text.toList =
      (fragment.joinedPath position path).text.toList := by
  rw [Fragment.joinedPath, Fragment.newName_of_contains hstep]
  exact renameTokens_text _ _ names hpath (Fragment.newName?_of_contains hstep position)

theorem firstPass_placeholder :
    firstPass position (Reference.output path.step path.field).chars =
      (Reference.output (fragment.joinedPath position path).step
        (fragment.joinedPath position path).field).chars := by
  rw [firstPass, mapWords, mapWordsFrom_single (Reference.chars_ne_nil _)
    fun c hc => isWordChar_of_mem_chars (isReadable_output names) hc,
    substituteWord_chars (isReadable_output names), Fragment.joinedPath,
    Fragment.newName_of_contains hstep]
  rfl

/-- After the first pass the path is the same, or its step has the new name. -/
theorem spells_firstPass {text : List Char} (h : SpellsPath path (Text.trim text)) :
    ∃ path', (path' = path ∨ path' = fragment.joinedPath position path) ∧ HasNames path' ∧
      SpellsPath path' (Text.trim (firstPass position text)) := by
  rw [firstPass, trim_mapWords (isTame_joinedOutput position), ← firstPass]
  generalize Text.trim text = raw at h ⊢
  cases h with
  | bare =>
      rw [firstPass_bare position names]
      exact ⟨path, .inl rfl, names, .bare⟩
  | placeholder hinner =>
      rw [firstPass_placeholder position names hstep]
      exact ⟨_, .inr rfl, hasNames_joinedPath position names hstep, .placeholder hinner⟩
  | apart hbefore hafter blank blank' =>
      rw [firstPass_apart position names hbefore blank blank']
      exact ⟨path, .inl rfl, names, .apart hbefore hafter blank blank'⟩

/-- After both passes the step has the new name, if the second one is told of the path that the
first one left. -/
theorem spells_secondPass {paths : List Path} {text : List Char}
    (h : SpellsPath path (Text.trim text))
    (told : ∀ path', HasNames path' →
      SpellsPath path' (Text.trim (firstPass position text)) → path' ∈ paths) :
    SpellsPath (fragment.joinedPath position path)
      (Text.trim (secondPass paths fragment position (firstPass position text))) := by
  have trimmed : Text.trim (firstPass position text) = firstPass position (Text.trim text) :=
    trim_mapWords (isTame_joinedOutput position) text
  rw [secondPass, trim_mapWords (isTame_newName paths fragment position), trimmed]
  rw [trimmed] at told
  generalize Text.trim text = raw at h told ⊢
  cases h with
  | bare =>
      rw [firstPass_bare position names] at told ⊢
      rw [mapWords_bare names (renameWord_joinedPath position names hstep (told path names .bare))]
      exact .bare
  | placeholder hinner =>
      have names' := hasNames_joinedPath position names hstep
      rw [firstPass_placeholder position names hstep,
        mapWords_placeholder names' (renameTokens_placeholder _ _ names' hinner)]
      exact .placeholder hinner
  | apart hbefore hafter blank blank' =>
      rw [firstPass_apart position names hbefore blank blank'] at told ⊢
      have follows := renameWord_joinedPath position names hstep
        (told path names (.apart hbefore hafter blank blank'))
      obtain ⟨opening, closing⟩ := renameTokens_brace paths (fragment.newName? position)
      rw [mapWords_apart names opening closing follows hbefore hafter blank blank']
      exact .apart hbefore hafter blank blank'

end Comparison

/-! ## The whole label -/

section Label

variable {fragment : Fragment} {position : Nat} {label : String} {o : Outline} {e : Condition}

theorem exists_path_of_isVisible {paths : List Path} (he : o.read? = some e)
    (visible : o.IsVisible paths) {c : List Char × List Char} (hc : c ∈ o.comparisons) :
    ∃ path ∈ e.paths, parsePath c.1 = .ok path ∧ HasNames path ∧
      SpellsPath path (Text.trim c.1) := by
  obtain ⟨⟨path, names, h⟩, _⟩ := visible c hc
  obtain ⟨path', hmem, hpath'⟩ := Outline.exists_path_of_mem_comparisons he hc
  -- A text is read as one path only, so that the spelled path is the one that is read.
  have hpath := parsePath_of_spells names h
  rw [hpath] at hpath'
  cases hpath'
  exact ⟨path, hmem, hpath, names, h⟩

section Visible

variable (he : o.read? = some e)
  (visible : o.IsVisible (e.paths ++ e.paths.map (fragment.joinedPath position)))
  (own : ∀ path ∈ e.paths, fragment.graph.contains path.step = true)
include he visible own

/-- After the first pass the label is still a condition. Its paths are old and new ones, and the
second pass is told of all that are spelled. -/
theorem exists_read?_firstPass :
    ∃ e₁, (o.map (firstPass position)).read? = some e₁ ∧
      (∀ path ∈ e₁.paths, path ∈ e.paths ++ e.paths.map (fragment.joinedPath position)) ∧
      ∀ c ∈ o.comparisons, ∀ path, HasNames path →
        SpellsPath path (Text.trim (firstPass position c.1)) → path ∈ e₁.paths := by
  have spelled : ∀ c ∈ (o.map (firstPass position)).comparisons,
      ∃ path ∈ e.paths ++ e.paths.map (fragment.joinedPath position),
        parsePath c.1 = .ok path ∧ ∃ literal, parseLiteral c.2 = .ok literal := by
    intro c' hc'
    rw [Outline.comparisons_map] at hc'
    obtain ⟨c, hc, rfl⟩ := List.mem_map.1 hc'
    obtain ⟨path, hmem, _, names, h⟩ := exists_path_of_isVisible he visible hc
    obtain ⟨path', hpath', names', h'⟩ := spells_firstPass position names (own path hmem) h
    obtain ⟨literal, hliteral⟩ := Outline.exists_literal_of_read? he c hc
    refine ⟨path', ?_, parsePath_of_spells names' h',
      exists_literal_substituteWord (isReadable_joinedOutput position) hliteral⟩
    rcases hpath' with rfl | rfl
    · exact List.mem_append_left _ hmem
    · exact List.mem_append_right _ (List.mem_map_of_mem hmem)
  obtain ⟨e₁, he₁⟩ := Outline.exists_read? fun c hc =>
    have ⟨path, _, hpath, literal⟩ := spelled c hc
    ⟨⟨path, hpath⟩, literal⟩
  refine ⟨e₁, he₁, fun path₁ hpath₁ => ?_, fun c hc path names h => ?_⟩
  · obtain ⟨c, hc, hread⟩ := Outline.exists_comparison_of_mem_paths he₁ hpath₁
    obtain ⟨path, hmem, hpath, _⟩ := spelled c hc
    rw [hpath] at hread
    cases hread
    exact hmem
  · have hc' : (firstPass position c.1, firstPass position c.2) ∈
        (o.map (firstPass position)).comparisons := by
      rw [Outline.comparisons_map]
      exact List.mem_map.2 ⟨c, hc, rfl⟩
    obtain ⟨path', hmem, hread⟩ := Outline.exists_path_of_mem_comparisons he₁ hc'
    rw [parsePath_of_spells names h] at hread
    cases hread
    exact hmem

/-- The label with its new names is the one after the first pass, rewritten by a second pass that is
told of the paths that the first one left. -/
theorem exists_secondPass_scopedLabel (outline : IsOutline label.toList o) :
    ∃ paths : List Path,
      (∀ path ∈ paths, path ∈ e.paths ++ e.paths.map (fragment.joinedPath position)) ∧
      (∀ c ∈ o.comparisons, ∀ path, HasNames path →
        SpellsPath path (Text.trim (firstPass position c.1)) → path ∈ paths) ∧
      IsOutline (firstPass position label.toList) (o.map (firstPass position)) ∧
      (fragment.scopedLabel position label).toList =
        secondPass paths fragment position (firstPass position label.toList) := by
  obtain ⟨e₁, he₁, within, told⟩ := exists_read?_firstPass he visible own
  have first := substituteText_eq_mapWords (joinedOutput position) label
  have outline₁ : IsOutline (firstPass position label.toList) (o.map (firstPass position)) :=
    outline.mapWords (isTame_joinedOutput position)
  have parsed : parse (substituteText (joinedOutput position) label) = .ok e₁ := by
    rw [parse_eq_ok_iff, first]
    exact ⟨_, outline₁, he₁⟩
  refine ⟨e₁.paths, within, told, outline₁, ?_⟩
  rw [Fragment.scopedLabel, toList_renameSteps parsed, first]
  rfl

/-- After both passes a visible label reads as its condition with the new names, and with literals
that are made of the old ones. -/
theorem parse_scopedLabel_of_read (outline : IsOutline label.toList o)
    {onLiteral : Literal → Literal}
    (literals : ∀ paths : List Path,
      (∀ path ∈ paths, path ∈ e.paths ++ e.paths.map (fragment.joinedPath position)) →
        ∀ c ∈ o.comparisons, ∀ literal, parseLiteral c.2 = .ok literal →
          parseLiteral (secondPass paths fragment position (firstPass position c.2)) =
            .ok (onLiteral literal)) :
    parse (fragment.scopedLabel position label) =
      .ok (rewrite (fragment.joinedPath position) onLiteral e) := by
  obtain ⟨paths, within, told, outline₁, written⟩ :=
    exists_secondPass_scopedLabel he visible own outline
  have tame := isTame_newName paths fragment position
  have read : ((o.map (firstPass position)).map (secondPass paths fragment position)).read? =
      some (rewrite (fragment.joinedPath position) onLiteral e) := by
    rw [Outline.map_map]
    refine Outline.read?_map (fun c hc path hread => ?_) (literals paths within) he
    obtain ⟨path', hmem, hpath', names, h⟩ := exists_path_of_isVisible he visible hc
    rw [hpath'] at hread
    cases hread
    exact parsePath_of_spells (hasNames_joinedPath position names (own path hmem))
      (spells_secondPass position names (own path hmem) h (told c hc))
  rw [parse_eq_ok_iff, written]
  exact ⟨_, outline₁.mapWords tame, read⟩

end Visible

/-- A plain label reads as its condition with the new names. -/
theorem parse_scopedLabel_of_plain (he : o.read? = some e)
    (plain : o.IsPlain (e.paths ++ e.paths.map (fragment.joinedPath position)))
    (own : ∀ path ∈ e.paths, fragment.graph.contains path.step = true)
    (outline : IsOutline label.toList o) :
    parse (fragment.scopedLabel position label) =
      .ok (mapPaths (fragment.joinedPath position) e) := by
  rw [← rewrite_id]
  refine parse_scopedLabel_of_read he plain.isVisible own outline ?_
  intro paths within c hc literal hliteral
  have kept : IsPlainLiteral paths c.2 := by
    obtain ⟨noReferences, run | absent⟩ := (plain c hc).2
    · exact ⟨noReferences, .inl run⟩
    · exact ⟨noReferences, .inr fun path hpath => absent path (within path hpath)⟩
  exact (parseLiteral_mapWords (isTame_newName paths fragment position) kept).trans hliteral

/-- Where no artifact is to be bound, joining a label gives steps their new names. -/
theorem joinedLabel_eq_scopedLabel (fragments : List Fragment)
    (outputs : ∀ name, .artifact name ∉ referencesInText label) :
    joinedLabel fragments fragment position label = fragment.scopedLabel position label := by
  have same : substituteText (fun r => some (joinedReference fragments position r)) label =
      substituteText (joinedOutput position) label := by
    refine substituteText_congr fun r hr => ?_
    cases r with
    | artifact name => exact absurd hr (outputs name)
    | output step field => rfl
  rw [joinedLabel, same]
  rfl

/-- A plain label holds placeholders of steps only. -/
theorem not_artifact_of_plain {paths : List Path} (outline : IsOutline label.toList o)
    (plain : o.IsPlain paths) (name : String) : .artifact name ∉ referencesInText label := by
  intro hr
  rw [referencesInText, Template.ofText, outline.references] at hr
  obtain ⟨c, hc, hr⟩ := List.mem_flatMap.1 hr
  obtain ⟨⟨path, names, h⟩, noReferences, _⟩ := plain c hc
  rw [noReferences, List.append_nil, ← references_trim] at hr
  cases eq_of_mem_references names h hr

/-- A catch-all label spells no path. -/
theorem comparisons_of_isCatchAll {paths : List Path} (outline : IsOutline label.toList o)
    (visible : o.IsVisible paths) (h : isCatchAll label = true) : o.comparisons = [] := by
  rw [List.eq_nil_iff_forall_not_mem]
  intro c hc
  obtain ⟨⟨path, names, hspells⟩, _⟩ := visible c hc
  have within : Text.trim c.1 <:+: label.toList :=
    (Text.trim_isInfix c.1).trans (outline.isInfix c hc).1
  have point : '.' ∈ path.text.toList := by
    rw [toList_text]
    exact List.mem_append_right _ (List.mem_cons_self ..)
  have hpoint : '.' ∈ Text.trim c.1 := by
    generalize Text.trim c.1 = raw at hspells
    cases hspells with
    | bare => exact point
    | placeholder hinner =>
        rw [chars_output path hinner]
        exact List.mem_cons_of_mem _ (List.mem_append_left _ point)
    | apart =>
        refine List.mem_cons_of_mem _ (List.mem_append_left _ (List.mem_append_left _ ?_))
        exact List.mem_append_right _ point
  exact not_mem_of_isCatchAll h (by decide) (by decide) (within.subset hpoint)

/-- A catch-all label that is a condition reads nothing. -/
theorem paths_of_isCatchAll (visible : fragment.IsVisibleLabel position label)
    (h : isCatchAll label = true) (he : parse label = .ok e) : e.paths = [] := by
  obtain ⟨o, outline, visible⟩ := visible e he
  have hpaths := Outline.map_parsePath_of_read? (outline.read?_eq_some he)
  rw [comparisons_of_isCatchAll outline visible h] at hpaths
  exact List.map_eq_nil_iff.1 hpaths.symm

end Label

/-! ## Labels of an accepted plan -/

section Plans

variable {schemas : Schemas} {fragments : List Fragment} {dependencies : List Dependency}
  {position : Nat} {fragment : Fragment} {step : Step}

/-- The conditions of a fragment read its own steps. -/
theorem ownsPaths_of_mem_labels (wf : WellFormedPlan schemas fragments dependencies)
    (hposition : fragments[position]? = some fragment) (hstep : step ∈ fragment.graph.stepList)
    {label : String} (hlabel : label ∈ step.labels)
    (visible : fragment.IsVisibleLabel position label) : fragment.OwnsPaths label := by
  intro e he path hpath
  obtain ⟨_, hfragment⟩ := wf.wellFormed fragment (List.mem_of_getElem? hposition)
  cases hcatch : isCatchAll label with
  | true =>
      rw [paths_of_isCatchAll visible hcatch he] at hpath
      cases hpath
  | false =>
      refine hfragment.label_source step hstep path.step path.field ?_
      refine (mem_step_labelReferences_iff step _).2
        ⟨label, hlabel, hcatch, .inr ⟨e, ?_, path, hpath, rfl⟩⟩
      exact toOption_eq_some_iff.2 he

/-- In an accepted plan every step gets its place in the joined graph, and a plain label of it that
is a condition becomes a label that reads as the same condition with the new names of the steps, all
of them steps of its own fragment. -/
theorem joined_label_reads_renamed
    (accepted : (validatePlan schemas fragments dependencies).isAccepted = true)
    (hposition : fragments[position]? = some fragment) (hstep : step ∈ fragment.graph.stepList)
    {k : Nat} {t : Transition} (ht : step.transitions[k]? = some t) {e : Condition}
    (hparse : parse t.label = .ok e) {o : Outline} (outline : IsOutline t.label.toList o)
    (plain : o.IsPlain (e.paths ++ e.paths.map (fragment.joinedPath position))) :
    ∃ joined t', renameStep (artifactTable fragments) fragment position step = .ok joined ∧
      joined.transitions[k]? = some t' ∧
      parse t'.label = .ok (mapPaths (fragment.joinedPath position) e) ∧
      ∀ path ∈ (mapPaths (fragment.joinedPath position) e).paths, ∃ id,
        fragment.graph.contains id = true ∧ path.step = scopedName id (position + 1) := by
  have wf := wellFormedPlan_of_isAccepted accepted
  have hlabel : t.label ∈ step.labels := List.mem_map_of_mem (List.mem_of_getElem? ht)
  have visible : fragment.IsVisibleLabel position t.label := by
    intro e' he'
    rw [hparse] at he'
    cases he'
    exact ⟨o, outline, plain.isVisible⟩
  have own := ownsPaths_of_mem_labels wf hposition hstep hlabel visible e hparse
  have read := parse_scopedLabel_of_plain (outline.read?_eq_some hparse) plain own outline
  rw [← joinedLabel_eq_scopedLabel fragments (not_artifact_of_plain outline plain)] at read
  refine ⟨joinedStep fragments fragment position step,
    ⟨joinedLabel fragments fragment position t.label, scopedName t.target (position + 1)⟩,
    renameStep_eq_joinedStep wf hposition hstep, ?_, read, fun path' hpath' => ?_⟩
  · simp [joinedStep, ht]
  · rw [paths_mapPaths] at hpath'
    obtain ⟨path, hpath, rfl⟩ := List.mem_map.1 hpath'
    exact ⟨path.step, own path hpath, Fragment.newName_of_contains (own path hpath) position⟩

end Plans

/-! ## A step that branches -/

/-- A step that looks around, and goes on with what it sees. -/
def lookStep (id label : String) : Step :=
  ⟨id, .reasoning "Look around.", [⟨label, "stay"⟩, ⟨"otherwise", "go"⟩], none⟩

def lookFragment (id label : String) : Fragment where
  name := "look"
  graph := Graph.ofSteps
    [lookStep id label, ⟨"stay", .final, [], none⟩, ⟨"go", .final, [], none⟩] id
  produces := .empty
  consumes := []

/-- A label that names its step in a placeholder and in a bare path. -/
def rainLabel : String := "\x7blook.response\x7d contains 'rain' or look.response == 'snow'"

def rainOutline : Outline :=
  .or (.compare "\x7blook.response\x7d".toList .contains "'rain'".toList)
    (.compare "look.response ".toList .eq " 'snow'".toList)

theorem rainLabel_isOutline : IsOutline rainLabel.toList rainOutline := by
  have cut : cut? rainLabel.toList = some (.or "\x7blook.response\x7d contains 'rain'".toList
      "look.response == 'snow'".toList) := by decide +kernel
  exact .or cut (.compare (by decide +kernel)) (.compare (by decide +kernel))

theorem rainOutline_isPlain (paths : List Path) : rainOutline.IsPlain paths := by
  have names : HasNames ⟨"look", "response", []⟩ := by decide
  have placeholder : Text.trim "\x7blook.response\x7d".toList =
      (Reference.output "look" "response").chars := by decide +kernel
  have bare : Text.trim "look.response ".toList =
      (Path.mk "look" "response" []).text.toList := by decide +kernel
  have rain : IsPlainLiteral paths "'rain'".toList :=
    ⟨by decide +kernel, .inl ⟨'\'', "rain".toList, by decide, by decide, by decide +kernel⟩⟩
  have snow : IsPlainLiteral paths " 'snow'".toList :=
    ⟨by decide +kernel, .inl ⟨'\'', "snow".toList, by decide, by decide, by decide +kernel⟩⟩
  intro c hc
  rcases List.mem_cons.1 hc with rfl | hc
  · exact ⟨⟨_, names, placeholder ▸ .placeholder rfl⟩, rain⟩
  · obtain rfl := List.mem_singleton.1 hc
    exact ⟨⟨_, names, bare ▸ .bare⟩, snow⟩

/-- Both paths of the label follow the step. -/
theorem rainLabel_follows : ∃ joined t',
    renameStep (artifactTable [lookFragment "look" rainLabel]) (lookFragment "look" rainLabel) 0
      (lookStep "look" rainLabel) = .ok joined ∧
    joined.transitions[0]? = some t' ∧
    parse t'.label = .ok (.or (.compare ⟨"look_1", "response", []⟩ .contains (.text "rain"))
      (.compare ⟨"look_1", "response", []⟩ .eq (.text "snow"))) := by
  have accepted : (validatePlan (fun _ => none) [lookFragment "look" rainLabel] []).isAccepted =
      true := by decide +kernel
  have hstep : lookStep "look" rainLabel ∈ (lookFragment "look" rainLabel).graph.stepList := by
    decide +kernel
  have hparse : parse rainLabel = .ok
      (.or (.compare ⟨"look", "response", []⟩ .contains (.text "rain"))
        (.compare ⟨"look", "response", []⟩ .eq (.text "snow"))) := by decide +kernel
  have hposition : [lookFragment "look" rainLabel][0]? = some (lookFragment "look" rainLabel) := rfl
  obtain ⟨joined, t', hjoined, ht', hread, _⟩ :=
    joined_label_reads_renamed accepted hposition hstep (k := 0) rfl hparse rainLabel_isOutline
      (rainOutline_isPlain _)
  exact ⟨joined, t', hjoined, ht', hread⟩

/-- A path whose step is spelled outside ASCII does not follow its step. -/
theorem accented_label_stays :
    (validatePlan (fun _ => none) [lookFragment "étape" "étape.response == 'snow'"] []).isAccepted =
        true ∧
      ∃ joined t' e,
        renameStep (artifactTable [lookFragment "étape" "étape.response == 'snow'"])
          (lookFragment "étape" "étape.response == 'snow'") 0
          (lookStep "étape" "étape.response == 'snow'") = .ok joined ∧
        joined.transitions[0]? = some t' ∧
        parse "étape.response == 'snow'" = .ok e ∧ parse t'.label = .ok e ∧
        mapPaths ((lookFragment "étape" "étape.response == 'snow'").joinedPath 0) e ≠ e := by
  have label : ((renameStep (artifactTable [lookFragment "étape" "étape.response == 'snow'"])
      (lookFragment "étape" "étape.response == 'snow'") 0
      (lookStep "étape" "étape.response == 'snow'")).toOption.bind fun joined =>
        joined.transitions[0]?.map (·.label)) = some "étape.response == 'snow'" := by
    decide +kernel
  obtain ⟨joined, hjoined, ht⟩ := Option.bind_eq_some_iff.1 label
  obtain ⟨t', ht', hlabel⟩ := Option.map_eq_some_iff.1 ht
  have hparse : parse "étape.response == 'snow'" =
      .ok (.compare ⟨"étape", "response", []⟩ .eq (.text "snow")) := by decide +kernel
  refine ⟨by decide +kernel, joined, t', _, toOption_eq_some_iff.1 hjoined, ht', hparse, ?_, ?_⟩
  · rw [hlabel, hparse]
  · decide +kernel

end Workflow
