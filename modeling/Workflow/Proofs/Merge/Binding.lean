import Workflow.Proofs.Merge.Naming
import Workflow.Proofs.Reference.Artifact
import Workflow.Proofs.Validation.Plan

/-!
# Binding references in a joined graph

Said without tables: where a reference of a fragment leads in the joined graph. A local one follows
its step; an artifact stands for the field that its first offer in the plan is bound to. Joining
rewrites a text twice, once for each of the two, and in an accepted plan both passes together are
one replacement that never fails.

Main statements: `source?_artifactTable` and `renameStep_eq_joinedStep`.
-/

namespace Workflow

/-! ## Where references lead -/

/-- The first offer of an artifact: the position of the fragment, and what it binds the artifact
to. -/
def firstOffer? (fragments : List Fragment) (artifact : String) : Option (Nat × ArtifactBinding) :=
  fragments.zipIdx.findSome? fun entry =>
    (entry.1.produces.get? artifact).map fun binding => (entry.2, binding)

/-- Where a reference in the fragment at a position leads. -/
def joinedReference (fragments : List Fragment) (position : Nat) : Reference → Reference
  | .output step field => .output (scopedName step (position + 1)) field
  | .artifact name =>
      match firstOffer? fragments name with
      | some (p, binding) => .output (scopedName binding.step (p + 1)) binding.field
      | none => .artifact name

/-- A transition label of the fragment at a position with its references led to where
they belong. -/
def joinedLabel (fragments : List Fragment) (fragment : Fragment) (position : Nat)
    (label : String) : String :=
  Condition.renameSteps (fragment.newName? position)
    (substituteText (fun r => some (joinedReference fragments position r)) label)

/-- A step of the fragment at a position as it enters the joined graph. -/
def joinedStep (fragments : List Fragment) (fragment : Fragment) (position : Nat) (step : Step) :
    Step where
  id := scopedName step.id (position + 1)
  action := step.action.substitute fun r => some (joinedReference fragments position r)
  transitions := step.transitions.map fun t =>
    ⟨joinedLabel fragments fragment position t.label, scopedName t.target (position + 1)⟩
  thoughts := step.thoughts

/-! ## The first offer -/

theorem producesArtifact_eq_false_iff (fragment : Fragment) (artifact : String) :
    fragment.producesArtifact artifact = false ↔ fragment.produces.get? artifact = none := by
  simp [Fragment.producesArtifact, Dict.contains]

theorem firstOffer?_eq_some_iff (fragments : List Fragment) (artifact : String) (p : Nat)
    (binding : ArtifactBinding) :
    firstOffer? fragments artifact = some (p, binding) ↔
      ∃ producer, fragments[p]? = some producer ∧
        producer.produces.get? artifact = some binding ∧
        ∀ (q : Nat) (earlier : Fragment), q < p → fragments[q]? = some earlier →
          earlier.producesArtifact artifact = false := by
  simp only [firstOffer?, List.findSome?_eq_some_iff, Option.map_eq_some_iff,
    Option.map_eq_none_iff, producesArtifact_eq_false_iff]
  constructor
  · rintro ⟨before, ⟨producer, _⟩, later, split, ⟨_, hoffer, ⟨⟩⟩, none_before⟩
    obtain ⟨passed, left, rfl, rfl, hleft⟩ := List.zipIdx_eq_append_iff.1 split
    obtain ⟨_, rest, rfl, ⟨⟩, -⟩ := List.zipIdx_eq_cons_iff.1 hleft.symm
    simp only [Nat.zero_add]
    refine ⟨producer, by simp, hoffer, fun q earlier hq hearlier => ?_⟩
    rw [List.getElem?_append_left hq] at hearlier
    exact none_before (earlier, q) (List.mk_mem_zipIdx_iff_getElem?.2 hearlier)
  · rintro ⟨producer, hp, hoffer, first⟩
    obtain ⟨hlt, rfl⟩ := List.getElem?_eq_some_iff.1 hp
    refine ⟨(fragments.take p).zipIdx, (fragments[p], p), (fragments.drop (p + 1)).zipIdx (p + 1),
      ?_, ⟨binding, hoffer, rfl⟩, ?_⟩
    · refine List.zipIdx_eq_append_iff.2
        ⟨fragments.take p, fragments[p] :: fragments.drop (p + 1), ?_, rfl, ?_⟩
      · rw [← List.drop_eq_getElem_cons hlt, List.take_append_drop]
      · rw [List.length_take_of_le (Nat.le_of_lt hlt), Nat.zero_add, List.zipIdx_cons]
    · rintro ⟨earlier, q⟩ hmem
      have hearlier := List.mk_mem_zipIdx_iff_getElem?.1 hmem
      rw [List.getElem?_take, Option.ite_none_right_eq_some] at hearlier
      exact first q earlier hearlier.1 hearlier.2

/-- The first offer is not behind any other one. -/
theorem exists_firstOffer {fragments : List Fragment} {artifact : String} {p : Nat}
    {producer : Fragment} (hp : fragments[p]? = some producer)
    (offers : producer.producesArtifact artifact = true) :
    ∃ q binding, q ≤ p ∧ firstOffer? fragments artifact = some (q, binding) := by
  obtain ⟨binding, hbinding⟩ := Option.isSome_iff_exists.1 offers
  cases h : firstOffer? fragments artifact with
  | none =>
      rw [firstOffer?, List.findSome?_eq_none_iff] at h
      have none_here := h (producer, p) (List.mem_zipIdx_iff_getElem?.2 hp)
      rw [hbinding] at none_here
      cases none_here
  | some found =>
      obtain ⟨q, binding'⟩ := found
      obtain ⟨_, _, _, first⟩ := (firstOffer?_eq_some_iff fragments artifact q binding').1 h
      refine ⟨q, binding', ?_, rfl⟩
      by_contra hlt
      rw [first p producer (by omega) hp] at offers
      cases offers

/-! ## The table of sources -/

theorem findSome?_congr {α β : Type} {f g : α → Option β} {l : List α} (h : ∀ a ∈ l, f a = g a) :
    l.findSome? f = l.findSome? g := by
  induction l with
  | nil => rfl
  | cons a rest ih =>
      rw [List.findSome?_cons, List.findSome?_cons, h a (List.mem_cons_self ..),
        ih fun b hb => h b (List.mem_cons_of_mem _ hb)]

theorem source?_declareProduced (table : ArtifactTable) (fragment : Fragment) (position : Nat)
    (artifact : String) :
    (declareProduced table fragment position).source? artifact =
      (table.source? artifact).or ((fragment.produces.get? artifact).map fun binding =>
        ⟨position, fragment.newName position binding.step, binding.field⟩) := by
  rw [Dict.get?, ← lookup_map_snd, ← ArtifactTable.source?_declareAll, ArtifactTable.declareAll,
    List.foldl_map, declareProduced]

theorem source?_foldl_declareProduced (numbered : List (Fragment × Nat)) (table : ArtifactTable)
    (artifact : String) :
    (numbered.foldl (fun table (fragment, position) => declareProduced table fragment position)
        table).source? artifact =
      (table.source? artifact).or (numbered.findSome? fun entry =>
        (entry.1.produces.get? artifact).map fun binding =>
          ⟨entry.2, entry.1.newName entry.2 binding.step, binding.field⟩) := by
  induction numbered generalizing table with
  | nil => simp
  | cons entry rest ih =>
      obtain ⟨fragment, position⟩ := entry
      rw [List.foldl_cons, ih, source?_declareProduced, List.findSome?_cons, Option.or_assoc]
      cases fragment.produces.get? artifact <;> simp

/-- The table leads each artifact to its first offer, under the new name of the step if it
has one. -/
theorem source?_artifactTable_eq (fragments : List Fragment) (artifact : String) :
    (artifactTable fragments).source? artifact =
      (firstOffer? fragments artifact).map fun (p, binding) =>
        ⟨p, fragments[p]?.elim binding.step (·.newName p binding.step), binding.field⟩ := by
  have empty : ArtifactTable.empty.source? artifact = none := Dict.get?_empty artifact
  rw [artifactTable, source?_foldl_declareProduced, empty, Option.none_or, firstOffer?,
    List.map_findSome?]
  refine findSome?_congr fun entry hmem => ?_
  obtain ⟨fragment, p⟩ := entry
  rw [Function.comp_apply, Option.map_map]
  refine Option.map_congr fun binding _ => ?_
  have place : fragments[p]? = some fragment := List.mem_zipIdx_iff_getElem?.1 hmem
  simp only [Function.comp_apply, place, Option.elim_some]

theorem source?_of_firstOffer {fragments : List Fragment} {artifact : String} {p : Nat}
    {producer : Fragment} {binding : ArtifactBinding} (hp : fragments[p]? = some producer)
    (h : firstOffer? fragments artifact = some (p, binding)) :
    (artifactTable fragments).source? artifact =
      some ⟨p, producer.newName p binding.step, binding.field⟩ := by
  simp only [source?_artifactTable_eq, h, Option.map_some, hp, Option.elim_some]

section Accepted

variable {schemas : Schemas} {fragments : List Fragment} {dependencies : List Dependency}

/-- The table of an accepted plan leads each artifact to its first offer. -/
theorem source?_artifactTable (wf : WellFormedPlan schemas fragments dependencies)
    (artifact : String) :
    (artifactTable fragments).source? artifact =
      (firstOffer? fragments artifact).map fun (p, binding) =>
        ⟨p, scopedName binding.step (p + 1), binding.field⟩ := by
  rw [source?_artifactTable_eq]
  refine Option.map_congr fun (p, binding) hoffer => ?_
  obtain ⟨producer, hp, hbinding, _⟩ := (firstOffer?_eq_some_iff ..).1 hoffer
  obtain ⟨_, hfragment⟩ := wf.wellFormed producer (List.mem_of_getElem? hp)
  obtain ⟨step, hstep, _⟩ := hfragment.bound artifact binding hbinding
  have hin := (Graph.contains_iff producer.graph binding.step).2 ⟨step, hstep⟩
  simp only [hp, Option.elim_some, Fragment.newName_of_contains hin]

/-! ## Both passes together -/

/-- The reference is to a step of the fragment at a position, or to an artifact that is offered up
to there. -/
def IsBound (fragments : List Fragment) (fragment : Fragment) (position : Nat) : Reference → Prop
  | .output step _ => fragment.graph.contains step = true
  | .artifact name => ∃ p binding, p ≤ position ∧ firstOffer? fragments name = some (p, binding)

section Bound

variable {fragment : Fragment} {position : Nat} {r : Reference}

/-- The first pass writes only placeholders that are read again. -/
theorem isReadable_replacedBy_renameReference (readable : r.isReadable = true) :
    (r.replacedBy (fragment.renameReference position)).isReadable = true := by
  cases r with
  | artifact name => exact readable
  | output step field =>
      rw [Reference.replacedBy, Fragment.renameReference]
      cases h : fragment.newName? position step with
      | none => exact readable
      | some new =>
          obtain ⟨_, rfl⟩ := Fragment.newName?_eq_some h
          exact isReadable_scopedName readable (position + 1)

theorem visibleTo_of_firstOffer (wf : WellFormedPlan schemas fragments dependencies)
    {artifact : String} {p : Nat} {binding : ArtifactBinding} (hle : p ≤ position)
    (h : firstOffer? fragments artifact = some (p, binding)) :
    (artifactTable fragments).visibleTo artifact position =
      some ⟨p, scopedName binding.step (p + 1), binding.field⟩ := by
  rw [ArtifactTable.visibleTo, source?_artifactTable wf, h]
  simp [hle]

/-- The two passes lead a reference where it belongs. -/
theorem replacedBy_replacement (wf : WellFormedPlan schemas fragments dependencies)
    (bound : IsBound fragments fragment position r) :
    (r.replacedBy (fragment.renameReference position)).replacedBy
        ((artifactTable fragments).replacement position) =
      joinedReference fragments position r := by
  cases r with
  | artifact name =>
      obtain ⟨p, binding, hle, hoffer⟩ := bound
      simp only [Reference.replacedBy, Fragment.renameReference, Option.getD_none,
        ArtifactTable.replacement, visibleTo_of_firstOffer wf hle hoffer, joinedReference, hoffer]
      rfl
  | output step field =>
      have hin : fragment.graph.contains step = true := bound
      simp only [Reference.replacedBy, Fragment.renameReference, Fragment.newName?_of_contains hin,
        joinedReference]
      rfl

/-- No bound artifact is missing. -/
theorem missing?_eq_none (wf : WellFormedPlan schemas fragments dependencies)
    {references : List Reference}
    (bound : ∀ r ∈ references, IsBound fragments fragment position r) :
    (artifactTable fragments).missing? position
      (references.map (Reference.replacedBy (fragment.renameReference position))) = none := by
  refine (ArtifactTable.missing?_eq_none_iff _).2 fun artifact h => ?_
  obtain ⟨r, hr, hartifact⟩ := List.mem_map.1 h
  cases r with
  | artifact name =>
      obtain rfl := Reference.artifact.inj hartifact
      obtain ⟨p, binding, hle, hoffer⟩ := bound _ hr
      exact ⟨_, (ArtifactTable.visibleTo_eq_some_iff ..).1 (visibleTo_of_firstOffer wf hle hoffer)⟩
  | output step field =>
      rw [Reference.replacedBy, Fragment.renameReference] at hartifact
      cases hnew : fragment.newName? position step <;> simp [hnew] at hartifact

end Bound

/-! ## Steps of an accepted plan -/

section Steps

variable {fragment : Fragment} {position : Nat} {step : Step}

theorem isBound_of_mem_references (wf : WellFormedPlan schemas fragments dependencies)
    (hposition : fragments[position]? = some fragment) (hstep : step ∈ fragment.graph.stepList)
    {r : Reference} (h : r ∈ step.references) : IsBound fragments fragment position r := by
  obtain ⟨_, hfragment⟩ := wf.wellFormed fragment (List.mem_of_getElem? hposition)
  cases r with
  | output source field =>
      rcases List.mem_append.1 h with h | h
      · exact hfragment.action_source step hstep source field h
      · exact hfragment.label_source step hstep source field h
  | artifact name =>
      obtain ⟨p, producer, hle, hp, offers⟩ :=
        wf.offered position fragment hposition name (Fragment.mem_consumedArtifacts hstep h)
      obtain ⟨q, binding, hq, hoffer⟩ := exists_firstOffer hp offers
      exact ⟨q, binding, Nat.le_trans hq hle, hoffer⟩

theorem isBound_of_mem_label (wf : WellFormedPlan schemas fragments dependencies)
    (hposition : fragments[position]? = some fragment) (hstep : step ∈ fragment.graph.stepList)
    {label : String} (hlabel : label ∈ step.labels) {r : Reference}
    (h : r ∈ referencesInText label) : IsBound fragments fragment position r := by
  cases hc : isCatchAll label with
  | true =>
      rw [referencesInText_of_isCatchAll hc] at h
      cases h
  | false =>
      refine isBound_of_mem_references wf hposition hstep (List.mem_append_right _ ?_)
      exact (mem_step_labelReferences_iff step r).2 ⟨label, hlabel, hc, .inl h⟩

theorem resolveAction_substitute (wf : WellFormedPlan schemas fragments dependencies)
    (hposition : fragments[position]? = some fragment) (hstep : step ∈ fragment.graph.stepList) :
    (artifactTable fragments).resolveAction
        (step.action.substitute (fragment.renameReference position)) position fragment.name =
      .ok (step.action.substitute fun r => some (joinedReference fragments position r)) := by
  have bound : ∀ r ∈ step.action.references, IsBound fragments fragment position r :=
    fun r hr => isBound_of_mem_references wf hposition hstep (List.mem_append_left _ hr)
  have readable : ∀ r ∈ step.action.references,
      (r.replacedBy (fragment.renameReference position)).isReadable = true :=
    fun r hr => isReadable_replacedBy_renameReference (Action.isReadable_of_mem_references hr)
  rw [ArtifactTable.resolveAction_eq, Action.references_substitute readable,
    missing?_eq_none wf bound, Action.substitute_substitute _ readable]
  exact congrArg Except.ok
    (Action.substitute_congr fun r hr => replacedBy_replacement wf (bound r hr))

theorem renameLabel_eq_joinedLabel (wf : WellFormedPlan schemas fragments dependencies)
    (hposition : fragments[position]? = some fragment) (hstep : step ∈ fragment.graph.stepList)
    {label : String} (hlabel : label ∈ step.labels) :
    renameLabel (artifactTable fragments) fragment position label =
      .ok (joinedLabel fragments fragment position label) := by
  have bound : ∀ r ∈ referencesInText label, IsBound fragments fragment position r :=
    fun r hr => isBound_of_mem_label wf hposition hstep hlabel hr
  have readable : ∀ r ∈ referencesInText label,
      (r.replacedBy (fragment.renameReference position)).isReadable = true :=
    fun r hr => isReadable_replacedBy_renameReference (isReadable_of_mem_referencesInText hr)
  have joined : substituteText ((artifactTable fragments).replacement position)
      (substituteText (fragment.renameReference position) label) =
        substituteText (fun r => some (joinedReference fragments position r)) label := by
    rw [substituteText_substituteText _ readable]
    exact substituteText_congr fun r hr => replacedBy_replacement wf (bound r hr)
  rw [renameLabel, ArtifactTable.resolveLabel_eq, referencesInText_substituteText readable,
    missing?_eq_none wf bound, joined]
  rfl

theorem mapM_eq_map {α β ε : Type} {f : α → Except ε β} {g : α → β} {l : List α}
    (h : ∀ a ∈ l, f a = .ok (g a)) : l.mapM f = .ok (l.map g) := by
  induction l with
  | nil => rfl
  | cons a rest ih =>
      rw [List.mapM_cons, h a (List.mem_cons_self ..),
        ih fun b hb => h b (List.mem_cons_of_mem _ hb)]
      rfl

/-- In an accepted plan every step gets its place in the joined graph. -/
theorem renameStep_eq_joinedStep (wf : WellFormedPlan schemas fragments dependencies)
    (hposition : fragments[position]? = some fragment) (hstep : step ∈ fragment.graph.stepList) :
    renameStep (artifactTable fragments) fragment position step =
      .ok (joinedStep fragments fragment position step) := by
  obtain ⟨_, hfragment⟩ := wf.wellFormed fragment (List.mem_of_getElem? hposition)
  have transitions : step.transitions.mapM
      (renameTransition (artifactTable fragments) fragment position) =
        .ok (joinedStep fragments fragment position step).transitions := by
    refine mapM_eq_map fun t ht => ?_
    have target := hfragment.targets_exist step hstep t.target (List.mem_map_of_mem ht)
    rw [renameTransition, renameLabel_eq_joinedLabel wf hposition hstep (List.mem_map_of_mem ht),
      Fragment.newName_of_contains target]
    rfl
  rw [renameStep, resolveAction_substitute wf hposition hstep, transitions,
    Fragment.newName_of_contains (Graph.contains_of_mem_stepList hstep)]
  rfl

end Steps

end Accepted

end Workflow
