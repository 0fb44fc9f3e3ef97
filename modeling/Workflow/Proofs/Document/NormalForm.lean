import Workflow.Proofs.Document.RoundTrip
import Workflow.Proofs.Graph.Order

/-!
# What documents made from graphs leave implicit

Of what a document may leave implicit, one that is made from a graph states everything but the
transitions that a graph does not have. Where no step of a graph has a transition, its document is
read as if the steps were meant to follow each other, in the order of their ids. That changes the
graph if a step that is not final is not the last one in this order.

A graph without transitions can come from a document of several steps: all but the last one listed
are final, so that none of them is led on. If the last one is not final either and has a smaller id
than another step, it is listed in another place by the document of the graph, and is led on there.

Main statement: `GraphDocument.toGraph_normal`, the documents whose graphs are given back are all
but those.
-/

namespace Workflow

/-! ## Steps without transitions -/

/-- In the order of ids a step is not the last one if there is a greater one. -/
theorem mem_dropLast_iff_of_pairwise {α : Type} {r : α → α → Prop} (asymm : ∀ a b, r a b → ¬ r b a)
    {items : List α} (sorted : items.Pairwise r) (item : α) :
    item ∈ items.dropLast ↔ item ∈ items ∧ ∃ greater ∈ items, r item greater := by
  rcases List.eq_nil_or_concat items with rfl | ⟨init, last, rfl⟩
  · simp
  · rw [List.concat_eq_append] at sorted ⊢
    rw [List.dropLast_concat]
    have below := (List.pairwise_append.1 sorted).2.2
    constructor
    · intro h
      exact ⟨List.mem_append_left _ h, last, by simp, below item h last (by simp)⟩
    · rintro ⟨hitem, greater, hgreater, less⟩
      rcases List.mem_append.1 hitem with h | h
      · exact h
      · obtain rfl := List.mem_singleton.1 h
        rcases List.mem_append.1 hgreater with h | h
        · exact absurd (below greater h item (by simp)) (asymm _ _ less)
        · obtain rfl := List.mem_singleton.1 h
          exact absurd less (asymm _ _ less)

namespace Graph

variable {g : Graph}

/-- No step of the graph leads on. -/
def IsSilent (g : Graph) : Prop := ∀ step ∈ g.stepList, step.transitions = []

theorem IsSilent.successors_eq_nil (silent : g.IsSilent) (id : String) : g.successors id = [] := by
  rw [List.eq_nil_iff_forall_not_mem]
  intro target h
  obtain ⟨step, hstep, htarget⟩ := (mem_successors_iff g id target).1 h
  simp [Step.targets, silent step (mem_stepList_of_step? hstep)] at htarget

/-- Where no step leads on, all are placed as they come. -/
theorem IsSilent.place_eq (silent : g.IsSilent) (unplaced : List String) :
    g.place unplaced = (unplaced, []) := by
  have free (waiting : List String) (id : String) : g.isAwaited waiting id = false := by
    simp [isAwaited, silent.successors_eq_nil]
  fun_induction place g unplaced with
  | case1 unplaced h =>
      cases unplaced with
      | nil => rfl
      | cons id rest => simp [free] at h
  | case2 unplaced id h order left hplace ih =>
      cases unplaced with
      | nil => cases h
      | cons first rest =>
          obtain rfl : first = id := by simpa [free] using h
          rw [List.erase_cons_head] at hplace ih
          rw [hplace] at ih
          cases ih
          rfl

theorem IsSilent.topologicalSteps_eq (silent : g.IsSilent) :
    g.topologicalSteps = .ok g.stepList := by
  have order : g.topologicalIds = .ok g.ids :=
    (topologicalIds_eq_ok_iff g g.ids).2 (silent.place_eq g.ids)
  rw [topologicalSteps_eq_ok order, filterMap_step?_ids]

theorem mem_dropLast_stepList_iff (g : Graph) (step : Step) :
    step ∈ g.stepList.dropLast ↔
      step ∈ g.stepList ∧ ∃ other ∈ g.stepList, step.id < other.id := by
  have sorted : g.stepList.Pairwise (·.id < ·.id) := by
    have ascending : g.ids.Pairwise (· < ·) := g.steps.keys_sorted
    rwa [← map_id_stepList, List.pairwise_map] at ascending
  exact mem_dropLast_iff_of_pairwise (fun _ _ => String.lt_asymm) sorted step

end Graph

/-! ## Steps that follow each other -/

theorem chainSteps_eq_self {docs : List StepDocument}
    (ends : ∀ doc ∈ docs.dropLast, doc.isFinal = true) : chainSteps docs = docs := by
  fun_induction chainSteps docs with
  | case1 doc next rest ih =>
      rw [List.dropLast_cons_cons] at ends
      rw [if_pos (ends doc (List.mem_cons_self ..)), ih]
      intro other hother
      exact ends other (List.mem_cons_of_mem _ hother)
  | case2 => rfl

/-- If linking the steps leads none of them on, all but the last one are final. -/
theorem isFinal_of_chainSteps {docs : List StepDocument}
    (silent : ∀ doc ∈ chainSteps docs, doc.hasTransitions = false) :
    ∀ doc ∈ docs.dropLast, doc.isFinal = true := by
  fun_induction chainSteps docs with
  | case1 doc next rest ih =>
      rw [List.forall_mem_cons] at silent
      rw [List.dropLast_cons_cons, List.forall_mem_cons]
      refine ⟨?_, ih silent.2⟩
      by_contra goes_on
      have led := silent.1
      rw [if_neg goes_on] at led
      cases led
  | case2 docs short =>
      rcases docs with _ | ⟨first, _ | ⟨second, rest⟩⟩
      · simp
      · simp
      · exact absurd rfl (short first second rest)

namespace GraphDocument

variable {doc : GraphDocument} {g : Graph} {entry : String}

/-- Where no step has a transition, a single one is not linked to another one either. -/
theorem linkedSteps_eq_chainSteps (silent : ∀ step ∈ doc.steps, step.hasTransitions = false) :
    doc.linkedSteps = chainSteps doc.steps := by
  have unstated : doc.steps.any StepDocument.hasTransitions = false := by simpa using silent
  unfold linkedSteps isLinear
  rw [unstated]
  rcases doc.steps with _ | ⟨first, _ | ⟨second, rest⟩⟩
  · rfl
  · rfl
  · simp

theorem linkedSteps_eq_steps
    (ends : (∀ step ∈ doc.steps, step.hasTransitions = false) →
      ∀ step ∈ doc.steps.dropLast, step.isFinal = true) : doc.linkedSteps = doc.steps := by
  by_cases silent : ∀ step ∈ doc.steps, step.hasTransitions = false
  · rw [linkedSteps_eq_chainSteps silent, chainSteps_eq_self (ends silent)]
  · have stated : doc.steps.any StepDocument.hasTransitions = true := by simpa using silent
    rw [linkedSteps, isLinear, stated, Bool.not_true, Bool.and_false]
    rfl

/-- If no step leads on after linking, none did before, and all but the last one are final. -/
theorem silent_of_linkedSteps
    (unled : ∀ step ∈ doc.linkedSteps, step.hasTransitions = false) :
    (∀ step ∈ doc.steps, step.hasTransitions = false) ∧
      ∀ step ∈ doc.steps.dropLast, step.isFinal = true := by
  have silent : ∀ step ∈ doc.steps, step.hasTransitions = false := by
    by_contra stated
    rw [linkedSteps_eq_steps fun silent => absurd silent stated] at unled
    exact stated unled
  rw [linkedSteps_eq_chainSteps silent] at unled
  exact ⟨silent, isFinal_of_chainSteps unled⟩

theorem Describes.silent_of_isSilent (describes : doc.Describes g) (sound : doc.IsSound)
    (silent : g.IsSilent) :
    (∀ step ∈ doc.steps, step.hasTransitions = false) ∧
      ∀ step ∈ doc.steps.dropLast, step.isFinal = true := by
  apply silent_of_linkedSteps
  intro listed hlisted
  obtain ⟨step, hstep, written⟩ := describes.exists_step sound hlisted
  exact written.transitions_eq_nil_iff.1 (silent step hstep)

/-! ## Documents made from graphs -/

theorem steps_ofGraph_of_isSilent (silent : g.IsSilent) :
    (ofGraph g).steps = g.stepList.map .ofStep := by
  rw [ofGraph, silent.topologicalSteps_eq]

theorem isSilent_of_steps_ofGraph
    (silent : ∀ step ∈ (ofGraph g).steps, step.hasTransitions = false) : g.IsSilent := by
  obtain ⟨steps, hsteps, perm⟩ := exists_steps_ofGraph g
  intro step hstep
  rw [← StepDocument.hasTransitions_ofStep_iff]
  apply silent
  rw [hsteps]
  exact List.mem_map_of_mem (perm.mem_iff.2 hstep)

/-- Without transitions the document has just the steps before the last one by its id to be led
on. -/
theorem isFinal_ofGraph_iff (silent : g.IsSilent) :
    (∀ step ∈ (ofGraph g).steps.dropLast, step.isFinal = true) ↔
      ∀ step ∈ g.stepList.dropLast, step.isFinal = true := by
  rw [steps_ofGraph_of_isSilent silent, ← List.map_dropLast, List.forall_mem_map]
  simp only [StepDocument.isFinal_ofStep]

/-- A graph comes back from its document unless it has no transitions and a step that is not final
is not the last one by its id. -/
theorem toGraph_ofGraph_iff (hentry : g.entry = some entry) (there : g.contains entry = true)
    (named : ∀ step ∈ g.stepList, step.IsNamed) :
    (ofGraph g).toGraph = .ok g ↔
      (g.IsSilent → ∀ step ∈ g.stepList.dropLast, step.isFinal = true) := by
  rw [toGraph_eq_ok_iff]
  constructor
  · rintro ⟨sound, describes⟩ silent
    exact (isFinal_ofGraph_iff silent).1 (describes.silent_of_isSilent sound silent).2
  · intro ends
    refine ⟨isSound_ofGraph hentry there named, describes_ofGraph hentry named ?_⟩
    apply linkedSteps_eq_steps
    intro unstated
    have silent := isSilent_of_steps_ofGraph unstated
    exact (isFinal_ofGraph_iff silent).2 (ends silent)

/-! ## Normal forms -/

/-- Nothing is left to the reading of the document but how its steps are linked: it states the
entry, lists transitions as such and gives parameters as a map. -/
structure IsExplicit (doc : GraphDocument) : Prop where
  entry : ∃ id ∈ doc.steps.map (·.id), doc.entry = some id
  transitions : ∀ step ∈ doc.steps, step.transition = none
  parameters : ∀ step ∈ doc.steps, ∃ fields, step.parameters = .map fields

/-- The order of the steps counts and is not the one of their ids: none has a transition, all but
the last one are final, and one that is not final has a smaller id than another one. -/
structure LosesOrder (doc : GraphDocument) : Prop where
  silent : ∀ step ∈ doc.steps, step.hasTransitions = false
  ends : ∀ step ∈ doc.steps.dropLast, step.isFinal = true
  goes_on : ∃ step ∈ doc.steps, step.isFinal = false ∧ ∃ other ∈ doc.steps, step.id < other.id

theorem isExplicit_ofGraph (hentry : g.entry = some entry) (there : g.contains entry = true)
    (named : ∀ step ∈ g.stepList, step.IsNamed) : (ofGraph g).IsExplicit := by
  have sound := isSound_ofGraph hentry there named
  obtain ⟨steps, hsteps, perm⟩ := exists_steps_ofGraph g
  have of_step {p : StepDocument → Prop} (h : ∀ step, p (.ofStep step)) :
      ∀ doc ∈ (ofGraph g).steps, p doc := by
    intro doc hdoc
    rw [hsteps] at hdoc
    obtain ⟨step, _, rfl⟩ := List.mem_map.1 hdoc
    exact h step
  refine ⟨⟨entry, sound.entry entry hentry, hentry⟩, of_step fun step => ?_, of_step fun step => ?_⟩
  · unfold StepDocument.ofStep
    cases step.action <;> rfl
  · unfold StepDocument.ofStep
    cases step.action <;> exact ⟨_, rfl⟩

theorem Describes.isNamed (describes : doc.Describes g) : ∀ step ∈ g.stepList, step.IsNamed := by
  intro step hstep name parameters calls
  obtain ⟨listed, _, written⟩ := (describes.steps step).1 hstep
  have declared := written.action
  rw [calls] at declared
  cases declared
  assumption

theorem Describes.losesOrder_iff (describes : doc.Describes g) (sound : doc.IsSound) :
    doc.LosesOrder ↔ g.IsSilent ∧ ∃ step ∈ g.stepList.dropLast, step.isFinal = false := by
  constructor
  · rintro ⟨silent, ends, listed, hlisted, open_end, above, habove, less⟩
    have steps := describes.steps
    have kept : doc.linkedSteps = doc.steps := linkedSteps_eq_steps fun _ => ends
    rw [kept] at steps
    rw [← kept] at hlisted habove
    obtain ⟨step, hstep, written⟩ := describes.exists_step sound hlisted
    obtain ⟨other, hother, written'⟩ := describes.exists_step sound habove
    constructor
    · intro step hstep
      obtain ⟨listed, hlisted, written⟩ := (steps step).1 hstep
      exact written.transitions_eq_nil_iff.2 (silent listed hlisted)
    · refine ⟨step, (Graph.mem_dropLast_stepList_iff g step).2 ⟨hstep, other, hother, ?_⟩, ?_⟩
      · rwa [written.id, written'.id]
      · rwa [written.isFinal]
  · rintro ⟨silent, step, hlast, open_end⟩
    obtain ⟨hstep, other, hother, less⟩ := (Graph.mem_dropLast_stepList_iff g step).1 hlast
    obtain ⟨unstated, ends⟩ := describes.silent_of_isSilent sound silent
    have steps := describes.steps
    rw [linkedSteps_eq_steps fun _ => ends] at steps
    obtain ⟨listed, hlisted, written⟩ := (steps step).1 hstep
    obtain ⟨above, habove, written'⟩ := (steps other).1 hother
    refine ⟨unstated, ends, listed, hlisted, ?_, above, habove, ?_⟩
    · rwa [← written.isFinal]
    · rwa [← written.id, ← written'.id]

/-- The document that is made from the graph of a document is a graph again. It is the same one
unless the order of the steps counts and is not the one of their ids. -/
theorem toGraph_normal (h : doc.toGraph = .ok g) :
    (ofGraph g).IsExplicit ∧
      ∃ g', (ofGraph g).toGraph = .ok g' ∧ (g' = g ↔ ¬ doc.LosesOrder) := by
  obtain ⟨sound, describes⟩ := (toGraph_eq_ok_iff doc g).1 h
  obtain ⟨entry, hentry, there⟩ := describes.exists_entry sound
  have named := describes.isNamed
  refine ⟨isExplicit_ofGraph hentry there named, ?_⟩
  obtain ⟨_, _, result⟩ := toGraph_of_isSound (isSound_ofGraph hentry there named)
  refine ⟨_, result, ?_⟩
  have back := toGraph_ofGraph_iff hentry there named
  rw [result, Except.ok.injEq] at back
  rw [back, describes.losesOrder_iff sound, not_and]
  simp only [not_exists, not_and, Bool.not_eq_false]

end GraphDocument

/-- Three steps that are listed one after the other, the first with a list of parameters. -/
def errandDocument : GraphDocument where
  title := none
  description := none
  objective := none
  metadata := none
  entry := none
  steps :=
    [{ StepDocument.ofStep ⟨"1", .tool "weather" .empty, [], none⟩ with
        parameters := .list [("city", .text "Oslo")] },
      .ofStep ⟨"2", .reasoning "Is \x7b1.temperature\x7d warm?", [], none⟩,
      .ofStep ⟨"3", .final, [], none⟩]

/-- Its graph: each step leads to the next one. -/
def errand : Graph where
  steps := Dict.ofList
    [("1", ⟨"1", .tool "weather" (Dict.empty.insert "city" (.text "Oslo")), [⟨"always", "2"⟩],
        none⟩),
      ("2", ⟨"2", .reasoning "Is \x7b1.temperature\x7d warm?", [⟨"always", "3"⟩], none⟩),
      ("3", ⟨"3", .final, [], none⟩)]
  entry := some "1"
  info := .empty
  keyed := by decide +kernel

/-- Its graph states all of this, and stays as it is. -/
theorem errand_is_normal :
    errandDocument.toGraph = .ok errand ∧ ¬ errandDocument.LosesOrder ∧
      (GraphDocument.ofGraph errand).toGraph = .ok errand := by
  have read : errandDocument.toGraph = .ok errand := by decide +kernel
  have kept : ¬ errandDocument.LosesOrder := by
    rintro ⟨_, ends, _⟩
    have leads_on := ends (.ofStep ⟨"2", .reasoning "Is \x7b1.temperature\x7d warm?", [], none⟩)
    revert leads_on
    decide +kernel
  obtain ⟨_, g, again, same⟩ := GraphDocument.toGraph_normal read
  exact ⟨read, kept, same.2 kept ▸ again⟩

/-- A final step, and after it one that is not final and has no transition. -/
def openEnded : GraphDocument where
  title := none
  description := none
  objective := none
  metadata := none
  entry := none
  steps := [.ofStep ⟨"z", .final, [], none⟩, .ofStep ⟨"b", .reasoning "Go", [], none⟩]

/-- Its graph: no step leads on. -/
def openGraph : Graph where
  steps := Dict.ofList
    [("b", ⟨"b", .reasoning "Go", [], none⟩), ("z", ⟨"z", .final, [], none⟩)]
  entry := some "z"
  info := .empty
  keyed := by decide +kernel

/-- The document of its graph lists the steps the other way round, so that `b` is led on to `z`. -/
theorem openEnded_is_led_on :
    openEnded.toGraph = .ok openGraph ∧
      (GraphDocument.ofGraph openGraph).toGraph ≠ .ok openGraph := by
  decide +kernel

end Workflow
