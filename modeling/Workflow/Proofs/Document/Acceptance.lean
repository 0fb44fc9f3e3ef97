import Mathlib.Data.List.Induction
import Workflow.Proofs.Document.Step
import Workflow.Proofs.Graph.Walk

/-!
# Which documents are graphs

A document is a graph if its steps are what steps have to be, have different ids, and include the
entry that is stated. Otherwise there is a report, and nothing that is wrong with one step keeps
what is wrong with another one out of it: the steps are added one after the other, and adding one
puts behind the findings so far either that its id has occurred, or what is wrong with the step.

Main statements: `GraphDocument.toGraph_eq_ok_iff`, a document is read as the graph that it
describes just if it is sound, and `GraphDocument.toGraph_decides`, which adds what a report
consists of.
-/

namespace Workflow

/-! ## Adding steps -/

namespace GraphDraft

theorem findings_add (draft : GraphDraft) (doc : StepDocument) :
    (draft.add doc).findings =
      draft.findings ++ if doc.id ∈ draft.seen then [.repeatedId doc.id] else doc.faults := by
  unfold add
  split
  · rfl
  · rw [StepDocument.faults]
    cases doc.toStep with
    | error findings => rfl
    | ok step => simp

theorem mem_seen_add (draft : GraphDraft) (doc : StepDocument) (id : String) :
    id ∈ (draft.add doc).seen ↔ id ∈ draft.seen ∨ id = doc.id := by
  unfold add
  split
  · next seen =>
      constructor
      · exact .inl
      · rintro (h | rfl)
        · exact h
        · exact seen
  · split <;> simp [or_comm]

/-- What the draft is after some steps were added: of several with one id it has the first, and its
findings are accounted for by what was added. -/
structure Follows (draft : GraphDraft) (info : GraphInfo) (docs : List StepDocument) : Prop where
  seen : ∀ id, id ∈ draft.seen ↔ id ∈ docs.map (·.id)
  steps : ∀ id, draft.graph.step? id = (docs.find? (·.id = id)).bind (·.toStep.toOption)
  info : draft.graph.info = info
  repeated : ∀ id, draft.findings.count (.repeatedId id) = (docs.map (·.id)).count id - 1
  faulty : ∀ id,
    draft.findings.filter (·.isOn id) = ((docs.find? (·.id = id)).map (·.faults)).getD []
  only : ∀ finding ∈ draft.findings,
    ∃ id ∈ docs.map (·.id), finding = .repeatedId id ∨ finding.isOn id = true

variable {draft : GraphDraft} {info : GraphInfo} {docs : List StepDocument}

theorem find?_eq_none_of_not_mem {id : String} (h : id ∉ docs.map (·.id)) :
    docs.find? (·.id = id) = none := by
  rw [List.find?_eq_none]
  intro doc hdoc same
  exact h (List.mem_map.2 ⟨doc, hdoc, by simpa using same⟩)

theorem find?_concat (docs : List StepDocument) (doc : StepDocument) (id : String) :
    (docs ++ [doc]).find? (·.id = id) =
      if id = doc.id ∧ doc.id ∉ docs.map (·.id) then some doc else docs.find? (·.id = id) := by
  rw [List.find?_append]
  by_cases same : id = doc.id
  · subst same
    by_cases before : doc.id ∈ docs.map (·.id)
    · obtain ⟨first, hfirst, id⟩ := List.mem_map.1 before
      have found : (docs.find? (·.id = doc.id)).isSome = true :=
        List.find?_isSome.2 ⟨first, hfirst, by simpa using id⟩
      rw [if_neg (fun h => h.2 before), Option.or_of_isSome found]
    · rw [if_pos ⟨rfl, before⟩, find?_eq_none_of_not_mem before]
      simp
  · have other : ¬ doc.id = id := fun h => same h.symm
    simp [same, other]

theorem Follows.step?_add (follows : draft.Follows info docs) (doc : StepDocument) (id : String) :
    (draft.add doc).graph.step? id =
      if id = doc.id ∧ doc.id ∉ docs.map (·.id) then doc.toStep.toOption
      else draft.graph.step? id := by
  unfold add
  split
  · next before =>
      rw [follows.seen] at before
      rw [if_neg (fun h => h.2 before)]
  · next fresh =>
      rw [follows.seen] at fresh
      have vacant : draft.graph.step? doc.id = none := by
        rw [follows.steps, find?_eq_none_of_not_mem fresh]
        rfl
      cases read : doc.toStep with
      | error findings =>
          by_cases same : id = doc.id <;> simp [same, fresh, vacant, Except.toOption]
      | ok step =>
          have keyed : step.id = doc.id := ((doc.toStep_eq_ok_iff step).1 read).id
          obtain ⟨graph, added⟩ := Graph.addStep_of_fresh (keyed ▸ vacant)
          simp [added, Graph.step?_addStep added, keyed, fresh, Except.toOption]

theorem info_add (draft : GraphDraft) (doc : StepDocument) :
    (draft.add doc).graph.info = draft.graph.info := by
  unfold add
  split
  · rfl
  · split
    · rfl
    · next step _ =>
        cases added : draft.graph.addStep step with
        | error => rfl
        | ok graph => exact Graph.info_addStep added

theorem Follows.findings_add (follows : draft.Follows info docs) (doc : StepDocument) :
    (draft.add doc).findings =
      draft.findings ++
        if doc.id ∈ docs.map (·.id) then [.repeatedId doc.id] else doc.faults := by
  simp only [GraphDraft.findings_add, follows.seen]

theorem Follows.count_add (follows : draft.Follows info docs) (doc : StepDocument) (id : String) :
    (draft.add doc).findings.count (.repeatedId id) =
      ((docs ++ [doc]).map (·.id)).count id - 1 := by
  rw [follows.findings_add, List.count_append, follows.repeated, List.map_append, List.count_append]
  by_cases before : doc.id ∈ docs.map (·.id)
  · have counted := List.count_pos_iff.2 before
    by_cases same : doc.id = id
    · subst same
      simp [before]
    · simp [before, same]
  · have none := List.count_eq_zero.2 (doc.repeatedId_not_mem_faults id)
    rw [if_neg before, none]
    by_cases same : doc.id = id
    · subst same
      simp [List.count_eq_zero.2 before]
    · simp [same]

theorem Follows.filter_add (follows : draft.Follows info docs) (doc : StepDocument) (id : String) :
    (draft.add doc).findings.filter (·.isOn id) =
      (((docs ++ [doc]).find? (·.id = id)).map (·.faults)).getD [] := by
  rw [follows.findings_add, List.filter_append, follows.faulty, find?_concat]
  by_cases before : doc.id ∈ docs.map (·.id)
  · simp [before]
  · rw [if_neg before, StepDocument.filter_isOn_faults]
    by_cases same : id = doc.id
    · subst same
      rw [if_pos rfl, if_pos ⟨rfl, before⟩, find?_eq_none_of_not_mem before]
      rfl
    · rw [if_neg same, if_neg (fun h => same h.1), List.append_nil]

/-- Adding a step keeps the draft in line with what was added. -/
theorem Follows.add (follows : draft.Follows info docs) (doc : StepDocument) :
    (draft.add doc).Follows info (docs ++ [doc]) := by
  constructor
  · intro id
    rw [mem_seen_add, follows.seen, List.map_append, List.mem_append, List.map_singleton,
      List.mem_singleton]
  · intro id
    rw [follows.step?_add, find?_concat, follows.steps]
    split <;> rfl
  · rw [info_add, follows.info]
  · exact follows.count_add doc
  · exact follows.filter_add doc
  · intro finding hfinding
    rw [follows.findings_add, List.mem_append] at hfinding
    rcases hfinding with earlier | new
    · obtain ⟨id, hid, found⟩ := follows.only finding earlier
      rw [List.map_append]
      exact ⟨id, List.mem_append_left _ hid, found⟩
    · refine ⟨doc.id, by simp, ?_⟩
      split at new
      · exact .inl (List.mem_singleton.1 new)
      · exact .inr (StepDocument.isOn_of_mem_faults new)

/-- The draft after all steps were added. -/
theorem follows_foldl (info : GraphInfo) (docs : List StepDocument) :
    (docs.foldl GraphDraft.add ⟨Graph.empty.withInfo info, [], []⟩).Follows info docs := by
  induction docs using List.reverseRecOn with
  | nil => constructor <;> simp [Graph.step?, Graph.withInfo, Graph.empty]
  | append_singleton docs doc ih =>
      rw [List.foldl_append]
      exact ih.add doc

theorem find?_eq_some_iff (distinct : (docs.map (·.id)).Nodup) (id : String)
    (doc : StepDocument) : docs.find? (·.id = id) = some doc ↔ doc ∈ docs ∧ doc.id = id := by
  constructor
  · intro h
    exact ⟨List.mem_of_find?_eq_some h, by simpa using List.find?_some h⟩
  · rintro ⟨hdoc, rfl⟩
    obtain ⟨other, found⟩ := Option.isSome_iff_exists.1
      (List.find?_isSome.2 ⟨doc, hdoc, by simp⟩ : (docs.find? (·.id = doc.id)).isSome = true)
    have same : other.id = doc.id := by simpa using List.find?_some found
    rw [found, List.inj_on_of_nodup_map distinct (List.mem_of_find?_eq_some found) hdoc same]

/-- Nothing is wrong exactly if all steps are sound and their ids are different. -/
theorem Follows.findings_eq_nil_iff (follows : draft.Follows info docs) :
    draft.findings = [] ↔ (docs.map (·.id)).Nodup ∧ ∀ doc ∈ docs, doc.IsSound := by
  constructor
  · intro clean
    have distinct : (docs.map (·.id)).Nodup := by
      rw [List.nodup_iff_count_le_one]
      intro id
      have none := follows.repeated id
      rw [clean, List.count_nil] at none
      exact Nat.sub_eq_zero_iff_le.1 none.symm
    refine ⟨distinct, fun doc hdoc => ?_⟩
    have none := follows.faulty doc.id
    rw [clean, (find?_eq_some_iff distinct _ _).2 ⟨hdoc, rfl⟩] at none
    exact doc.faults_eq_nil_iff.1 none.symm
  · rintro ⟨distinct, sound⟩
    rw [List.eq_nil_iff_forall_not_mem]
    intro finding hfinding
    obtain ⟨id, hid, rfl | on⟩ := follows.only finding hfinding
    · have counted := List.count_pos_iff.2 hfinding
      rw [follows.repeated] at counted
      have once := List.nodup_iff_count_le_one.1 distinct id
      omega
    · obtain ⟨doc, hdoc, rfl⟩ := List.mem_map.1 hid
      have filtered := List.mem_filter.2 ⟨hfinding, on⟩
      rw [follows.faulty, (find?_eq_some_iff distinct _ _).2 ⟨hdoc, rfl⟩, Option.map_some,
        Option.getD_some, doc.faults_eq_nil_iff.2 (sound doc hdoc)] at filtered
      cases filtered

end GraphDraft

/-! ## Steps that follow each other -/

/-- What is stated otherwise than by the one transition is kept when steps are linked. -/
theorem map_chainSteps {α : Type} {f : StepDocument → α}
    (h : ∀ doc transition, f { doc with transition := transition } = f doc)
    (docs : List StepDocument) : (chainSteps docs).map f = docs.map f := by
  fun_induction chainSteps docs with
  | case1 doc next rest ih =>
      rw [List.map_cons, List.map_cons, ih]
      split
      · rfl
      · rw [h]
  | case2 => rfl

theorem StepDocument.faults_with_transition (doc : StepDocument)
    (transition : Option TransitionDocument) :
    StepDocument.faults { doc with transition := transition } = doc.faults := by
  have same : StepDocument.toAction { doc with transition := transition } = doc.toAction := rfl
  unfold faults toStep
  rw [same]
  cases doc.toAction <;> rfl

namespace GraphDocument

variable {doc : GraphDocument} {g : Graph}

theorem map_linkedSteps {α : Type} {f : StepDocument → α}
    (h : ∀ doc transition, f { doc with transition := transition } = f doc) (doc : GraphDocument) :
    doc.linkedSteps.map f = doc.steps.map f := by
  unfold linkedSteps
  split
  · exact map_chainSteps h doc.steps
  · rfl

theorem map_id_linkedSteps (doc : GraphDocument) :
    doc.linkedSteps.map (·.id) = doc.steps.map (·.id) :=
  map_linkedSteps (fun _ _ => rfl) doc

theorem isSound_linkedSteps_iff (doc : GraphDocument) :
    (∀ step ∈ doc.linkedSteps, step.IsSound) ↔ ∀ step ∈ doc.steps, step.IsSound := by
  have sound_iff (docs : List StepDocument) :
      (∀ step ∈ docs, step.IsSound) ↔ ∀ faults ∈ docs.map (·.faults), faults = [] := by
    simp only [← StepDocument.faults_eq_nil_iff, List.forall_mem_map]
  rw [sound_iff, sound_iff, map_linkedSteps StepDocument.faults_with_transition]

theorem faults_find?_linkedSteps (doc : GraphDocument) (id : String) :
    (doc.linkedSteps.find? (·.id = id)).map (·.faults) =
      (doc.steps.find? (·.id = id)).map (·.faults) := by
  have paired (docs : List StepDocument) : (docs.find? (·.id = id)).map (·.faults) =
      ((docs.map fun step => (step.id, step.faults)).find? (·.1 = id)).map (·.2) := by
    rw [List.find?_map, Option.map_map]
    rfl
  rw [paired, paired, map_linkedSteps]
  intro step transition
  rw [StepDocument.faults_with_transition]

/-! ## Graphs -/

/-- There are steps, they are sound and have different ids, and if an entry is stated, it is among
them. -/
structure IsSound (doc : GraphDocument) : Prop where
  listed : doc.steps ≠ []
  distinct : (doc.steps.map (·.id)).Nodup
  steps : ∀ step ∈ doc.steps, step.IsSound
  entry : ∀ id, doc.entry = some id → id ∈ doc.steps.map (·.id)

/-- The graph is the one that is written. -/
structure Describes (doc : GraphDocument) (g : Graph) : Prop where
  steps : ∀ step, step ∈ g.stepList ↔ ∃ listed ∈ doc.linkedSteps, listed.Describes step
  entry : g.entry = doc.entryId?
  info : g.info = doc.info

/-- The finding on an entry that is stated and not among the steps. -/
def entryFindings (doc : GraphDocument) : List Violation :=
  match doc.entry with
  | some id => if id ∈ doc.steps.map (·.id) then [] else [.unknownEntry id]
  | none => []

theorem entryFindings_eq_nil_iff (doc : GraphDocument) :
    doc.entryFindings = [] ↔ ∀ id, doc.entry = some id → id ∈ doc.steps.map (·.id) := by
  unfold entryFindings
  cases doc.entry with
  | none => simp
  | some id => by_cases h : id ∈ doc.steps.map (·.id) <;> simp_all

theorem entryId?_of_stated {id : String} (stated : doc.entry = some id) :
    doc.entryId? = some id := by
  rw [entryId?, stated]

/-- There always is an entry, and one that is not stated is among the steps. -/
theorem exists_entryId? (listed : doc.steps ≠ []) :
    ∃ id, doc.entryId? = some id ∧ (doc.entry = some id ∨ id ∈ doc.steps.map (·.id)) := by
  cases stated : doc.entry with
  | some id => exact ⟨id, entryId?_of_stated stated, .inl rfl⟩
  | none =>
      obtain ⟨first, rest, cons⟩ := List.exists_cons_of_ne_nil listed
      have first_listed : first.id ∈ doc.steps.map (·.id) := by simp [cons]
      have head : (doc.steps.map (·.id)).head? = some first.id := by simp [cons]
      simp only [entryId?, stated, head]
      split
      · exact ⟨first.id, rfl, .inr first_listed⟩
      · split
        · next one => exact ⟨"1", rfl, .inr one⟩
        · exact ⟨first.id, rfl, .inr first_listed⟩

theorem entryFindings_of_entryId? {id : String} (hentry : doc.entryId? = some id)
    (known : doc.entry = some id ∨ id ∈ doc.steps.map (·.id)) :
    doc.entryFindings = if id ∈ doc.steps.map (·.id) then [] else [.unknownEntry id] := by
  rcases known with stated | listed
  · simp only [entryFindings, stated]
  · rw [if_pos listed, entryFindings_eq_nil_iff]
    intro other stated
    rw [entryId?_of_stated stated, Option.some.injEq] at hentry
    rwa [hentry]

/-- The findings are those that adding the steps left, and the one on the entry. -/
theorem toGraph_eq (listed : doc.steps ≠ []) :
    ∃ draft : GraphDraft, draft.Follows doc.info doc.linkedSteps ∧
      doc.toGraph =
        match draft.findings ++ doc.entryFindings with
        | [] =>
            .ok ((doc.entryId?.bind fun id => (draft.graph.setEntry id).toOption).getD draft.graph)
        | findings => .error ⟨findings⟩ := by
  have follows := GraphDraft.follows_foldl doc.info doc.linkedSteps
  have some_step : doc.steps.isEmpty = false := by simpa using listed
  obtain ⟨id, hentry, known⟩ := exists_entryId? listed
  simp only [toGraph, some_step, hentry, entryFindings_of_entryId? hentry known]
  generalize doc.linkedSteps.foldl GraphDraft.add ⟨Graph.empty.withInfo doc.info, [], []⟩ = draft
    at follows ⊢
  refine ⟨draft, follows, ?_⟩
  simp only [follows.seen, map_id_linkedSteps]
  rfl

theorem IsSound.nodup_linkedSteps (sound : doc.IsSound) :
    (doc.linkedSteps.map (·.id)).Nodup := by
  rw [map_id_linkedSteps]
  exact sound.distinct

theorem IsSound.exists_entryId? (sound : doc.IsSound) :
    ∃ id ∈ doc.steps.map (·.id), doc.entryId? = some id := by
  obtain ⟨id, hentry, stated | listed⟩ := GraphDocument.exists_entryId? sound.listed
  · exact ⟨id, sound.entry id stated, hentry⟩
  · exact ⟨id, listed, hentry⟩

/-- The graph of a sound document has the steps that were added, and the entry. -/
theorem toGraph_of_isSound (sound : doc.IsSound) :
    ∃ draft : GraphDraft, draft.Follows doc.info doc.linkedSteps ∧
      doc.toGraph = .ok { draft.graph with entry := doc.entryId? } := by
  obtain ⟨draft, follows, result⟩ := toGraph_eq sound.listed
  refine ⟨draft, follows, ?_⟩
  have distinct := sound.nodup_linkedSteps
  have steps := (isSound_linkedSteps_iff doc).2 sound.steps
  rw [result, follows.findings_eq_nil_iff.2 ⟨distinct, steps⟩,
    (entryFindings_eq_nil_iff doc).2 sound.entry]
  obtain ⟨id, listed, hentry⟩ := sound.exists_entryId?
  rw [← map_id_linkedSteps] at listed
  obtain ⟨step, hstep, rfl⟩ := List.mem_map.1 listed
  obtain ⟨read, describes⟩ := StepDocument.exists_describes (steps step hstep)
  have there : draft.graph.contains step.id = true := by
    refine (Graph.contains_iff _ _).2 ⟨read, ?_⟩
    rw [follows.steps, (GraphDraft.find?_eq_some_iff distinct _ _).2 ⟨hstep, rfl⟩]
    simp [(step.toStep_eq_ok_iff read).2 describes, Except.toOption]
  simp only [hentry, Option.bind_some, Graph.setEntry, there]
  rfl

/-- A graph is determined by what is written. -/
theorem Describes.unique {g' : Graph} (describes : doc.Describes g)
    (describes' : doc.Describes g') : g = g' := by
  refine Graph.eq_of_step? (fun id => Option.ext fun step => ?_)
    (describes.entry.trans describes'.entry.symm) (describes.info.trans describes'.info.symm)
  rw [Graph.step?_eq_some_iff, Graph.step?_eq_some_iff, describes.steps, describes'.steps]

theorem describes_of_follows (sound : doc.IsSound) {draft : GraphDraft}
    (follows : draft.Follows doc.info doc.linkedSteps) :
    doc.Describes { draft.graph with entry := doc.entryId? } := by
  have distinct := sound.nodup_linkedSteps
  refine ⟨fun step => ?_, rfl, follows.info⟩
  have steps := follows.steps step.id
  rw [Graph.mem_stepList_iff]
  constructor
  · intro h
    rw [Graph.step?] at steps h
    rw [h, eq_comm, Option.bind_eq_some_iff] at steps
    obtain ⟨listed, found, read⟩ := steps
    have hlisted := ((GraphDraft.find?_eq_some_iff distinct _ _).1 found).1
    cases result : listed.toStep with
    | error => simp [result, Except.toOption] at read
    | ok _ =>
        obtain rfl : _ = step := by simpa [result, Except.toOption] using read
        exact ⟨listed, hlisted, (listed.toStep_eq_ok_iff _).1 result⟩
  · rintro ⟨listed, hlisted, describes⟩
    have found := (GraphDraft.find?_eq_some_iff distinct _ _).2 ⟨hlisted, describes.id.symm⟩
    rw [found, Option.bind_some, (listed.toStep_eq_ok_iff step).2 describes] at steps
    exact steps

theorem toGraph_eq_ok_iff (doc : GraphDocument) (g : Graph) :
    doc.toGraph = .ok g ↔ doc.IsSound ∧ doc.Describes g := by
  constructor
  · intro h
    have listed : doc.steps ≠ [] := by
      intro none
      rw [toGraph, none] at h
      cases h
    obtain ⟨draft, follows, result⟩ := toGraph_eq listed
    have clean : draft.findings ++ doc.entryFindings = [] := by
      cases findings : draft.findings ++ doc.entryFindings with
      | nil => rfl
      | cons =>
          rw [h, findings] at result
          cases result
    rw [List.append_eq_nil_iff, follows.findings_eq_nil_iff, entryFindings_eq_nil_iff,
      map_id_linkedSteps, isSound_linkedSteps_iff] at clean
    have sound : doc.IsSound := ⟨listed, clean.1.1, clean.1.2, clean.2⟩
    obtain ⟨draft, follows, result⟩ := toGraph_of_isSound sound
    rw [h] at result
    cases result
    exact ⟨sound, describes_of_follows sound follows⟩
  · rintro ⟨sound, describes⟩
    obtain ⟨draft, follows, result⟩ := toGraph_of_isSound sound
    rw [result, describes.unique (describes_of_follows sound follows)]

/-- Each step that is listed is in the graph. -/
theorem Describes.exists_step (describes : doc.Describes g) (sound : doc.IsSound)
    {listed : StepDocument} (h : listed ∈ doc.linkedSteps) :
    ∃ step ∈ g.stepList, listed.Describes step := by
  obtain ⟨step, written⟩ :=
    StepDocument.exists_describes ((isSound_linkedSteps_iff doc).2 sound.steps listed h)
  exact ⟨step, (describes.steps step).2 ⟨listed, h, written⟩, written⟩

theorem Describes.contains_iff (describes : doc.Describes g) (sound : doc.IsSound) (id : String) :
    g.contains id = true ↔ id ∈ doc.steps.map (·.id) := by
  rw [← map_id_linkedSteps, List.mem_map]
  constructor
  · intro there
    obtain ⟨step, hstep⟩ := (Graph.contains_iff g id).1 there
    obtain ⟨hmem, rfl⟩ := (Graph.step?_eq_some_iff g id step).1 hstep
    obtain ⟨listed, hlisted, written⟩ := (describes.steps step).1 hmem
    exact ⟨listed, hlisted, written.id.symm⟩
  · rintro ⟨listed, hlisted, rfl⟩
    obtain ⟨step, hstep, written⟩ := describes.exists_step sound hlisted
    rw [← written.id]
    exact Graph.contains_of_mem_stepList hstep

/-- The graph has just the steps that are listed. -/
theorem Describes.perm_ids (describes : doc.Describes g) (sound : doc.IsSound) :
    g.ids.Perm (doc.steps.map (·.id)) := by
  rw [List.perm_ext_iff_of_nodup (Graph.ids_nodup g) sound.distinct]
  intro id
  rw [Graph.mem_ids_iff, describes.contains_iff sound]

theorem Describes.exists_entry (describes : doc.Describes g) (sound : doc.IsSound) :
    ∃ entry, g.entry = some entry ∧ g.contains entry = true := by
  obtain ⟨entry, listed, hentry⟩ := sound.exists_entryId?
  exact ⟨entry, describes.entry.trans hentry, (describes.contains_iff sound entry).2 listed⟩

end GraphDocument

/-! ## Reports -/

/-- The findings are those on the steps as listed. -/
structure StepsReported (docs : List StepDocument) (findings : List Violation) : Prop where
  /-- Each occurrence of an id but the first has a finding of its own. -/
  repeated : ∀ id, findings.count (.repeatedId id) = (docs.map (·.id)).count id - 1
  /-- The first step of an id has the findings on what is wrong with it. -/
  faulty : ∀ id doc, docs.find? (·.id = id) = some doc →
    doc.HasFaults (findings.filter (·.isOn id))
  only : ∀ finding ∈ findings,
    ∃ id ∈ docs.map (·.id), finding = .repeatedId id ∨ finding.isOn id = true

namespace GraphDocument

variable {doc : GraphDocument} {draft : GraphDraft}

theorem stepsReported_of_follows (follows : draft.Follows doc.info doc.linkedSteps) :
    StepsReported doc.steps draft.findings := by
  constructor
  · intro id
    rw [follows.repeated, map_id_linkedSteps]
  · intro id step found
    rw [follows.faulty, faults_find?_linkedSteps, found]
    exact step.hasFaults_faults
  · rw [← map_id_linkedSteps]
    exact follows.only

/-- A document is a graph exactly if it is sound, the graph is then the one that it describes, with
an entry that exists, and otherwise every fault of every step is reported. -/
theorem toGraph_decides (doc : GraphDocument) :
    ((∃ g, doc.toGraph = .ok g) ↔ doc.IsSound) ∧
      (∀ g, doc.toGraph = .ok g →
        doc.Describes g ∧ g.ids.Perm (doc.steps.map (·.id)) ∧
          ∃ entry, g.entry = some entry ∧ g.contains entry = true) ∧
      ∀ report, doc.toGraph = .error report → doc.steps ≠ [] →
        ∃ found, StepsReported doc.steps found ∧
          report.violations = found ++ doc.entryFindings := by
  refine ⟨?_, ?_, ?_⟩
  · constructor
    · rintro ⟨g, h⟩
      exact ((toGraph_eq_ok_iff doc g).1 h).1
    · intro sound
      obtain ⟨draft, _, result⟩ := toGraph_of_isSound sound
      exact ⟨_, result⟩
  · intro g h
    obtain ⟨sound, describes⟩ := (toGraph_eq_ok_iff doc g).1 h
    exact ⟨describes, describes.perm_ids sound, describes.exists_entry sound⟩
  · intro report h listed
    obtain ⟨draft, follows, result⟩ := toGraph_eq listed
    refine ⟨draft.findings, stepsReported_of_follows follows, ?_⟩
    rw [h] at result
    split at result
    · cases result
    · cases result
      rfl

/-- A step that is listed under a number and again under its digits, a parameter that is set three
times, and an entry that is not there. -/
example :
    (readGraph (.ofJson (.object
      [("entry", .text "3"),
        ("steps", .array
          [.object [("id", .int 1), ("is_final", .bool true)],
            .object [("id", .text "1"), ("action", .text "call_llm")],
            .object
              [("id", .int 2), ("action", .text "call_tool"), ("tool_name", .text "weather"),
                ("parameters", .array
                  [.object [("key", .text "city"), ("value", .text "Oslo")],
                    .object [("key", .text "city"), ("value", .text "Bergen")],
                    .object [("key", .text "city"), ("value", .null)]])]])]))).result?.map
        (·.toGraph) =
      some (.error
        ⟨[.repeatedId "1", .repeatedParameter "2" "city", .repeatedParameter "2" "city",
          .unknownEntry "3"]⟩) := by
  decide +kernel

end GraphDocument

end Workflow
