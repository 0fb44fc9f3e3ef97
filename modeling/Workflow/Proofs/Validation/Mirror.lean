import Workflow.Proofs.Validation.WellFormed

/-!
# Mirrored graphs

A graph mirrors another one under new names of the steps if every step of either has its counterpart
in the other: one that leads to the counterparts of its targets and reads nothing but what they
record. Paths of the two correspond one to one, so whatever being well formed says of paths carries
over. What it says of single steps carries over step by step.

Main statement: `Mirrors.wellFormed`.
-/

namespace Workflow

/-- The reference with a new name of its step. -/
def Reference.withStep (rename : String → String) : Reference → Reference
  | .output step field => .output (rename step) field
  | .artifact name => .artifact name

/-- The counterpart of a step under new names. -/
structure Step.Mirrors (rename : String → String) (step m : Step) : Prop where
  id_eq : m.id = rename step.id
  targets_eq : m.targets = step.targets.map rename
  action_eq : ∃ replace, m.action = step.action.substitute replace
  labels_nodup : step.labels.Nodup → m.labels.Nodup
  action_reads : ∀ r' ∈ m.actionReferences, ∃ r ∈ step.actionReferences, r' = r.withStep rename
  label_reads : ∀ label' ∈ m.labels, ∀ r', LabelReads label' r' →
    ∃ label ∈ step.labels, ∃ r, LabelReads label r ∧ r' = r.withStep rename

/-- The steps of `g'` are the counterparts of the steps of `g`. -/
structure Graph.Mirrors (rename : String → String) (g g' : Graph) : Prop where
  inj : ∀ {a b : String}, rename a = rename b → a = b
  there : ∀ step ∈ g.stepList, ∃ m ∈ g'.stepList, step.Mirrors rename m
  back : ∀ m ∈ g'.stepList, ∃ step ∈ g.stepList, step.Mirrors rename m

namespace Step.Mirrors

variable {rename : String → String} {step m : Step} (mirrors : step.Mirrors rename m)
include mirrors

theorem action_eq_final_iff : m.action = .final ↔ step.action = .final := by
  obtain ⟨replace, h⟩ := mirrors.action_eq
  rw [h, Action.substitute_eq_final_iff]

theorem transitions_eq_nil_iff : m.transitions = [] ↔ step.transitions = [] := by
  have targets := mirrors.targets_eq
  rw [Step.targets, Step.targets] at targets
  constructor
  · intro h
    rw [h, List.map_nil, eq_comm] at targets
    simpa using targets
  · intro h
    rw [h, List.map_nil, List.map_nil] at targets
    simpa using targets

theorem writes {schemas : Schemas} {field : String} (h : step.Writes schemas field) :
    m.Writes schemas field := by
  obtain ⟨replace, haction⟩ := mirrors.action_eq
  unfold Step.Writes at h ⊢
  rw [haction]
  cases hact : step.action with
  | final => simp [hact] at h
  | reasoning prompt => simpa [hact, Action.substitute] using h
  | tool name parameters => simpa [hact, Action.substitute] using h

end Step.Mirrors

namespace Graph.Mirrors

variable {rename : String → String} {g g' : Graph} (mirrors : g.Mirrors rename g')
include mirrors

/-! ## Steps -/

theorem step?_rename {id : String} {step : Step} (h : g.step? id = some step) :
    ∃ m, g'.step? (rename id) = some m ∧ step.Mirrors rename m := by
  obtain ⟨m, hm, same⟩ := mirrors.there step (mem_stepList_of_step? h)
  refine ⟨m, ?_, same⟩
  rw [← id_of_step? h, ← same.id_eq]
  exact (mem_stepList_iff g' m).1 hm

theorem exists_of_step? {id' : String} {m : Step} (h : g'.step? id' = some m) :
    ∃ step, id' = rename step.id ∧ g.step? step.id = some step ∧ step.Mirrors rename m := by
  obtain ⟨step, hstep, same⟩ := mirrors.back m (mem_stepList_of_step? h)
  exact ⟨step, by rw [← same.id_eq, id_of_step? h], (mem_stepList_iff g step).1 hstep, same⟩

theorem contains_rename {id : String} (h : g.contains id = true) :
    g'.contains (rename id) = true := by
  obtain ⟨step, hstep⟩ := (contains_iff g id).1 h
  obtain ⟨m, hm, _⟩ := mirrors.step?_rename hstep
  exact (contains_iff g' _).2 ⟨m, hm⟩

theorem exists_of_contains {id' : String} (h : g'.contains id' = true) :
    ∃ id, id' = rename id ∧ g.contains id = true := by
  obtain ⟨m, hm⟩ := (contains_iff g' id').1 h
  obtain ⟨step, hid, hstep, _⟩ := mirrors.exists_of_step? hm
  exact ⟨step.id, hid, (contains_iff g _).2 ⟨step, hstep⟩⟩

/-! ## Paths -/

theorem leads_rename {id target : String} (h : target ∈ g.successors id) :
    rename target ∈ g'.successors (rename id) := by
  obtain ⟨step, hstep, htarget⟩ := (mem_successors_iff g id target).1 h
  obtain ⟨m, hm, same⟩ := mirrors.step?_rename hstep
  refine (mem_successors_iff g' _ _).2 ⟨m, hm, ?_⟩
  rw [same.targets_eq]
  exact List.mem_map_of_mem htarget

theorem exists_of_leads {id target' : String} (h : target' ∈ g'.successors (rename id)) :
    ∃ target, target' = rename target ∧ target ∈ g.successors id := by
  obtain ⟨m, hm, htarget'⟩ := (mem_successors_iff g' _ _).1 h
  obtain ⟨step, hid, hstep, same⟩ := mirrors.exists_of_step? hm
  rw [same.targets_eq] at htarget'
  obtain ⟨target, htarget, rfl⟩ := List.mem_map.1 htarget'
  rw [← mirrors.inj hid] at hstep
  exact ⟨target, rfl, (mem_successors_iff g id target).2 ⟨step, hstep, htarget⟩⟩

theorem walk_rename {first last : String} {walk : List String} (w : g.Walk first last walk) :
    g'.Walk (rename first) (rename last) (walk.map rename) := by
  induction w with
  | start hfirst => exact .start (mirrors.contains_rename hfirst)
  | step w hnext htarget ih =>
      rw [List.map_append]
      exact ih.step (mirrors.leads_rename hnext) (mirrors.contains_rename htarget)

theorem exists_of_walk {first last' : String} {walk' : List String}
    (w : g'.Walk (rename first) last' walk') :
    ∃ last walk, last' = rename last ∧ walk' = walk.map rename ∧ g.Walk first last walk := by
  induction w with
  | start hfirst =>
      obtain ⟨id, hid, hin⟩ := mirrors.exists_of_contains hfirst
      rw [← mirrors.inj hid] at hin
      exact ⟨first, [first], rfl, rfl, .start hin⟩
  | step w hnext htarget ih =>
      obtain ⟨id, walk, rfl, rfl, before⟩ := ih
      obtain ⟨target, rfl, hleads⟩ := mirrors.exists_of_leads hnext
      obtain ⟨id', hid', hin⟩ := mirrors.exists_of_contains htarget
      rw [← mirrors.inj hid'] at hin
      exact ⟨target, walk ++ [target], rfl, by rw [List.map_append]; rfl, before.step hleads hin⟩

theorem reachable_iff (first last : String) :
    g'.Reachable (rename first) (rename last) ↔ g.Reachable first last := by
  constructor
  · rintro ⟨walk', w'⟩
    obtain ⟨last', walk, hlast, -, w⟩ := mirrors.exists_of_walk w'
    rw [← mirrors.inj hlast] at w
    exact ⟨walk, w⟩
  · rintro ⟨walk, w⟩
    exact ⟨walk.map rename, mirrors.walk_rename w⟩

theorem acyclic (h : g.Acyclic) : g'.Acyclic := by
  have original : ∀ {first last' : String}, Relation.TransGen g'.Leads (rename first) last' →
      ∃ last, last' = rename last ∧ Relation.TransGen g.Leads first last := by
    intro first last' path
    induction path with
    | single leads =>
        obtain ⟨last, rfl, hleads⟩ := mirrors.exists_of_leads leads
        exact ⟨last, rfl, .single hleads⟩
    | tail _ leads ih =>
        obtain ⟨middle, rfl, path⟩ := ih
        obtain ⟨last, rfl, hleads⟩ := mirrors.exists_of_leads leads
        exact ⟨last, rfl, path.tail hleads⟩
  intro id' circle
  obtain ⟨next, leads, _⟩ := Relation.TransGen.head'_iff.1 circle
  obtain ⟨id, rfl, _⟩ := mirrors.exists_of_contains (contains_of_mem_successors leads)
  obtain ⟨last, hlast, path⟩ := original circle
  rw [← mirrors.inj hlast] at path
  exact h id path

/-- What a step records is there for the counterparts of its readers. -/
theorem supplies {schemas : Schemas} {entry source field target : String}
    (h : g.Supplies schemas entry source field target) :
    g'.Supplies schemas (rename entry) (rename source) field (rename target) where
  writes := by
    obtain ⟨producer, hproducer, hwrites⟩ := h.writes
    obtain ⟨m, hm, same⟩ := mirrors.step?_rename hproducer
    exact ⟨m, hm, same.writes hwrites⟩
  passed := by
    intro walk' w'
    obtain ⟨last, walk, hlast, rfl, w⟩ := mirrors.exists_of_walk w'
    rw [← mirrors.inj hlast] at w
    exact List.mem_map_of_mem (h.passed walk w)

/-! ## The whole graph -/

/-- The mirror of a well-formed graph is well formed. -/
theorem wellFormed {schemas : Schemas} {entry : String} (wf : g.WellFormed schemas entry) :
    g'.WellFormed schemas (rename entry) where
  reached := by
    intro id' hin'
    obtain ⟨id, rfl, hin⟩ := mirrors.exists_of_contains hin'
    exact (mirrors.reachable_iff entry id).2 (wf.reached id hin)
  targets_exist := by
    intro m hm target' htarget'
    obtain ⟨step, hstep, same⟩ := mirrors.back m hm
    rw [same.targets_eq] at htarget'
    obtain ⟨target, htarget, rfl⟩ := List.mem_map.1 htarget'
    exact mirrors.contains_rename (wf.targets_exist step hstep target htarget)
  ends_iff_final := by
    intro m hm
    obtain ⟨step, hstep, same⟩ := mirrors.back m hm
    rw [same.transitions_eq_nil_iff, same.action_eq_final_iff]
    exact wf.ends_iff_final step hstep
  labels_nodup := by
    intro m hm
    obtain ⟨step, hstep, same⟩ := mirrors.back m hm
    exact same.labels_nodup (wf.labels_nodup step hstep)
  acyclic := mirrors.acyclic wf.acyclic
  isolated := by
    intro m hm
    obtain ⟨step, hstep, same⟩ := mirrors.back m hm
    rw [same.targets_eq, List.pairwise_map]
    refine (wf.isolated step hstep).imp fun {a b} apart id' ha hb => ?_
    obtain ⟨id, rfl, _⟩ := mirrors.exists_of_contains ha.contains_last
    exact apart id ((mirrors.reachable_iff a id).1 ha) ((mirrors.reachable_iff b id).1 hb)
  tools_known := by
    intro m hm name parameters haction
    obtain ⟨step, hstep, same⟩ := mirrors.back m hm
    obtain ⟨replace, hreplace⟩ := same.action_eq
    rw [hreplace] at haction
    exact Action.tool_known_of_substitute (wf.tools_known step hstep) haction
  no_artifact := by
    intro m hm name
    obtain ⟨step, hstep, same⟩ := mirrors.back m hm
    constructor
    · intro hmem
      obtain ⟨r, hr, heq⟩ := same.action_reads _ hmem
      cases r <;> cases heq
      exact (wf.no_artifact step hstep name).1 hr
    · intro label' hlabel' reads
      obtain ⟨label, hlabel, r, hr, heq⟩ := same.label_reads label' hlabel' _ reads
      cases r <;> cases heq
      exact (wf.no_artifact step hstep name).2 label hlabel hr
  action_supplied := by
    intro m hm source' field hmem
    obtain ⟨step, hstep, same⟩ := mirrors.back m hm
    obtain ⟨r, hr, heq⟩ := same.action_reads _ hmem
    cases r <;> cases heq
    obtain ⟨foreign, supplied⟩ := wf.action_supplied step hstep _ field hr
    rw [same.id_eq]
    exact ⟨fun own => foreign (mirrors.inj own), mirrors.supplies supplied⟩
  label_supplied := by
    intro m hm label' hlabel' source' field reads
    obtain ⟨step, hstep, same⟩ := mirrors.back m hm
    obtain ⟨label, hlabel, r, hr, heq⟩ := same.label_reads label' hlabel' _ reads
    cases r <;> cases heq
    rw [same.id_eq]
    exact mirrors.supplies (wf.label_supplied step hstep label hlabel _ field hr)
  final_reached := by
    obtain ⟨step, hstep, final, reached⟩ := wf.final_reached
    obtain ⟨m, hm, same⟩ := mirrors.there step hstep
    refine ⟨m, hm, same.action_eq_final_iff.2 final, ?_⟩
    rw [same.id_eq]
    exact (mirrors.reachable_iff entry step.id).2 reached

end Graph.Mirrors

end Workflow
