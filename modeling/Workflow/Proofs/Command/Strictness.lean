import Workflow.Command.Execution
import Workflow.Proofs.Merge.Merged
import Workflow.Proofs.Validation.Minor

/-!
# Strictness

Under strictness every finding is to block, and what is found in a joined graph does: an empty
prompt or an undeclared parameter comes over from its fragment and is found there again. An artifact
that nobody reads is found in the plan, and in no graph. Joining a plan gives no more than the
graph, so what is found in the plan alone blocks nothing.

Main statement: `perform_strict_merge`, a plan is joined under strictness exactly if nothing is
found but artifacts that are not read.
-/

namespace Workflow

variable {schemas : Schemas}

/-! ## Actions in joined graphs -/

/-- A blank text holds no placeholder. -/
theorem referencesInText_of_isBlankText {text : String} (blank : Text.isBlankText text = true) :
    referencesInText text = [] := by
  refine Template.references_ofChars_of_not_mem fun brace => ?_
  have isBlank : Text.isBlank '{' = true := List.all_eq_true.1 blank _ brace
  exact absurd isBlank (by decide)

/-- A step keeps its defects when its references are replaced. -/
theorem Step.actionFindings_of_substitute {step renamed : Step}
    {replace : Reference → Option Reference}
    (same : renamed.action = step.action.substitute replace)
    (clean : renamed.actionFindings schemas = []) : step.actionFindings schemas = [] := by
  rw [Step.actionFindings, same] at clean
  rw [Step.actionFindings]
  cases haction : step.action with
  | final => rfl
  | reasoning prompt =>
      rw [haction, Action.substitute] at clean
      dsimp only at clean ⊢
      split
      · next blank =>
          rw [substituteText_eq_self (referencesInText_of_isBlankText blank), if_pos blank] at clean
          cases clean
      · rfl
  | tool name parameters =>
      rw [haction, Action.substitute] at clean
      have keys : (parameters.map (substituteValue replace)).keys = parameters.keys := by
        simp [Dict.keys, Dict.map]
      cases hschema : schemas name with
      | none =>
          simp only [hschema] at clean
          cases clean
      | some schema =>
          simp only [hschema, keys, Dict.contains_map, List.append_eq_nil_iff,
            List.map_eq_nil_iff] at clean ⊢
          exact clean

/-- If nothing at all is found in the joined graph of a plan, there was nothing to find in the
actions of its fragments. -/
theorem Merged.actionFindings_eq_nil {fragments : List Fragment} {dependencies : List Dependency}
    {g : Graph} (merged : Merged schemas fragments dependencies g)
    (clean : (g.validate schemas).violations = []) :
    fragments.flatMap (Fragment.actionFindings schemas) = [] := by
  have harmless : Harmless (g.findings schemas fun _ => false) :=
    (isAccepted_iff_harmless _).1 merged.accepted
  have by_step := List.flatMap_eq_nil_iff.1 ((findings_of_harmless harmless).symm.trans clean)
  refine List.flatMap_eq_nil_iff.2 fun fragment hfragment => ?_
  refine List.map_eq_nil_iff.2 (List.flatMap_eq_nil_iff.2 fun step hstep => ?_)
  obtain ⟨i, hi⟩ := List.mem_iff_getElem?.1 hfragment
  cases kept : (planWiring fragments dependencies).redirects.get? (scopedName step.id (i + 1)) with
  | none =>
      have hm := merged.step?_of_kept hi hstep kept
      exact Step.actionFindings_of_substitute rfl (by_step _ (Graph.mem_stepList_of_step? hm))
  | some target =>
      -- Only final steps are left out of the joined graph, and they have no action.
      obtain ⟨final, hfinal, ends⟩ := (fragment.mem_finalIds_iff step.id).1
        (merged.assembled.mem_finalIds_of_redirected hi kept)
      rw [(Graph.mem_stepList_iff _ step).1 hstep] at hfinal
      cases hfinal
      rw [Step.actionFindings, ends]

/-- If nothing at all is found in the joined graph of a plan, nothing is found in the plan but
artifacts that are not read. -/
theorem violations_validatePlan_of_merge {fragments : List Fragment}
    {dependencies : Option (List Dependency)} {g : Graph}
    (joined : merge schemas fragments dependencies = .ok g)
    (clean : (g.validate schemas).violations = []) :
    (validatePlan schemas fragments
      (dependencies.getD (deriveDependencies fragments))).violations =
        productionFindings fragments := by
  have accepted := ((merge_eq_ok_iff ..).1 joined).1
  rw [violations_of_isAccepted accepted, (merged_of_merge joined).actionFindings_eq_nil clean,
    List.nil_append]

namespace Command

/-! ## Outcomes -/

/-- The command fails and writes nothing. -/
def Outcome.Refuses (outcome : Outcome) : Prop :=
  outcome.files = [] ∧ ∃ message, outcome.conclusion = .error message

theorem Outcome.not_refuses_putOut (output : Option String) (text : String) :
    ¬ (putOut output text).Refuses := by
  rintro ⟨_, message, failed⟩
  cases output with
  | none => cases failed
  | some path => cases failed

theorem putOut_inj {output : Option String} {text text' : String}
    (h : putOut output text = putOut output text') : text = text' := by
  cases output with
  | none => exact Except.ok.inj (congrArg Outcome.conclusion h)
  | some path => exact congrArg NewFile.text (List.cons.inj (congrArg Outcome.files h)).1

/-! ## Joining under strictness -/

/-- Under strictness a joined graph is put out if nothing is found in it, and otherwise the command
fails. -/
theorem mergePlan_strict (schemas : Schemas) (plan : Plan) (output : Option String)
    (asJson : Bool) :
    (∃ g, merge schemas plan.fragments plan.dependencies = .ok g ∧
        (g.validate schemas).violations = [] ∧
        mergePlan schemas true plan output asJson = putOut output (graphText asJson g)) ∨
      (∀ g, merge schemas plan.fragments plan.dependencies = .ok g →
        (g.validate schemas).violations ≠ []) ∧
        (mergePlan schemas true plan output asJson).Refuses := by
  unfold mergePlan
  cases joined : merge schemas plan.fragments plan.dependencies with
  | error report =>
      exact .inr ⟨fun g h => (by cases h), rfl, _, rfl⟩
  | ok g =>
      dsimp only [if_true]
      unfold checked
      by_cases clean : (g.validate schemas).violations = []
      · refine .inl ⟨g, rfl, clean, ?_⟩
        rw [Report.isAcceptedWith, if_pos rfl, clean, List.isEmpty_nil, if_pos rfl, findingLines,
          clean]
        cases output <;> rfl
      · refine .inr ⟨fun g' h => Except.ok.inj h ▸ clean, ?_⟩
        rw [Report.isAcceptedWith, if_pos rfl, if_neg (by simpa using clean)]
        exact ⟨rfl, _, rfl⟩

section Strict

variable {s : Surroundings} {settings : Settings} {order : Order} {file : String}
  {output : Option String} {asJson : Bool} {catalog : Catalog} {plan : Plan}

theorem perform_merge (hsettings : Settings.read s.environment = .ok settings)
    (task : order.task = .merge file output asJson)
    (tools : s.loadTools settings order = .ok catalog)
    (loaded : s.loadDocument "plan" file loadPlan = .ok plan) :
    perform s order =
      mergePlan catalog.schema? (order.isStrict || settings.isStrict) plan output asJson := by
  rw [perform, hsettings]
  show performWith s settings order = _
  rw [performWith, task, tools]
  show Outcome.withValue (s.loadDocument "plan" file loadPlan) _ = _
  rw [loaded, Outcome.withValue]

/-- Under strictness the graph of a plan is put out exactly if it can be joined, nothing is found in
it, and nothing is found in the plan but artifacts that are not read; otherwise the command fails
and writes nothing. So there is a finding that does not block exactly if an artifact is not read. -/
theorem perform_strict_merge (hsettings : Settings.read s.environment = .ok settings)
    (task : order.task = .merge file output asJson)
    (strict : (order.isStrict || settings.isStrict) = true)
    (tools : s.loadTools settings order = .ok catalog)
    (loaded : s.loadDocument "plan" file loadPlan = .ok plan) :
    (∀ text, perform s order = putOut output text ↔
      ∃ g, merge catalog.schema? plan.fragments plan.dependencies = .ok g ∧
        text = graphText asJson g ∧ (g.validate catalog.schema?).violations = [] ∧
        (validatePlan catalog.schema? plan.fragments
          (plan.dependencies.getD (deriveDependencies plan.fragments))).violations =
            productionFindings plan.fragments) ∧
      ((∃ text, perform s order = putOut output text) ∨ (perform s order).Refuses) ∧
      (productionFindings plan.fragments = [] ↔ AllRead plan.fragments) := by
  rw [perform_merge hsettings task tools loaded, strict]
  refine ⟨fun text => ?_, ?_, productionFindings_eq_nil_iff plan.fragments⟩
  · obtain ⟨g, joined, clean, out⟩ | ⟨found, refuses⟩ :=
      mergePlan_strict catalog.schema? plan output asJson
    · rw [out]
      constructor
      · intro h
        exact ⟨g, joined, (putOut_inj h).symm, clean, violations_validatePlan_of_merge joined clean⟩
      · rintro ⟨g', joined', rfl, _, _⟩
        rw [joined] at joined'
        cases joined'
        rfl
    · refine iff_of_false (fun h => ?_) ?_
      · rw [h] at refuses
        exact Outcome.not_refuses_putOut output text refuses
      · rintro ⟨g, joined, _, clean, _⟩
        exact found g joined clean
  · obtain ⟨g, _, _, out⟩ | ⟨_, refuses⟩ := mergePlan_strict catalog.schema? plan output asJson
    · exact .inl ⟨_, out⟩
    · exact .inr refuses

end Strict

/-! ## A note -/

/-- A plan of one fragment that takes a note and declares to read these artifacts. -/
def notePlan (reads : List String) : Plan :=
  ⟨[questionFragment "look" "Look." (some "note") reads], none⟩

/-- The document of the plan. The one step that is not final leads on to the other. -/
def noteDocument (reads : List String) : Json :=
  .object [("fragments", .array [.object
    [ ("name", .text "look"),
      ("produces", .object
        [("note", .object [("step", .text "look"), ("field", .text "response")])]),
      ("consumes", .array (reads.map .text)),
      ("steps", .array
        [ .object [("id", .text "look"), ("action", .text "call_llm"), ("prompt", .text "Look.")],
          .object [("id", .text "end"), ("is_final", .bool true)] ]) ]])]

/-- A place where the document is the only file and no variable is set. -/
def noteSurroundings (reads : List String) : Surroundings where
  environment := fun _ => none
  file? := fun path => if path = "plan.json" then some (noteDocument reads).compact else none
  exchange := fun _ => .error "unreachable"
  newId := fun _ => ""
  now := ""

/-- The order to join the plan under strictness. -/
def noteOrder : Order := ⟨none, true, .merge "plan.json" none false⟩

/-- Without variables the settings are usable, and name no tool catalog. -/
theorem exists_settings_of_unset (reads : List String) : ∃ settings,
    Settings.read (noteSurroundings reads).environment = .ok settings ∧
      (noteSurroundings reads).loadTools settings noteOrder = .ok .empty := by
  have unset : (Settings.read fun _ => none).toOption.map (·.catalogFile) = some none := by
    decide +kernel
  obtain ⟨settings, hsettings, nowhere⟩ := Option.map_eq_some_iff.1 unset
  refine ⟨settings, toOption_eq_some_iff.1 hsettings, ?_⟩
  rw [Surroundings.loadTools, nowhere]
  rfl

/-- A fragment that reads its own note: nothing is found, and the graph is put out. -/
theorem read_note_is_joined :
    (noteSurroundings ["note"]).loadDocument "plan" "plan.json" loadPlan =
        .ok (notePlan ["note"]) ∧
      (∃ text, perform (noteSurroundings ["note"]) noteOrder = putOut none text) ∧
      AllRead (notePlan ["note"]).fragments := by
  have loaded : (noteSurroundings ["note"]).loadDocument "plan" "plan.json" loadPlan =
      .ok (notePlan ["note"]) := by
    decide +kernel
  have succeeds : (mergePlan (Catalog.schema? .empty) true (notePlan ["note"]) none
      false).conclusion.isOk = true := by
    decide +kernel
  obtain ⟨settings, hsettings, tools⟩ := exists_settings_of_unset ["note"]
  have task : noteOrder.task = .merge "plan.json" none false := rfl
  have strict : (noteOrder.isStrict || settings.isStrict) = true := rfl
  obtain ⟨_, decided, read⟩ := perform_strict_merge hsettings task strict tools loaded
  refine ⟨loaded, decided.resolve_right fun ⟨_, message, failed⟩ => ?_, read.1 (by decide +kernel)⟩
  rw [perform_merge hsettings task tools loaded, strict] at failed
  rw [failed] at succeeds
  cases succeeds

/-- A note that nobody reads is found in the plan, and yet the graph is put out under strictness. -/
theorem unread_note_is_joined :
    Request.read ["--strict", "merge", "plan.json"] = .perform noteOrder ∧
      (noteSurroundings []).loadDocument "plan" "plan.json" loadPlan = .ok (notePlan []) ∧
      (validatePlan (Catalog.schema? .empty) (notePlan []).fragments
          (deriveDependencies (notePlan []).fragments)).violations =
        [.neverConsumed "note" "look" "look"] ∧
      ∃ g, merge (Catalog.schema? .empty) (notePlan []).fragments (notePlan []).dependencies =
          .ok g ∧
        perform (noteSurroundings []) noteOrder = putOut none (graphText false g) := by
  have loaded : (noteSurroundings []).loadDocument "plan" "plan.json" loadPlan =
      .ok (notePlan []) := by
    decide +kernel
  have succeeds : (mergePlan (Catalog.schema? .empty) true (notePlan []) none
      false).conclusion.isOk = true := by
    decide +kernel
  obtain ⟨settings, hsettings, tools⟩ := exists_settings_of_unset []
  have task : noteOrder.task = .merge "plan.json" none false := rfl
  have strict : (noteOrder.isStrict || settings.isStrict) = true := rfl
  refine ⟨by decide +kernel, loaded, by decide +kernel, ?_⟩
  rw [perform_merge hsettings task tools loaded, strict]
  obtain ⟨g, joined, _, out⟩ | ⟨_, _, message, failed⟩ :=
    mergePlan_strict (Catalog.schema? .empty) (notePlan []) none false
  · exact ⟨g, joined, out⟩
  · rw [failed] at succeeds
    cases succeeds

end Command

end Workflow
